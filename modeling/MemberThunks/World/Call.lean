import MemberThunks.World.Binding
import MemberThunks.World.Instantiation

set_option autoImplicit false

/- Calling values. A call of a routine binds its arguments, is logged in the trace
   unless it is a hook, and then performs the actions of its body on the receiver.
   Calls nest up to a limit. -/
namespace MemberThunks

/-- A routine at work: its receiver and its other arguments by name. -/
structure Frame where
  receiver : Option Value
  arguments : Entries String Value

namespace Frame

def ofBound (routine : Routine) (bound : Entries String Value) : Frame :=
  match routine.hasReceiver, bound with
  | true, (_, receiver) :: rest => ⟨some receiver, rest⟩
  | _, all => ⟨none, all⟩

def self (frame : Frame) : Value := frame.receiver.getD .none

def evaluate (world : World) (call : Caller) (frame : Frame) : Operand → Run Value
  | .parameter name =>
    match frame.arguments.lookup name with
    | some value => pure value
    | none => Run.fail (.unknownName name)
  | .receiver => pure frame.self
  | .stored name => world.directGet call frame.self name
  | .constant value => pure value
  | .arguments => pure (.list (frame.arguments.map (·.2)))
  | .sum left right => do
    let first ← evaluate world call frame left
    let second ← evaluate world call frame right
    world.sum call first second

def perform (world : World) (call : Caller) (frame : Frame) : List Action → Run Value
  | [] => pure .none
  | .give operand :: _ => frame.evaluate world call operand
  | .store name operand :: rest => do
    let content ← frame.evaluate world call operand
    world.directSet call frame.self name content
    perform world call frame rest
  | .fail kind text :: _ => Run.fail (.user kind text)

/-- The attribute name a hook is asked for. -/
def key (frame : Frame) : Value := (frame.arguments.lookup "key").getD .none

def event (routine : Routine) (frame : Frame) : Event :=
  ⟨routine.qualname, frame.receiver, frame.arguments⟩

end Frame

namespace World

/-- Runs the body of a routine once its arguments are bound. -/
def runBody (world : World) (call : Caller) (routine : Routine) (frame : Frame) : Run Value :=
  match routine.body with
  | .actions steps => do
    modify fun store => store.log (frame.event routine)
    frame.perform world call steps
  | .guarded text => Run.fail (.guarded text)
  | .masked table =>
    match frame.key.payload with
    | .text name =>
      match table.lookup name with
      | some value => pure value
      | none => world.directGet call frame.self name
    | other => Run.fail (.nameNotText (world.ownerName other))
  | .fallback table =>
    match frame.key.payload with
    | .text name =>
      match table.lookup name with
      | some value => pure value
      | none => Run.fail (.noFallback name)
    | other => Run.fail (.notJoinable .str (world.ownerName other))

def runRoutine (world : World) (call : Caller) (routine : Routine) (arguments : List Value)
    (keywords : Entries String Value) : Run Value :=
  match Binding.bind routine.formals arguments keywords with
  | .error fault => Run.fail (.binding routine.qualname fault)
  | .ok bound => world.runBody call routine (Frame.ofBound routine bound)

def length (world : World) (call : Caller) (arguments : List Value) : Run Value :=
  match arguments with
  | [value] => world.lengthOf call value
  | other => Run.fail (.lengthArity other.length)

/-- What stands for a value in a comparison. -/
def rank (call : Caller) (key : Option Value) (value : Value) : Run Value :=
  match key with
  | none => pure value
  | some key => call key [value] []

/-- The first of the values with the greatest rank, given the best so far with its rank. -/
def greatest (world : World) (call : Caller) (key : Option Value) (best : Value × Value) :
    List Value → Run Value
  | [] => pure best.1
  | next :: rest => do
    let rank ← rank call key next
    let better ← world.isGreater call nestingDepth rank best.2
    greatest world call key (if better then (next, rank) else best) rest

/-- The greatest of some values, or what stands in for it where there are none. -/
def greatestOf (world : World) (call : Caller) (key default : Option Value) :
    List Value → Run Value
  | [] =>
    match default with
    | some value => pure value
    | none => Run.fail .maximumOfEmpty
  | first :: rest => do
    world.greatest call key (first, ← rank call key first) rest

/-- The names under which the greatest value is told what to compare and what to stand in. -/
def maximumKeywords : List String := ["key", "default"]

def maximum (world : World) (call : Caller) (arguments : List Value)
    (keywords : Entries String Value) : Run Value := do
  if arguments.isEmpty then Run.fail .maximumOfNothing
  else if maximumKeywords.length < keywords.length then
    Run.fail (.tooManyKeywords "max" maximumKeywords.length keywords.length)
  else
    match keywords.find? fun entry => !maximumKeywords.contains entry.1 with
    | some entry => Construction.refuse (.unknownKeyword entry.1 "max")
    | none =>
      let key := (keywords.lookup "key").filter fun value => !value.isNone
      match arguments, keywords.lookup "default" with
      | [only], default => world.greatestOf call key default (← world.elements call only)
      | _, some _ => Run.fail .maximumDefault
      | several, none => world.greatestOf call key none several

def callNative (world : World) (call : Caller) (routine : Native) (arguments : List Value)
    (keywords : Entries String Value) : Run Value :=
  match routine with
  | .len =>
    if keywords.isEmpty then world.length call arguments
    else Run.fail (.noKeywords (Display.native routine))
  | .max => world.maximum call arguments keywords

/-- What a built-in class makes of no arguments. -/
def blank? : Builtin → Option Value
  | .bool => some (.bool false)
  | .int => some (.int 0)
  | .float => some (.float "0.0")
  | .complex => some (.complex "0.0" "0.0")
  | .str => some (.text "")
  | .bytes => some (.octets [])
  | .bytearray => some (.buffer [])
  | .list => some (.list [])
  | .dict => some (.dict [])
  | .tuple => some (.tuple [])
  | .set => some (.set [])
  | .frozenset => some (.frozenset [])
  | .noneType => some .none
  | _ => none

/-- The first built-in class with contents among some ancestors. -/
def contentClass? (ancestors : List ClassRef) : Option Builtin :=
  ancestors.findSome? fun ancestor =>
    match ancestor with
    | .builtin kind => if (blank? kind).isSome then some kind else none
    | _ => none

/-- A bare object of a class of the world at an address. -/
def blankObject (world : World) (target : ClassRef) (address : Nat) : Value :=
  match (contentClass? (world.order target)).bind blank? with
  | some content => .wrapped address target content
  | none => .object address target

/-- An object of a class of the world that acts as a built-in value. -/
def wrapped (world : World) (address : Nat) (target : ClassRef) (content : Value) : Value :=
  match content with
  | .octets octets =>
    if world.isSubclass target (.builtin .bytearray) then .wrapped address target (.buffer octets)
    else .wrapped address target content
  | .set elements => .wrapped address target (.set (Value.copyOf elements))
  | .frozenset elements => .wrapped address target (.frozenset (Value.copyOf elements))
  | _ => .wrapped address target content

/-- A new object of a class, before any initializer. -/
def instantiate (world : World) (target : ClassRef) : Run Value :=
  match target with
  | .builtin kind =>
    pure ((blank? kind).getD (.foreign kind (world.displayObject target)))
  | _ => do
    let address ← modifyGet Store.takeAddress
    pure (world.blankObject target address)

/-- The member of an enumeration that has a value. -/
def memberOf (world : World) (target : ClassRef) (content : Value) : Except Raised Value :=
  match (world.membersOf target).find? fun member =>
      member.2.equal content || Value.holds content member.2 with
  | some member => .ok member.2
  | none => .error (.notMember (content.display world) (world.qualname target))

/-- The formals under which an enumeration is called. -/
def enumerationFormals : List Formal :=
  [Formal.named "cls", Formal.named "value", ⟨"names", .ordinary, none, some .none⟩] ++
    ["module", "qualname", "type", "start", "boundary"].map fun name =>
      ⟨name, .keywordOnly, none, some .none⟩

/-- An enumeration is called with the value of a member. -/
def callEnumeration (world : World) (target : ClassRef) (arguments : List Value)
    (keywords : Entries String Value) : Except Raised Value :=
  match Binding.bind enumerationFormals (.cls target :: arguments) keywords with
  | .error fault => .error (.binding "EnumType.__call__" fault)
  | .ok bound => world.memberOf target ((bound.lookup "value").getD .none)

/-- What a class of the world has under the name of a step of making its objects. -/
def making? (world : World) (target : ClassRef) (name : String) : Option (ClassRef × Attribute) :=
  (world.lookup target name).filter fun found =>
    match found.2 with
    | .native _ => false
    | _ => true

/-- Runs the initializer that a class of the world gives an object. -/
def runInitializer (world : World) (call : Caller) (made : Value) (arguments : List Value)
    (keywords : Entries String Value) : Run Unit :=
  match world.making? made.typeOf "__init__" with
  | none => pure ()
  | some (_, found) => do
    let initializer ← world.readBound call made made.typeOf "__init__" found
    match ← call initializer arguments keywords with
    | .none => pure ()
    | given => Run.fail (.initialized (world.ownerName given))

/-- What a class makes by itself of arguments, with the content that its built-in class makes
of them. Where the class has an initializer of its own, that is to take the arguments. -/
def makePlain (world : World) (call : Caller) (target : ClassRef) (given : Given) : Run Value :=
  let owner := world.bareName target
  let ownInitializer := (world.making? target "__init__").isSome
  match target, contentClass? (world.order target) with
  | .builtin kind, _ =>
    match Construction.content? world call kind owner false given with
    | some made => made
    | none =>
      match kind, given.isEmpty, instanceFault? kind with
      | .any, _, some fault | _, true, some fault => Construction.refuse fault
      | _, true, none => world.instantiate target
      | _, false, _ => Run.fail (.takesNothing owner)
  | _, some kind =>
    match Construction.content? world call kind owner ownInitializer given with
    | none => world.instantiate target
    | some made =>
      if ownInitializer && Construction.fillsLater kind then world.instantiate target
      else do
        let content ← made
        let address ← modifyGet Store.takeAddress
        return world.wrapped address target content
  | _, none =>
    if given.isEmpty || ownInitializer then world.instantiate target
    else Run.fail (.takesNothing owner)

/-- A class is called through the constructor and the initializer that classes of the
world give it. What the constructor gives is initialized where it is of the class. -/
def callClass (world : World) (call : Caller) (target : ClassRef) (arguments : List Value)
    (keywords : Entries String Value) : Run Value :=
  match target with
  | .enumeration _ _ => Run.ofExcept (world.callEnumeration target arguments keywords)
  | _ => do
    let made ←
      match world.making? target "__new__" with
      | none => world.makePlain call target ⟨arguments, keywords⟩
      | some (owner, found) => do
        let constructor ← world.readFromClass call target owner "__new__" found
        call constructor (.cls target :: arguments) keywords
    if world.isSubclass made.typeOf target then world.runInitializer call made arguments keywords
    return made

/-- Calls any value, with calls nested to the given depth at most. -/
def call (world : World) : Nat → Caller
  | 0, _, _, _ => Run.fail .tooDeep
  | depth + 1, callee, arguments, keywords =>
    match callee with
    | .function index _ | .callable index _ =>
      match world.routines[index]? with
      | some routine => world.runRoutine (world.call depth) routine arguments keywords
      | none => Run.fail (.notCallable (world.ownerName callee))
    | .bound receiver inner => world.call depth inner (receiver :: arguments) keywords
    | .native routine => world.callNative (world.call depth) routine arguments keywords
    | .cls target => world.callClass (world.call depth) target arguments keywords
    | .form written => world.callForm (world.call depth) written ⟨arguments, keywords⟩
    | _ =>
      match world.hook? callee "__call__" with
      | some inner => world.call depth inner arguments keywords
      | none => Run.fail (.notCallable (world.ownerName callee))

/-- How deep calls may nest. -/
def callLimit : Nat := 1000

end World

end MemberThunks
