import MemberThunks.World.Telling

set_option autoImplicit false

/- Signatures: the formal parameters of whatever stands in the place of a function. A
   class has those of what a class of the world makes its objects with, and an object
   those of the call that its class defines, without the receiver. What wraps something
   has the signature of that. -/
namespace MemberThunks

namespace Signature

def unannotated (formals : List Formal) : List Formal :=
  formals.map fun formal => { formal with type? := none }

/-- Formals that leave out the first, which a call of a class or an object fills. -/
def bound (formals : List Formal) : Except Raised (List Formal) :=
  match formals with
  | [] => .error .noReceiver
  | first :: rest =>
    match first.kind with
    | .positionalOnly | .ordinary => .ok rest
    | .variadic => .ok (first :: rest)
    | .keywordOnly | .keywordVariadic => .error .noReceiver

/-- The formals of a built-in class, where it tells them. -/
def ofBuiltin? : Builtin → Option (List Formal)
  | .object | .abstract _ | .empty => some []
  | .list | .tuple => some (Builtin.formalsFrom false ["iterable"])
  | .float => some (Builtin.formalsFrom false ["x"])
  | .complex => some [Formal.named "real", Formal.named "imag"]
  | .any => some (Builtin.formalsFrom false ["*args", "**kwargs"])
  | .generic => some []
  | _ => none

/-- The formals under which an enumeration is called. -/
def ofEnumeration : List Formal :=
  [Formal.named "value", Formal.named "names"] ++
    ["module", "qualname", "type", "start", "boundary"].map fun name =>
      ⟨name, .keywordOnly, none, none⟩

/-- The formals that the built-in ancestors of a class tell. -/
def ofAncestors (world : World) (target : ClassRef) : Except Raised (List Formal) :=
  let told := (world.order target).filterMap fun ancestor =>
    match ancestor with
    | .builtin kind => if kind = .object then none else some (kind, ofBuiltin? kind)
    | _ => none
  match told.find? fun entry => entry.2.any (!·.isEmpty) with
  | some (_, formals) => .ok (formals.getD [])
  | none =>
    if told.all fun entry => entry.2.isSome then .ok []
    else .error (.untold ("type " ++ world.displayClass target))

/-- Whether a value is a routine that no class of the world defines. -/
def isNative : Value → Bool
  | .native _ => true
  | .foreign (.other "" kind) _ | .holder (.other "" kind) _ _ =>
    ["wrapper_descriptor", "method-wrapper", "classmethod_descriptor",
      "builtin_function_or_method"].contains kind
  | _ => false

/-- What a class of the world has under the name of an operation, read from the class. -/
def userDefined? (world : World) (call : Caller) (target : ClassRef) (name : String) :
    Run (Option Value) := do
  match world.lookup target name with
  | none | some (_, .native _) => return none
  | some (owner, found) => do
    let read ← tryCatch (some <$> world.readFromClass call target owner name found) fun raised =>
      if raised.isAttributeFault then pure none else throw raised
    return read.filter fun callee => !isNative callee && !callee.isNone

/-- What a class of the world makes its objects with: the first constructor or initializer
along the resolution order, under the name that it goes by. -/
def maker? (world : World) (call : Caller) (target : ClassRef) : Run (Option Value) := do
  let constructor ← userDefined? world call target "__new__"
  let initializer ← userDefined? world call target "__init__"
  let has (ancestor : ClassRef) (name : String) : Bool :=
    (world.ownAttribute? ancestor name).isSome
  return (world.order target).findSome? fun ancestor =>
    if constructor.isSome && has ancestor "__new__" then constructor
    else if initializer.isSome && has ancestor "__init__" then initializer
    else none

/-- Whether a value is a routine because its class says how it is read and not how it is
stored. -/
def isReader (world : World) (value : Value) : Bool :=
  match value with
  | .object _ _ | .wrapped _ _ _ =>
    (world.operation? value "__get__").isSome && (world.operation? value "__set__").isNone
  | _ => false

/-- The formals of a form of the typing vocabulary, which any call fits. -/
def ofForm (form : TypeForm) : List Formal :=
  match form with
  | .newType _ _ => Builtin.formalsFrom false ["x"]
  | .special _ => Builtin.formalsFrom false ["*args", "**kwds"]
  | _ => Builtin.formalsFrom false ["*args", "**kwargs"]

/-- Whether a value can be called by its class. -/
def isCallable (world : World) : Value → Bool
  | .form written =>
    match written with
    | .union .bar _ | .parameter _ _ _ | .forward _ => false
    | _ => true
  | .cls _ => true
  | other => (world.lookup other.typeOf "__call__").isSome

/-- What a value wraps, through all that wraps, but for what says itself what its formals
are. -/
def unwrapped (world : World) (call : Caller) (wrapper : Value) : Nat → Value → Run Value
  | 0, _ => do Run.fail (.wrappedInItself (← world.writtenText call wrapper))
  | depth + 1, value => do
    match value with
    | .bound _ _ => return value
    | _ =>
      match ← world.attribute? call value "__wrapped__" with
      | none => return value
      | some inner => do
        if (← world.attribute? call value "__signature__").isSome then return value
        else unwrapped world call wrapper depth inner

/-- Whether a value is the one that it says its formals are of. -/
def checkStated (world : World) (call : Caller) (value : Value) : Run Unit := do
  match ← world.attribute? call value "__signature__" with
  | none | some .none => pure ()
  | some stated => do Run.fail (.badSignature (← world.writtenText call stated))

/-- How many values may wrap each other. -/
def wrappingLimit : Nat := 1000

/-- What a value that is called stands for, which is no routine bound to anything. -/
def stripped (world : World) (call : Caller) (callee : Value) : Run Value := do
  match callee with
  | .function _ _ | .callable _ _ | .native _ | .bound _ _ => return callee
  | _ =>
    if !isCallable world callee then
      Run.fail (.noCallee (← world.writtenText call callee))
    else
      let inner ← unwrapped world call callee wrappingLimit callee
      checkStated world call inner
      return inner

/-- The formals of what is called. -/
def within (world : World) (call : Caller) : Nat → Value → Run (List Formal)
  | 0, _ => Run.fail .tooDeep
  | depth + 1, callee => do
    let ofRoutine (value : Value) : Run (List Formal) :=
      match world.routine? value with
      | some routine => pure routine.formals
      | none => do Run.fail (.noCallee (← world.writtenText call value))
    match ← stripped world call callee with
    | .function index qualname => ofRoutine (.function index qualname)
    | .callable index qualname => do return unannotated (← ofRoutine (.callable index qualname))
    | .native .len => return [⟨"obj", .positionalOnly, none, none⟩]
    | .native .max => Run.fail (.untold ((Value.native .max).display world))
    | .bound _ inner => do Run.ofExcept (bound (← within world call depth inner))
    | .cls (.builtin .type) => Run.fail (.untold (world.displayClass (.builtin .type)))
    | .cls (.enumeration _ _) => return ofEnumeration
    | .cls target =>
      match ← maker? world call target with
      | some maker => do Run.ofExcept (bound (← within world call depth maker))
      | none => Run.ofExcept (ofAncestors world target)
    | .form written => return ofForm written
    | other =>
      if isReader world other then Run.fail (.untold (← world.writtenText call other))
      else
        match ← userDefined? world call other.typeOf "__call__" with
        | none => Run.fail (.unsigned (← world.writtenText call other))
        | some answer => do Run.ofExcept (bound (← within world call depth answer))

/-- How deep what is called may stand for something else that is. -/
def nestingLimit : Nat := 1000

def ofCallee (world : World) (call : Caller) (callee : Value) : Run (List Formal) :=
  within world call nestingLimit callee

/-- The formals of a built-in routine. -/
def ofNative (world : World) (owner : ClassRef) (name : String) (definition : NativeRoutine) :
    Except Raised (List Formal) :=
  match definition.formals with
  | some formals => .ok formals
  | none => .error (.untold (definition.sort.describe (world.bareName owner) name))

end Signature

end MemberThunks
