import MemberThunks.World.Access

set_option autoImplicit false

/- Which values are instances of which classes and type forms. An ordinary class goes by
   the resolution order of the class of a value, or of the class that the value says it
   has; an abstract class by the methods of that class, and it remembers what it has
   found. Not every type form can be asked. -/
namespace MemberThunks

namespace World

/-- The built-in classes that count as an abstract one whatever their methods. -/
def registered : Abstract → List Builtin
  | .sized | .container | .iterable | .collection =>
    [.list, .tuple, .str, .bytes, .bytearray, .dict, .set, .frozenset]
  | .reversible | .sequence => [.list, .tuple, .str, .bytes, .bytearray]
  | .mutableSequence => [.list, .bytearray]
  | .byteString => [.bytes, .bytearray]
  | .set => [.set, .frozenset]
  | .mutableSet => [.set]
  | .mapping | .mutableMapping => [.dict]
  | _ => []

/-- Whether a class has a method, which some class of its order may deny. -/
def offers (world : World) (target : ClassRef) (name : String) : Bool :=
  match world.lookup target name with
  | some (_, .value .none) | none => false
  | some _ => true

/-- What an abstract class finds of another class. -/
def finds (world : World) (kind : Abstract) (target : ClassRef) : Bool :=
  (!kind.methods.isEmpty && kind.methods.all (world.offers target)) ||
    world.isSubclass target (.builtin (.abstract kind)) ||
    (registered kind).any fun builtin => world.isSubclass target (.builtin builtin)

/-- What is known of a class by a store: what has been found of it, or what is found now. -/
def known (world : World) (store : Store) (target : ClassRef) (kind : Abstract) : Bool :=
  (store.verdicts.lookup (kind, target)).getD (world.finds kind target)

/-- Whether a class counts as an abstract one: what has been found of it, or else what is
found now of it and of the abstract classes that derive from that one. What a class does not
count as, it counts as no kind of either. -/
def verdict (world : World) (kind : Abstract) (target : ClassRef) : Run Bool := do
  let store ← get
  match store.verdicts.lookup (kind, target) with
  | some found => return found
  | none =>
    let found := (kind :: kind.refinements).any (world.known store target)
    let settled := if found then [kind] else kind :: kind.refinements
    modify fun store => settled.foldl (fun store kind => store.decide kind target found) store
    return found

/-- The class that a value says it has. -/
def statedClass (world : World) (call : Caller) (value : Value) : Run Value :=
  match value.address? with
  | some _ => world.normalGet call value "__class__"
  | none => pure (.cls value.typeOf)

/-- The class that a value says it has, if it says that it has one. -/
def claimedClass? (world : World) (call : Caller) (value : Value) : Run (Option ClassRef) := do
  match value.address? with
  | none => return some value.typeOf
  | some _ =>
    match ← world.attribute? call value "__class__" with
    | some (.cls target) => return some target
    | _ => return none

/-- Whether a value is an instance of an abstract class. -/
def isAbstractInstance (world : World) (call : Caller) (kind : Abstract) (value : Value) :
    Run Bool := do
  match ← world.statedClass call value with
  | .cls target =>
    if ← world.verdict kind target then return true
    else if target = value.typeOf then return false
    else world.verdict kind value.typeOf
  | _ => Run.fail (.uncheckable .noClassGiven)

/-- The method by which a class of the vocabulary tells its instances. -/
def tellingMethod? (name : String) : Option String :=
  [("SupportsAbs", "__abs__"), ("SupportsBytes", "__bytes__"), ("SupportsComplex", "__complex__"),
    ("SupportsFloat", "__float__"), ("SupportsIndex", "__index__"), ("SupportsInt", "__int__"),
    ("SupportsRound", "__round__")].lookup name

def isInstance (world : World) (call : Caller) (value : Value) : ClassRef → Run Bool
  | .builtin .any =>
    Run.fail (.uncheckable (.unsupported (world.displayClass (.builtin .any))))
  | .builtin (.other "typing" "Protocol") => Run.fail (.uncheckable .staticProtocol)
  | .builtin (.abstract kind) =>
    if value.typeOf = .builtin (.abstract kind) then pure true
    else world.isAbstractInstance call kind value
  | .builtin (.other "typing" name) =>
    match tellingMethod? name with
    | some method => pure (world.offers value.typeOf method)
    | none => pure (value.typeOf = .builtin (.other "typing" name))
  | target => do
    if world.isSubclass value.typeOf target then return true
    else
      match ← world.claimedClass? call value with
      | some claimed => return world.isSubclass claimed target
      | none => return false

/-- Whether a class counts as another one. -/
def countsAs (world : World) (target : ClassRef) : ClassRef → Run Bool
  | .builtin (.abstract kind) => world.verdict kind target
  | other => pure (world.isSubclass target other)

def uncheckable (fault : CheckFault) : Run Bool := Run.fail (.uncheckable fault)

/-- The check of one member of a union in the typing vocabulary, by the class of the
value alone. -/
def isInstanceOfMember (world : World) (value : Value) : TypeForm → Run Bool
  | .cls target | .shorthand _ target => world.countsAs value.typeOf target
  | .special name => uncheckable (.unsupportedMember ("typing." ++ name))
  | .generic .native _ _ => uncheckable .parameterizedMember
  | .generic _ _ _ | .callable _ _ | .annotated _ _ | .literal _ _ => uncheckable .subscripted
  | _ => uncheckable .noClassMember

/-- The check of one member of a union written with bars. -/
def isInstanceOfBarMember (world : World) (call : Caller) (value : Value) : TypeForm → Run Bool
  | .cls target => world.isInstance call value target
  | .generic .native _ _ => uncheckable .parameterized
  | _ => pure false

mutual

def isInstanceOf (world : World) (call : Caller) (value : Value) : TypeForm → Run Bool
  | .cls target => world.isInstance call value target
  | .shorthand _ target => world.countsAs value.typeOf target
  | .special name => uncheckable (.unsupported ("typing." ++ name))
  | .union .subscript members => Run.anyOf (members.map (world.isInstanceOfMember value))
  | .union .bar members => Run.anyOf (members.map (world.isInstanceOfBarMember call value))
  | .generic .native _ _ => uncheckable .parameterized
  | .generic _ _ _ | .callable _ _ | .annotated _ _ | .literal _ _ | .classVar _ | .final _ =>
    uncheckable .subscripted
  | .value content => isInstanceOfValue world call value content
  | _ => uncheckable .noClass
termination_by structural form => form

/-- The check against a value in the place of a class: a tuple stands for each of its
items. -/
def isInstanceOfValue (world : World) (call : Caller) (value : Value) : Value → Run Bool
  | .cls target => world.isInstance call value target
  | .form written => isInstanceOf world call value written
  | .tuple items => isInstanceOfAny world call value items
  | .wrapped _ _ content =>
    match content with
    | .tuple items => isInstanceOfAny world call value items
    | _ => uncheckable .noClass
  | _ => uncheckable .noClass
termination_by structural content => content

def isInstanceOfAny (world : World) (call : Caller) (value : Value) : List Value → Run Bool
  | [] => pure false
  | content :: rest => do
    if ← isInstanceOfValue world call value content then return true
    else isInstanceOfAny world call value rest
termination_by structural contents => contents

end

end World

end MemberThunks
