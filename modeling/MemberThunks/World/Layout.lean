import MemberThunks.World.Basic

set_option autoImplicit false

/- What instances are made of. A class builds its instances on those of one of its bases and
   may add a dictionary, weak references and slots; classes whose instances are made alike can
   take the place of one another. -/
namespace MemberThunks

namespace Builtin

/-- Whether instances of the class hold content of their own. -/
def isSolid (kind : Builtin) : Bool :=
  [int, float, complex, str, bytes, bytearray, list, dict, tuple, set, frozenset, type].contains kind

/-- Whether the size of the content differs from instance to instance. -/
def isSized (kind : Builtin) : Bool := [int, bytes, tuple].contains kind

/-- Whether the class takes no attributes. -/
def isFixed : Builtin → Bool
  | enum | reprEnum | intEnum | strEnum | generic | any | abstract _ => false
  | other home _ => home != "typing"
  | _ => true

end Builtin

namespace World

/-- What a class adds to the instances it builds on: a dictionary, weak references, slots. -/
def additions (world : World) : ClassRef → Bool × Bool × List String
  | .builtin .enum | .builtin .strEnum => (true, true, [])
  | .builtin .intEnum => (true, false, [])
  | .builtin _ => (false, false, [])
  | target =>
    match world.find? target with
    | some definition =>
      (definition.layout.dictionary, definition.layout.reference, definition.layout.slots)
    | none => (false, false, [])

def isSolid (world : World) (target : ClassRef) : Bool :=
  match target with
  | .builtin kind => kind.isSolid
  | _ => !(world.additions target).2.2.isEmpty

/-- The nearest class that gives instances of a class more than a dictionary. -/
def solidRoot (world : World) (target : ClassRef) : ClassRef :=
  ((world.chain target).find? world.isSolid).getD .object

/-- The base on whose instances a class with some bases builds its own. -/
def layoutBase (world : World) : List ClassRef → ClassRef
  | [] => .object
  | first :: rest =>
    (rest.foldl (fun (kept : ClassRef × ClassRef) base =>
      let candidate := world.solidRoot base
      if world.isSubclass kept.2 candidate then kept
      else if world.isSubclass candidate kept.2 then (base, candidate)
      else kept) (first, world.solidRoot first)).1

/-- The built-in classes that settle whether instances can be referred to weakly. -/
def settlesReferences : ClassRef → Bool
  | .builtin kind => [Builtin.int, .bytes, .tuple, .set, .frozenset, .type].contains kind
  | _ => false

/-- Whether instances of a class can be referred to weakly, or whether that is settled. -/
def isReferenced (world : World) (target : ClassRef) : Bool :=
  settlesReferences target || (world.additions target).2.1

/-- The layout of a class with some bases. A class without a list of slots adds what its base
lacks; one with a list adds what it lists, and what another base has. -/
def layoutOf (world : World) (target : ClassRef) (bases : List ClassRef)
    (slots : Option (List String)) (names : List String) : Layout :=
  let base := world.layoutBase bases
  let added (name : String) (has : ClassRef → Bool) : Bool :=
    !(world.chain base).any has &&
      (slots.all (·.contains name) || bases.any fun other => (world.chain other).any has)
  ⟨target :: world.chain base, added "__dict__" world.givesDictionary,
    added "__weakref__" world.isReferenced, names.mergeSort fun left right => left ≤ right⟩

/-- Where the instances of a class were last added to, and what they were before that. -/
def lastAdded (world : World) (target : ClassRef) : List ClassRef :=
  (world.chain target).dropWhile fun owner =>
    !world.isSolid owner && world.additions owner == (false, false, [])

/-- Whether two classes make their instances alike: both of one class, or of two that add the
same to one. What comes after content of no fixed size is never alike. -/
def isAlike (world : World) (left right : ClassRef) : Bool :=
  match world.lastAdded left, world.lastAdded right with
  | root :: base :: rest, root' :: base' :: _ =>
    root = root' ||
      (base = base' && world.additions root == world.additions root' &&
        world.additions root != (false, false, []) &&
        !((world.additions root).1 && (base :: rest).any fun owner =>
          match owner with
          | .builtin kind => kind.isSized
          | _ => false))
  | lefts, rights => lefts.head? == rights.head?

/-- Whether the class takes no attributes. -/
def isFixedClass : ClassRef → Bool
  | .builtin kind => kind.isFixed
  | _ => false

end World

end MemberThunks
