import MemberThunks.TypeForm.Argument

set_option autoImplicit false

/- Comparing two declared types, where that can be done. A literal type is itself; it can
   be compared with another one only where the values of both have a hash. What is told
   apart before that is not looked at further. -/
namespace MemberThunks.TypeForm

/-- Compares literal types, of which each may list values without a hash. -/
def compareLiterals (world : World) (left right : List Value) (equal : Bool) :
    Except FormFault Bool :=
  match (world.unhashableAmong left).or (world.unhashableAmong right) with
  | some owner => .error (.unhashable (world.bareName owner))
  | Option.none => .ok equal

mutual

def compare (world : World) : TypeForm → TypeForm → Except FormFault Bool
  | literal left mark, literal right mark' =>
    if mark = mark' ∧ mark ≠ 0 then .ok true
    else compareLiterals world left right ((literal left mark).equal (literal right mark'))
  | generic head origin arguments, generic head' origin' arguments' =>
    if origin = origin' ∧ head = head' then compareAll world arguments arguments' else .ok false
  | callable parameters result, callable parameters' result' => do
    if ← compareAll world parameters parameters' then compare world result result'
    else return false
  | annotated base metadata, annotated base' metadata' => do
    if ← compare world base base' then return Value.equalAll metadata metadata' else return false
  | classVar left, classVar right | final left, final right => compare world left right
  | left, right => .ok (left.equal right)
termination_by structural left => left

def compareAll (world : World) : List TypeForm → List TypeForm → Except FormFault Bool
  | [], [] => .ok true
  | left :: lefts, right :: rights => do
    if ← compare world left right then compareAll world lefts rights else return false
  | _, _ => .ok false
termination_by structural lefts => lefts

end

end MemberThunks.TypeForm
