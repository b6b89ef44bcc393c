import MemberThunks.TypeForm.Comparison
import MemberThunks.World.Operator

set_option autoImplicit false

/- Whether values are equal where their classes are asked. The class of an object may say
   what it equals; the object on the left is asked first, unless the class of the other one
   derives from its class, and one that does not know leaves it to the other. What holds
   objects asks for them one by one, but for those that are one and the same. -/
namespace MemberThunks

namespace Value

/-- Whether a value is made anew wherever it is written. -/
def isFresh : Value → Bool
  | .list _ | .dict _ | .set _ | .buffer _ | .bound _ _ => true
  | .form (.generic .native _ _) | .form (.union .bar _) => true
  | _ => false

/-- Whether two values are one. -/
def isOne (left right : Value) : Bool :=
  match left, right with
  | .form (.literal _ mark), .form (.literal _ mark') =>
    mark == mark' && (mark != 0 || left.equal right)
  | _, _ =>
    match left.address?, right.address? with
    | some address, some other => address == other
    | Option.none, Option.none =>
      !left.isFresh && left.typeOf == right.typeOf && left.equal right
    | _, _ => false

/-- Whether an answer is that there is none. -/
def isUndecided : Value → Bool
  | .foreign (.other "" "NotImplementedType") _ => true
  | _ => false

end Value

namespace World

/-- Whether a value of a class of the world is asked what it equals. -/
def judges (world : World) (value : Value) : Bool := (world.hook? value "__eq__").isSome

/-- What a value says of another one: whether it equals it, if it knows. -/
def judgement (world : World) (call : Caller) (judge other : Value) : Run (Option Bool) :=
  match world.hook? judge "__eq__" with
  | none => pure none
  | some answer => do
    let given ← call answer [other] []
    if given.isUndecided then return none else return some (← world.truth call given)

mutual

/-- Whether a value holds one that is asked what it equals. -/
def holdsJudge (world : World) : Value → Bool
  | .list items | .tuple items | .set items | .frozenset items => holdsJudgeAmong world items
  | .dict entries => holdsJudgeInEntries world entries
  | .form written => holdsJudgeInForm world written
  | .wrapped address owner content =>
    world.judges (.wrapped address owner content) || holdsJudge world content
  | .object address owner => world.judges (.object address owner)
  | _ => false
termination_by structural value => value

def holdsJudgeAmong (world : World) : List Value → Bool
  | [] => false
  | value :: rest => holdsJudge world value || holdsJudgeAmong world rest
termination_by structural values => values

def holdsJudgeInEntries (world : World) : List (Value × Value) → Bool
  | [] => false
  | (key, value) :: rest =>
    holdsJudge world key || holdsJudge world value || holdsJudgeInEntries world rest
termination_by structural entries => entries

def holdsJudgeInForm (world : World) : TypeForm → Bool
  | .union _ members => holdsJudgeInForms world members
  | .generic _ _ arguments => holdsJudgeInForms world arguments
  | .callable parameters result =>
    holdsJudgeInForms world parameters || holdsJudgeInForm world result
  | .annotated base metadata =>
    holdsJudgeInForm world base || holdsJudgeAmong world metadata
  | .literal values _ => holdsJudgeAmong world values
  | .classVar base | .final base => holdsJudgeInForm world base
  | .value content => holdsJudge world content
  | _ => false
termination_by structural form => form

def holdsJudgeInForms (world : World) : List TypeForm → Bool
  | [] => false
  | form :: rest => holdsJudgeInForm world form || holdsJudgeInForms world rest
termination_by structural forms => forms

end

/-- Whether each of some checks succeeds; the first that does not ends them. -/
def allOf {α : Type} (check : α → α → Run Bool) : List α → List α → Run Bool
  | [], [] => pure true
  | left :: lefts, right :: rights => do
    if ← check left right then allOf check lefts rights else return false
  | _, _ => pure false

/-- Whether each of the first values has an equal one among the second. -/
def eachAmong {α : Type} (check : α → α → Run Bool) (rights : List α) : List α → Run Bool
  | [] => pure true
  | left :: rest => do
    if ← Run.anyOf (rights.map fun right => check right left) then eachAmong check rights rest
    else return false

mutual

/-- Whether the first of two values equals the second. -/
def alike (world : World) (call : Caller) : Nat → Value → Value → Run Bool
  | 0, _, _ => Run.fail .tooDeep
  | depth + 1, left, right => do
    let derived := right.typeOf != left.typeOf && world.isSubclass right.typeOf left.typeOf
    let (first, second) := if derived then (right, left) else (left, right)
    match ← world.judgement call first second with
    | some known => return known
    | none =>
      match ← world.judgement call second first with
      | some known => return known
      | none =>
        if world.judges left && world.judges right then return left.isOne right
        else world.alikeInside call depth left right

/-- Whether two values are one or equal. -/
def same (world : World) (call : Caller) : Nat → Value → Value → Run Bool
  | 0, _, _ => Run.fail .tooDeep
  | depth + 1, left, right =>
    if left.isOne right then pure true else world.alike call depth left right

/-- Whether two values are equal by what they hold. -/
def alikeInside (world : World) (call : Caller) : Nat → Value → Value → Run Bool
  | 0, _, _ => Run.fail .tooDeep
  | depth + 1, left, right =>
    match left.payload, right.payload with
    | .list lefts, .list rights =>
      if lefts.length = rights.length then allOf (world.same call depth) lefts rights
      else pure false
    | .tuple lefts, .tuple rights => allOf (world.same call depth) lefts rights
    | .form first, .form second => world.alikeForms call depth first second
    | first, second =>
      if world.holdsJudge first || world.holdsJudge second then
        match first, second with
        | .dict entries, .dict others =>
          if entries.length = others.length then
            eachAmong (fun right left => do
              if ← world.same call depth left.1 right.1 then
                world.same call depth left.2 right.2
              else return false) others entries
          else pure false
        | .set items, .set others | .set items, .frozenset others
        | .frozenset items, .set others | .frozenset items, .frozenset others =>
          if items.length = others.length then
            eachAmong (world.same call depth) others items
          else pure false
        | _, _ => pure (left.equal right)
      else pure (left.equal right)

/-- Whether two forms are equal. -/
def alikeForms (world : World) (call : Caller) : Nat → TypeForm → TypeForm → Run Bool
  | 0, _, _ => Run.fail .tooDeep
  | depth + 1, left, right =>
    let plain : Run Bool :=
      Run.ofExcept ((TypeForm.compare world left right).mapError Raised.badForm)
    if world.holdsJudgeInForm left || world.holdsJudgeInForm right then
      match left, right with
      | .union _ lefts, .union _ rights =>
        if lefts.length = rights.length then
          eachAmong (world.sameForms call depth) rights lefts
        else pure false
      | .generic head origin arguments, .generic head' origin' arguments' =>
        if origin = origin' ∧ head = head' then
          allOf (world.sameForms call depth) arguments arguments'
        else pure false
      | .callable parameters result, .callable parameters' result' => do
        if ← allOf (world.sameForms call depth) parameters parameters' then
          world.sameForms call depth result result'
        else return false
      | .annotated base metadata, .annotated base' metadata' => do
        if ← world.sameForms call depth base base' then
          allOf (world.same call depth) metadata metadata'
        else return false
      | .classVar base, .classVar base' | .final base, .final base' =>
        world.sameForms call depth base base'
      | first, second =>
        match Value.ofForm first, Value.ofForm second with
        | .form _, .form _ => plain
        | one, other => world.alike call depth one other
    else plain

/-- Whether two forms are one or equal. -/
def sameForms (world : World) (call : Caller) : Nat → TypeForm → TypeForm → Run Bool
  | 0, _, _ => Run.fail .tooDeep
  | depth + 1, left, right =>
    if (Value.ofForm left).isOne (Value.ofForm right) then pure true
    else world.alikeForms call depth left right

end

/-- Whether the first of two values equals the second, where their classes are asked. -/
def equals (world : World) (call : Caller) (left right : Value) : Run Bool :=
  world.alike call nestingDepth left right

/-- Whether two values are one or equal, where their classes are asked. -/
def isSame (world : World) (call : Caller) (left right : Value) : Run Bool :=
  world.same call nestingDepth left right

end World

end MemberThunks
