import MemberThunks.TypeForm.Argument

set_option autoImplicit false

/- Building unions and literal types in their normal shape. A union lists its members
   flat, each once and in the order of their first mention, and a union of one member is
   that member. -/
namespace MemberThunks.TypeForm

def flat : TypeForm → List TypeForm
  | union _ members => members
  | other => [other]

/-- Keeps the first of equal forms. -/
def distinct (members : List TypeForm) : List TypeForm :=
  members.foldl (fun kept member => if anyEqual kept member then kept else kept ++ [member]) []

def joined (spelling : Spelling) (members : List TypeForm) : TypeForm :=
  match distinct (members.flatMap flat) with
  | [only] => only
  | several => union spelling several

/-- The union of members that may stand in it. -/
def unionOfChecked (world : World) (members : List TypeForm) : Except FormFault TypeForm := do
  if members.isEmpty then throw .noUnion
  world.checkHash (members.flatMap flat)
  return joined .subscript members

def unionRule : String := "Union[arg, ...]: each arg must be a type."

def unionOf (world : World) (members : List TypeForm) : Except FormFault TypeForm := do
  unionOfChecked world (← asArguments world unionRule members)

/-- The operands between which a bar makes a union of its own spelling. -/
def takesBar : TypeForm → Bool
  | cls _ | none | union .bar _ | generic .native _ _ => true
  | _ => false

/-- The operands that make any bar a union of the typing vocabulary. -/
def isVocabulary : TypeForm → Bool
  | cls _ | none | union .bar _ | generic .native _ _ | text _ | value _ => false
  | _ => true

def either (world : World) (left right : TypeForm) : Except FormFault TypeForm :=
  let bothNone := match left, right with
    | none, none => true
    | _, _ => false
  if left.takesBar && right.takesBar && !bothNone then do
    return joined .bar [← convert left, ← convert right]
  else if left.isVocabulary || right.isVocabulary then unionOf world [left, right]
  else
    .error (.notBarred (world.bareName (Value.ofForm left).typeOf)
      (world.bareName (Value.ofForm right).typeOf))

/-- Bars associate to the left. -/
def eitherOf (world : World) : List TypeForm → Except FormFault TypeForm
  | [] => .ok none
  | first :: rest => rest.foldlM (either world) first

def annotate (world : World) (base : TypeForm) (metadata : List Value) :
    Except FormFault TypeForm := do
  if metadata.isEmpty then throw .annotatedShape
  match ← asArgument world ⟨"Annotated[t, ...]: t must be a type.", true, true⟩ base with
  | annotated inner marks => return annotated inner (marks ++ metadata)
  | other => return annotated other metadata

/-- The values of a literal type, those of literal types among them taken apart. -/
def flatLiteral (values : List Value) : List Value :=
  values.flatMap fun value =>
    match value with
    | .form (literal inner _) => inner
    | other => [other]

/-- Keeps the first of equal values of one class, where all values have a hash. A type
that lists others is marked. -/
def literalOf (world : World) (mark : Nat) (values : List Value) : TypeForm :=
  let all := flatLiteral values
  if (world.unhashableAmong all).isSome then literal all mark
  else
    literal (all.foldl
      (fun kept value => if Value.anyLiterallyEqual kept value then kept else kept ++ [value]) []) 0

end MemberThunks.TypeForm
