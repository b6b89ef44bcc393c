import MemberThunks.TypeForm.Parts
import MemberThunks.World.Likeness

set_option autoImplicit false

/- Making forms with arguments while a program runs. Objects among the arguments may say
   what they equal and how they are hashed; a form that has been made of equal arguments
   before is given again. A form with type parameters takes forms in their places. -/
namespace MemberThunks

namespace World

/-- What is made of forms, where it can be made. -/
def making {α : Type} (made : Except FormFault α) : Run α :=
  Run.ofExcept (made.mapError Raised.badForm)

/-- The hash of a form that an object stands for, if the class of the object says what it
is. -/
def statedHash (world : World) (call : Caller) : TypeForm → Run (Option Int)
  | .value content =>
    match content.address?, world.hook? content "__hash__" with
    | some _, some answer => do
      match (← call answer [] []).payload with
      | .int hash => return some hash
      | .bool truth => return some (if truth then 1 else 0)
      | _ => Run.fail .notHash
    | _, _ => pure none
  | _ => pure none

/-- The first form of a list that was made of what equals some arguments. -/
def firstAlike (world : World) (call : Caller) (arguments : List TypeForm) :
    List (TypeForm.Recipe × TypeForm) → Run (Option TypeForm)
  | [] => pure none
  | (recipe, form) :: rest => do
    if ← allOf (world.sameForms call nestingDepth) recipe.arguments arguments then
      return some form
    else firstAlike world call arguments rest

/-- The form under a label that was made of equal arguments before. -/
def pooled? (world : World) (call : Caller) (wanted : TypeForm.Recipe) : Run (Option TypeForm) := do
  let pool := (← get).pool
  if world.holdsJudgeInForms wanted.arguments then
    world.firstAlike call wanted.arguments (pool.candidates wanted)
  else return pool.find? wanted

/-- The form under a label of some arguments: one made before, or the one made now. What
has no hash is not kept. -/
def pooled (world : World) (call : Caller) (label : String) (isOne : Bool)
    (arguments : List TypeForm) (make : Run TypeForm) : Run TypeForm := do
  if (world.unhashableForms arguments).isSome then make
  else
    let recipe : TypeForm.Recipe :=
      ⟨label, isOne, arguments, ← arguments.mapM (world.statedHash call)⟩
    match ← world.pooled? call recipe with
    | some form => return form
    | none => do
      let form ← make
      modify fun store => store.keepForm recipe form
      return form

/-- The forms that each argument is compared with before it is taken. -/
def comparedNames : List TypeForm :=
  .cls (.builtin .any) ::
    ["LiteralString", "NoReturn", "Never", "Self", "TypeAlias"].map TypeForm.special

/-- Asks an object in the place of an argument whether it is a form of the vocabulary. -/
def consult (world : World) (call : Caller) : TypeForm → Run Unit
  | .value content =>
    if content.address?.isSome && world.judges content then do
      let _ ← Run.anyOf (comparedNames.map fun form => world.equals call (Value.ofForm form) content)
    else pure ()
  | _ => pure ()

/-- Whether a form is among others, as one that stands where equal hashes do. -/
def isKept (world : World) (call : Caller) (hash : Option Int) (form : TypeForm) :
    List (Option Int × TypeForm) → Run Bool
  | [] => pure false
  | (known, kept) :: rest => do
    if known = hash then
      if ← world.sameForms call nestingDepth kept form then return true
    isKept world call hash form rest

/-- Keeps the first of equal forms, where objects are asked what they equal. -/
def distinctForms (world : World) (call : Caller) (kept : List (Option Int × TypeForm)) :
    List TypeForm → Run (List TypeForm)
  | [] => return kept.map (·.2)
  | form :: rest => do
    let hash ← world.statedHash call form
    if ← world.isKept call hash form kept then distinctForms world call kept rest
    else distinctForms world call (kept ++ [(hash, form)]) rest

/-- The union of some members. -/
def unite (world : World) (call : Caller) (members : List TypeForm) : Run TypeForm := do
  members.forM (world.consult call)
  if world.holdsJudgeInForms members then
    let checked ← making (TypeForm.asArguments world TypeForm.unionRule members)
    making (world.checkHash (checked.flatMap TypeForm.flat))
    match ← world.distinctForms call [] (checked.flatMap TypeForm.flat) with
    | [only] => return only
    | several => return .union .subscript several
  else making (TypeForm.unionOf world members)

/-- The union of some members in a tuple, as it was made first. -/
def unionForm (world : World) (call : Caller) (members : List TypeForm) : Run TypeForm :=
  world.pooled call "Union" false members (world.unite call members)

/-- What a bar between two forms makes. -/
def barForm (world : World) (call : Caller) (left right : TypeForm) : Run TypeForm :=
  if TypeForm.isVocabulary left || TypeForm.isVocabulary right then
    world.unionForm call [left, right]
  else making (TypeForm.either world left right)

/-- Bars associate to the left. -/
def barForms (world : World) (call : Caller) : List TypeForm → Run TypeForm
  | [] => pure .none
  | first :: rest => rest.foldlM (world.barForm call) first

/-- A form of the vocabulary that stands for no class, with what is between its brackets. -/
def specialForm (world : World) (call : Caller) (name : String) (given : TypeForm.Bracketed) :
    Run TypeForm :=
  let single (rule : String) : Run TypeForm := do
    given.forms.forM (world.consult call)
    making (given.only world rule)
  match TypeForm.markingRule? name with
  | some rule =>
    world.pooled call name given.isOne given.forms do
      return TypeForm.markedOf name (← single rule)
  | none =>
    match name with
    | "Union" =>
      world.pooled call name given.isOne given.forms (world.unite call given.forms)
    | "Optional" =>
      world.pooled call name given.isOne given.forms do
        world.unionForm call [← single "typing.Optional requires a single type.", .noneType]
    | "Literal" =>
      world.pooled call name false given.forms do
        let mark ← modifyGet Store.takeAddress
        return TypeForm.literalOf world mark (given.forms.map Value.ofForm)
    | _ => Run.fail (.badForm (.notSubscriptable ("typing." ++ name)))

/-- An alias of a class with what is between its brackets. -/
def aliasForm (world : World) (call : Caller) (name : String) (origin : ClassRef)
    (given : TypeForm.Bracketed) : Run TypeForm :=
  let kept (make : Except FormFault TypeForm) : Run TypeForm :=
    world.pooled call name given.isOne given.forms do
      given.forms.forM (world.consult call)
      making make
  match name, TypeForm.aliases.lookup name with
  | "Callable", _ =>
    match given.forms, given.isOne with
    | [parameters, result], false =>
      let listed := TypeForm.parameterForms parameters
      world.pooled call name false [.value (.tuple (listed.map Value.ofForm)), result] do
        world.consult call result
        making (TypeForm.callableOf world listed result)
    | _, _ => Run.fail (.badForm .callableShape)
  | _, some (_, some expected) => kept (TypeForm.aliasOf world name origin expected given.forms)
  | _, _ => kept (TypeForm.tupleOf world given.forms)

/-- A class with what is between its brackets. -/
def classForm (world : World) (call : Caller) (target : ClassRef) (given : TypeForm.Bracketed) :
    Run TypeForm :=
  let kept (make : Except FormFault TypeForm) : Run TypeForm :=
    world.pooled call "" given.isOne (.cls target :: given.forms) (making make)
  match target with
  | .builtin .generic => kept (TypeForm.parametersOf .generic given.forms)
  | .builtin (.other "typing" "Protocol") =>
    kept (TypeForm.parametersOf (.other "typing" "Protocol") given.forms)
  | .builtin (.other "typing" "Annotated") =>
    match given.forms with
    | base :: metadata =>
      world.pooled call "Annotated" false given.forms do
        world.consult call base
        let made ← making (TypeForm.annotate world base (metadata.map Value.ofForm))
        if let .annotated (.value content) _ := made then
          let _ ← world.normalGet call content "__module__"
        return made
    | [] => Run.fail (.badForm .annotatedShape)
  | _ =>
    if world.isGeneric target || TypeForm.protocolNames.contains (world.qualname target) then
      kept (TypeForm.parametricOf world target given.forms)
    else pure (.generic .native target given.forms)

mutual

/-- A form with others in the places of its type parameters. -/
def replaced (world : World) (call : Caller) (given : List (TypeForm × TypeForm)) :
    TypeForm → Run TypeForm
  | .parameter name variance shared => do
    let known := TypeForm.parameter name variance shared
    match given.find? fun entry => entry.1.equal known with
    | some (_, form) => do
      world.consult call form
      making (TypeForm.asArgument world (.inner TypeForm.genericRule) form)
    | none => return known
  | .union .subscript members => do
    let found ← replacedAll world call given members
    if (TypeForm.parametersAmong members).isEmpty then return .union .subscript members
    else world.unionForm call found
  | .union .bar members => do
    let found ← replacedAll world call given members
    if (TypeForm.parametersAmong members).isEmpty then return .union .bar members
    else world.barForms call found
  | .generic head origin arguments => do
    return .generic head origin (← replacedAll world call given arguments)
  | .callable parameters result => do
    let found ← replacedAll world call given parameters
    return .callable found (← replaced world call given result)
  | .annotated base metadata => do
    match ← replaced world call given base with
    | .annotated inner marks => return .annotated inner (marks ++ metadata)
    | other => return .annotated other metadata
  | .classVar base => return .classVar (← replaced world call given base)
  | .final base => return .final (← replaced world call given base)
  | other => pure other
termination_by structural form => form

def replacedAll (world : World) (call : Caller) (given : List (TypeForm × TypeForm)) :
    List TypeForm → Run (List TypeForm)
  | [] => pure []
  | form :: rest => do
    let found ← replaced world call given form
    return found :: (← replacedAll world call given rest)
termination_by structural forms => forms

end

/-- Whether a form keeps its type parameters for good. -/
def isClosed : TypeForm → Bool
  | .generic .parametric origin _ => (TypeForm.cls origin).isProtocol
  | _ => false

/-- A form with type parameters, with what is between its brackets in their places. -/
def completed (world : World) (call : Caller) (written : TypeForm)
    (given : TypeForm.Bracketed) : Run TypeForm := do
  let wanted := written.parameters
  if isClosed written then Run.fail (.badForm (.closed (written.display world)))
  else if wanted.isEmpty then Run.fail (.badForm (.notGeneric (written.display world)))
  else
    let forms ← making (given.forms.mapM TypeForm.convert)
    if forms.length != wanted.length then
      Run.fail (.badForm (.wrongCount (written.display world) forms.length wanted.length))
    else world.replaced call (wanted.zip forms) written

/-- A form with what is between its brackets. -/
def formWith (world : World) (call : Caller) (written : TypeForm) (given : TypeForm.Bracketed) :
    Run TypeForm :=
  match written with
  | .special name => world.specialForm call name given
  | .shorthand name origin => world.aliasForm call name origin given
  | .parameter _ _ _ | .newType _ _ | .forward _ =>
    Run.fail (.notSubscriptable (world.ownerName (.form written)))
  | .generic .native _ _ | .union .bar _ => world.completed call written given
  | other => world.pooled call "" given.isOne (other :: given.forms) (world.completed call other given)

end World

end MemberThunks
