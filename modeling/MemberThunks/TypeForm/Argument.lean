import MemberThunks.Annotation.Term
import MemberThunks.TypeForm.Equality
import MemberThunks.TypeForm.Fault
import MemberThunks.World.Display

set_option autoImplicit false

/- What may stand inside a type form. None stands for its class and a string for a
   reference, which has to be a term; some forms stand by themselves only, and where
   forms are kept as a set each has to have a hash. -/
namespace MemberThunks

namespace World

mutual

/-- The class of the first part of a value that has no hash. -/
def unhashable? (world : World) : Value → Option ClassRef
  | .tuple items => world.unhashableAmong items
  | .form written => world.unhashableForm? written
  | .bound receiver _ => world.unhashable? receiver
  | value =>
    match world.lookup value.typeOf "__hash__" with
    | some (_, .value .none) => some value.typeOf
    | _ => none
termination_by structural value => value

def unhashableAmong (world : World) : List Value → Option ClassRef
  | [] => none
  | value :: rest => (world.unhashable? value).or (world.unhashableAmong rest)
termination_by structural values => values

def unhashableForm? (world : World) : TypeForm → Option ClassRef
  | .union _ members => world.unhashableForms members
  | .generic _ _ arguments => world.unhashableForms arguments
  | .callable parameters result =>
    (world.unhashableForms parameters).or (world.unhashableForm? result)
  | .annotated base metadata =>
    (world.unhashableForm? base).or (world.unhashableAmong metadata)
  | .literal values _ => world.unhashableAmong values
  | .classVar base | .final base => world.unhashableForm? base
  | .value content => world.unhashable? content
  | _ => none
termination_by structural form => form

def unhashableForms (world : World) : List TypeForm → Option ClassRef
  | [] => none
  | form :: rest => (world.unhashableForm? form).or (world.unhashableForms rest)
termination_by structural forms => forms

end

def checkHash (world : World) (forms : List TypeForm) : Except FormFault Unit :=
  match world.unhashableForms forms with
  | some owner => .error (.unhashable (world.bareName owner))
  | none => .ok ()

end World

namespace TypeForm

/-- A reference by a string, which has to be a term. -/
def reference (text : String) : Except FormFault TypeForm :=
  if text.isEmpty then .error .emptyText
  else if text.toList.contains (Char.ofNat 0) then .error .nulCharacter
  else if Annotation.isTerm text then .ok (.forward text)
  else .error (.malformed text)

/-- A form in the place of an argument, before any check. -/
def convert : TypeForm → Except FormFault TypeForm
  | .none => .ok noneType
  | .text content => reference content
  | .value content =>
    match content.payload with
    | .text content => reference content
    | _ => .ok (.value content)
  | other => .ok other

/-- The names of the vocabulary that stand in other forms by themselves. -/
def plainNames : List String :=
  ["LiteralString", "NoReturn", "Never", "Self", "TypeAlias"]

/-- What stands in the place of an argument under a rule: as the whole of a declared type,
some more forms do. -/
structure Place where
  rule : String
  isArgument : Bool
  allowsSpecial : Bool

/-- A place inside another form. -/
def Place.inner (rule : String) : Place := ⟨rule, true, false⟩

def isProtocol : TypeForm → Bool
  | cls (.builtin .generic) | cls (.builtin (.other "typing" "Protocol")) => true
  | _ => false

/-- A form in the place of an argument. -/
def asArgument (world : World) (place : Place) (form : TypeForm) : Except FormFault TypeForm := do
  let form ← convert form
  match form with
  | .classVar _ =>
    if place.allowsSpecial then return form else throw (.notArgument (form.display world))
  | .final _ =>
    if place.allowsSpecial || !place.isArgument then return form
    else throw (.notArgument (form.display world))
  | .special name =>
    if plainNames.contains name then return form
    else if place.allowsSpecial && ["ClassVar", "Final"].contains name then return form
    else throw (.plainArgument (form.display world))
  | .value (.tuple _) => throw (.notType place.rule (form.display world))
  | .generic .parametric origin _ =>
    if (cls origin).isProtocol then throw (.notArgument (form.display world)) else return form
  | _ =>
    if form.isProtocol then throw (.plainArgument (form.display world)) else return form

def asArguments (world : World) (rule : String) (forms : List TypeForm) :
    Except FormFault (List TypeForm) :=
  forms.mapM (asArgument world (.inner rule))

/-- Several forms in the place of one. -/
def together (world : World) (forms : List TypeForm) : String :=
  Display.tuple (forms.map (TypeForm.display world))

/-- What stands between the brackets after a form: a key by itself, or the parts of a tuple. -/
structure Bracketed where
  forms : List TypeForm
  isOne : Bool

namespace Bracketed

def ofValue (key : Value) : Bracketed :=
  match key.payload with
  | .tuple items => ⟨items.map Value.toForm, false⟩
  | _ => ⟨[key.toForm], true⟩

/-- The one form that has to stand in a place. -/
def only (world : World) (rule : String) (given : Bracketed) : Except FormFault TypeForm :=
  match given.forms, given.isOne with
  | [form], true => asArgument world (.inner rule) form
  | several, _ => .error (.notType rule (together world several))

end Bracketed

end TypeForm

end MemberThunks
