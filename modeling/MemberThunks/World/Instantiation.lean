import MemberThunks.TypeForm.Parts
import MemberThunks.World.Construction

set_option autoImplicit false

/- Calls of types that are no plain classes. An alias and a class with arguments make an object
   of the class they are made of, which then keeps what it was made by where it keeps
   attributes; a derived type gives its argument back; the other forms make nothing. -/
namespace MemberThunks.World

/-- The ordinary store of an attribute, with the hook of the class. -/
def normalSet (world : World) (call : Caller) (value : Value) (name : String) (content : Value) :
    Run Unit := do
  match world.hook? value "__setattr__" with
  | some answer => do let _ ← call answer [.text name, content] []
  | none => world.directSet call value name content

/-- What an object made by a type with arguments keeps it under. -/
def makerName : String := "__orig_class__"

/-- The call of a form. -/
def callForm (world : World) (call : Caller) (written : TypeForm) (given : Given) : Run Value :=
  match written, written.originPart? with
  | .special _, _ =>
    Construction.refuse (.notMadeOf ((Value.form written).display world))
  | .newType _ _, _ =>
    match given.arguments with
    | [value] =>
      if given.keywords.isEmpty then pure value else Construction.refuse .identityKeywords
    | several =>
      if given.keywords.isEmpty then Construction.refuse (.identityArity several.length)
      else Construction.refuse .identityKeywords
  | _, none => Run.fail (.notCallable (world.ownerName (.form written)))
  | .union .bar _, _ => Run.fail (.notCallable (world.ownerName (.form written)))
  | _, some origin =>
    match written.makesInstances, written.vocabularyName?, origin with
    | false, some (some name), .cls target =>
      Construction.refuse (.aliasCalled name (world.ownName target))
    | _, _, _ => do
      let made ← call origin given.arguments given.keywords
      tryCatch (world.normalSet call made makerName (.form written)) fun _ => pure ()
      return made

/-- Why a built-in class without contents makes no object of no arguments, if it makes none. -/
def instanceFault? : Builtin → Option ConstructionFault
  | .any => some (.notMade Builtin.any.qualname)
  | .abstract kind =>
    if kind.lacked.isEmpty then none else some (.abstractClass kind.qualname kind.lacked)
  | _ => none

end MemberThunks.World
