import MemberThunks.Annotation.Evaluation
import MemberThunks.World.Call
import MemberThunks.World.Known

set_option autoImplicit false

/- Resolving declared types. A string in the place of a type, or inside one, is a term
   that is evaluated where the type is declared; what it gives may hold strings again.
   Annotations are dropped from what they annotate. The declared types of a routine, of an
   object or of a class and its ancestors are resolved together, so one that cannot be
   resolved spoils them all; where one is no type at all, none of them count. -/
namespace MemberThunks

namespace Hints

/-- How deep declared types nest that are resolved. -/
def nestingLimit : Nat := 1000

def forwardRule : String := "Forward references must evaluate to types."

/-- A string inside a class that takes any arguments stands for a reference. -/
def asReference : TypeForm → Except FormFault TypeForm
  | .text content => TypeForm.reference content
  | .value content =>
    match content.payload with
    | .text content => TypeForm.reference content
    | _ => .ok (.value content)
  | other => .ok other

/-- A union of other members than it had. -/
def reunite (world : World) (caller : Caller) (spelling : Spelling) (members : List TypeForm) :
    Run TypeForm :=
  match spelling with
  | .subscript => world.unionForm caller members
  | .bar => world.barForms caller members

/-- Where a reference stands by itself in what is annotated, some more forms may. -/
def annotatedPlace (base : TypeForm) : TypeForm.Place :=
  match base with
  | .forward _ => ⟨forwardRule, true, true⟩
  | _ => .inner forwardRule

/-- The value that a reference stands for. -/
def referent (world : World) (caller : Caller) (known : Annotation.Names) (content : String) :
    Run Value :=
  match Annotation.term? content with
  | some term => term.evaluate world caller known false
  | none => Run.fail (.badForm (.malformed content))

/-- Resolves a form. A reference that is being resolved already stays as it is. -/
def resolve (world : World) (caller : Caller) (known : Annotation.Names) :
    Nat → List String → TypeForm.Place → TypeForm → Run TypeForm
  | 0, _, _, _ => Run.fail .tooDeep
  | depth + 1, guarded, place, form =>
    let inside := resolve world caller known depth guarded (.inner forwardRule)
    match form with
    | .forward content =>
      if guarded.contains content then pure (.forward content)
      else do
        let value ← referent world caller known content
        let found ← World.making (TypeForm.asArgument world place value.toForm)
        resolve world caller known depth (content :: guarded) (.inner forwardRule) found
    | .union spelling members => do
      let resolved ← members.mapM inside
      if TypeForm.equalAll resolved members then return .union spelling members
      else reunite world caller spelling resolved
    | .generic .native origin arguments => do
      let references ← World.making (arguments.mapM asReference)
      return .generic .native origin (← references.mapM inside)
    | .generic head origin arguments => do return .generic head origin (← arguments.mapM inside)
    | .callable parameters result => do
      let resolved ← parameters.mapM inside
      return .callable resolved (← inside result)
    | .annotated base metadata => do
      return .annotated
        (← resolve world caller known depth guarded (annotatedPlace base) base) metadata
    | .classVar base => return .classVar (← inside base)
    | .final base => return .final (← inside base)
    | other => pure other

mutual

/-- Drops annotations, and the marks of entries that have to be there or not. -/
def strip (world : World) (caller : Caller) : TypeForm → Run TypeForm
  | .annotated base _ => strip world caller base
  | .union spelling members => do
    let stripped ← stripAll world caller members
    if TypeForm.equalAll stripped members then return .union spelling members
    else reunite world caller spelling stripped
  | .generic head origin arguments => do
    let stripped ← stripAll world caller arguments
    match head, stripped with
    | .vocabulary "Required", [only] | .vocabulary "NotRequired", [only] => return only
    | _, _ => return .generic head origin stripped
  | .callable parameters result => do
    let stripped ← stripAll world caller parameters
    return .callable stripped (← strip world caller result)
  | .classVar base => return .classVar (← strip world caller base)
  | .final base => return .final (← strip world caller base)
  | other => pure other
termination_by structural form => form

def stripAll (world : World) (caller : Caller) : List TypeForm → Run (List TypeForm)
  | [] => pure []
  | form :: rest => do
    let stripped ← strip world caller form
    return stripped :: (← stripAll world caller rest)
termination_by structural forms => forms

end

/-- Resolves a declared type that stands by itself, where None is its class. -/
def resolveWhole (world : World) (caller : Caller) (known : Annotation.Names)
    (place : TypeForm.Place) (form : TypeForm) : Run TypeForm := do
  let whole (content : String) : Run TypeForm := do
    let reference ← World.making (TypeForm.reference content)
    resolve world caller known nestingLimit [] place reference
  match form with
  | .none => pure .noneType
  | .text content => whole content
  | .value content =>
    match content.payload with
    | .text content => whole content
    | _ => pure (.value content)
  | other => resolve world caller known nestingLimit [] (.inner forwardRule) other

def resolveEntries (world : World) (caller : Caller) (known : Annotation.Names)
    (place : TypeForm.Place) (hints : Entries String TypeForm) :
    List (String × TypeForm) → Run (Entries String TypeForm)
  | [] => pure hints
  | (name, form) :: rest => do
    let resolved ← resolveWhole world caller known place form
    resolveEntries world caller known place (hints.put name resolved) rest

/-- The name under which a return type stands among the hints of a routine. -/
def returnKey : String := "return"

def declaredBy (routine : Routine) : List (String × TypeForm) :=
  (routine.formals.filterMap fun formal => formal.type?.map fun form => (formal.name, form)) ++
    (routine.returns.toList.map fun form => (returnKey, form))

/-- What the names of a declaration of a routine stand for. -/
def knownToRoutines (world : World) : Annotation.Names :=
  .uniform fun name => (world.moduleValue? name).or (Known.value? name)

/-- What the module that a class says it belongs to has under a name. -/
def fromModule? (world : World) (target : ClassRef) (name : String) : Option Value :=
  match world.moduleOf target with
  | .text title =>
    if title = World.moduleTitle then world.moduleValue? name
    else if title = TypeForm.vocabularyModule then (TypeForm.named? name).map Value.ofForm
    else none
  | _ => none

/-- What the names of a declaration in a class stand for: the module comes before the
namespace of the class, and inside a gathering there is the namespace alone. -/
def knownTo (world : World) (target : ClassRef) : Annotation.Names :=
  let fromClass (name : String) : Option Value :=
    ((world.ownAttribute? target name).map (world.rawValue target name)).or (Known.value? name)
  ⟨fun name => (fromModule? world target name).or (fromClass name), fromClass⟩

/-- The declarations of a class, which have to be entries. -/
def declaredIn (world : World) (target : ClassRef) : Except Raised (List (String × TypeForm)) :=
  match world.ownAttribute? target "__annotations__" with
  | none | some .reserved => .ok []
  | some found =>
    let declared := world.rawValue target "__annotations__" found
    match declared.payload with
    | .dict _ => .ok (world.fieldsOf target)
    | _ => .error (.noAttribute (world.ownerName declared) "items")

def alongOrder (world : World) (caller : Caller) (hints : Entries String TypeForm) :
    List ClassRef → Run (Entries String TypeForm)
  | [] => pure hints
  | target :: rest => do
    let declared ← Run.ofExcept (declaredIn world target)
    let extended ← resolveEntries world caller (knownTo world target)
      ⟨forwardRule, false, true⟩ hints declared
    alongOrder world caller extended rest

/-- The resolved field types of a class and its ancestors, the farthest first. -/
def resolveClass (world : World) (caller : Caller) (target : ClassRef) :
    Run (Entries String TypeForm) :=
  match world.lookup target "__no_type_check__" with
  | some (_, .value marked) =>
    if marked.isTruthy then pure [] else alongOrder world caller [] (world.order target).reverse
  | _ => alongOrder world caller [] (world.order target).reverse

/-- The resolved types of a routine. -/
def resolveRoutine (world : World) (caller : Caller) (routine : Routine) :
    Run (Entries String TypeForm) :=
  resolveEntries world caller (knownToRoutines world) ⟨forwardRule, true, false⟩ []
    (declaredBy routine)

/-- The hints that resolving gives, none where it finds something that is no type. -/
def settle (world : World) (caller : Caller) (resolving : Run (Entries String TypeForm)) :
    Run (Entries String TypeForm) :=
  let whole : Run (Entries String TypeForm) := do
    (← resolving).mapM fun hint => return (hint.1, ← strip world caller hint.2)
  tryCatch whole fun raised =>
    if raised.failure.kind.isTypeFailure then pure [] else throw raised

/-- The resolved field types of a class and its ancestors. -/
def ofClass (world : World) (caller : Caller) (target : ClassRef) :
    Run (Entries String TypeForm) :=
  settle world caller (resolveClass world caller target)

/-- What the names of a declaration of an object stand for. -/
def knownToObjects : Annotation.Names := .uniform Known.value?

/-- The declarations that an object has among its attributes. -/
def declaredOn (value : Value) : List (String × TypeForm) :=
  match value.payload with
  | .dict entries =>
    (Value.namedEntries entries).map fun entry => (entry.1, entry.2.toForm)
  | _ => []

/-- The resolved types of an object, if it is not to go without. -/
def resolveObject (world : World) (caller : Caller) (value : Value) :
    Run (Entries String TypeForm) := do
  match ← world.attribute? caller value "__no_type_check__" with
  | some marked => if ← world.truth caller marked then return []
  | none => pure ()
  match ← world.attribute? caller value "__annotations__" with
  | some declared =>
    resolveEntries world caller knownToObjects ⟨forwardRule, true, false⟩ [] (declaredOn declared)
  | none => return []

/-- The resolved types of what is called, if it declares any. -/
def ofCallee (world : World) (caller : Caller) : Value → Run (Entries String TypeForm)
  | .function index _ =>
    match world.routines[index]? with
    | some routine => settle world caller (resolveRoutine world caller routine)
    | none => pure []
  | .cls target => ofClass world caller target
  | .bound _ inner => ofCallee world caller inner
  | .callable _ _ => pure []
  | other => settle world caller (resolveObject world caller other)

end Hints

end MemberThunks
