import MemberThunks.Member.Basic
import MemberThunks.Member.Hints
import MemberThunks.Member.Signature

set_option autoImplicit false

/- Describing what a class has under a name. The first class along the resolution order
   whose namespace has the name decides of what kind the member is; a field has to be
   declared by a class of the order, by a type or by a slot. -/
namespace MemberThunks

inductive DescribeFault where
  | noMethod (about : String)
  | propertyNotMethod (about : String)
  | notMethod (about : String)
  /-- A routine that does not tell its formals. -/
  | noSignature (raised : Raised) (about : String)
  | variadic (name : String) (about : String)
  | genericType (what name : String) (about : String)
  /-- A declared type names what is not known. -/
  | unresolved (raised : Raised) (about : String)
  | noProperty (about : String)
  | notField (about : String)
  | classVariable (about : String)
  | noField (about : String)
  /-- A class whose field declarations are no entries. -/
  | declarations (described : String)
  /-- What is asked fails for a reason of its own. -/
  | escaped (raised : Raised)
deriving DecidableEq

namespace DescribeFault

def failure : DescribeFault → Failure
  | noMethod about => ⟨.member, "no such method", some about⟩
  | propertyNotMethod about => ⟨.member, "is a property, not a method", some about⟩
  | notMethod about => ⟨.member, "is not a method", some about⟩
  | noSignature raised about =>
    ⟨.unsupportedMember, "signature unavailable: " ++ raised.failure.text, some about⟩
  | variadic name about =>
    ⟨.unsupportedMember, "variadic parameter '" ++ name ++ "'", some about⟩
  | genericType what name about =>
    ⟨.unsupportedMember, what ++ " has generic type " ++ name, some about⟩
  | unresolved raised about =>
    ⟨.unsupportedMember, "unresolved annotation: " ++ raised.failure.text, some about⟩
  | noProperty about => ⟨.member, "no such property", some about⟩
  | notField about => ⟨.member, "is not a field", some about⟩
  | classVariable about => ⟨.member, "is a class variable, not a field", some about⟩
  | noField about => ⟨.member, "no such field", some about⟩
  | declarations described =>
    .plain .valueFault (described ++ ".__annotations__ is neither a dict nor None")
  | escaped raised => raised.failure

def ofHint (about : String) (raised : Raised) : DescribeFault :=
  if raised.failure.kind.isNameFailure then unresolved raised about else escaped raised

/-- A fault in telling the formals of a method is the fault of the method where it is one
of types or values. -/
def ofSignature (about : String) (raised : Raised) : DescribeFault :=
  let kind := raised.failure.kind
  if kind.isTypeFailure || kind = .valueFault then noSignature raised about else escaped raised

end DescribeFault

/-- Describing in a world: it may fail, and what it has asked of the world by then stays. -/
abbrev Describing := ExceptT DescribeFault (StateM Store)

namespace Describe

/-- Asks something of the world. -/
def asking {α : Type} (fault : Raised → DescribeFault) (run : Run α) : Describing α :=
  ExceptT.adapt fault run

/-- What is known without asking. -/
def settled {α : Type} (result : Except DescribeFault α) : Describing α := ExceptT.mk (pure result)

def qualified (world : World) (owner : ClassRef) (name : String) : String :=
  world.qualname owner ++ "." ++ name

/-- The hint for a name, or the type that admits everything. -/
def hint (hints : Entries String TypeForm) (name : String) : TypeForm :=
  (hints.lookup name).getD .object

def checkNotGeneric (world : World) (form : TypeForm) (what about : String) :
    Except DescribeFault Unit :=
  if form.isParameter then .error (.genericType what (form.name world) about) else .ok ()

def parameter (world : World) (hints : Entries String TypeForm) (about : String)
    (formal : Formal) : Except DescribeFault Parameter :=
  if formal.kind.isVariadic then .error (.variadic formal.name about)
  else do
    let form := hint hints formal.name
    checkNotGeneric world form ("parameter '" ++ formal.name ++ "'") about
    return ⟨formal.name, form, formal.kind == .keywordOnly⟩

/-- What a method calls: its attachment, its formals with the receiver, and its hints. -/
structure Callable where
  attachment : Attachment
  formals : Run (List Formal)
  hints : Run (Entries String TypeForm)

def callable (world : World) (caller : Caller) (attachment : Attachment) (callee : Value) :
    Callable :=
  ⟨attachment, Signature.ofCallee world caller callee, Hints.ofCallee world caller callee⟩

/-- Whether a value that a class has is a routine. -/
def isRoutineValue (world : World) (content : Value) : Bool :=
  Attribute.isRoutineValue content || Signature.isReader world content

/-- Whether what a namespace holds is a routine, bound to anything or not. -/
def isRoutine (world : World) : Attribute → Bool
  | .static _ | .classBound _ | .native _ => true
  | .value content => isRoutineValue world content
  | .property _ | .slot | .reserved => false

def methodOf (world : World) (caller : Caller) (owner : ClassRef) (name : String) :
    Attribute → Except DescribeFault Callable
  | .static callee => .ok (callable world caller .free callee)
  | .classBound callee => .ok (callable world caller .toClass callee)
  | .property _ => .error (.propertyNotMethod (qualified world owner name))
  | .native definition =>
    .ok ⟨definition.attachment, Run.ofExcept (Signature.ofNative world owner name definition),
      pure []⟩
  | .value callee =>
    if isRoutineValue world callee then .ok (callable world caller .toTarget callee)
    else .error (.notMethod (qualified world owner name))
  | .slot | .reserved => .error (.notMethod (qualified world owner name))

/-- The formals of a method, of which the first is its receiver unless it is free. -/
def withoutReceiver (attachment : Attachment) (formals : List Formal) : List Formal :=
  if attachment = .free then formals else formals.drop 1

/-- The member that a method is, given its formals and hints. -/
def methodMember (world : World) (owner : ClassRef) (name : String) (attachment : Attachment)
    (formals : List Formal) (hints : Entries String TypeForm) :
    Except DescribeFault MethodMember := do
  let about := qualified world owner name
  let parameters ← (withoutReceiver attachment formals).mapM (parameter world hints about)
  let returns := hint hints Hints.returnKey
  checkNotGeneric world returns "return value" about
  return ⟨owner, name, parameters, returns, attachment.label⟩

def method (world : World) (caller : Caller) (target : ClassRef) (name : String) :
    Describing MethodMember := do
  match world.lookup target name with
  | none => throw (.noMethod (qualified world target name))
  | some (owner, found) => do
    let about := qualified world owner name
    let called ← settled (methodOf world caller owner name found)
    let formals ← asking (.ofSignature about) called.formals
    let hints ← asking (.ofHint about) called.hints
    settled (methodMember world owner name called.attachment formals hints)

/-- The type a getter gives, or the type that admits everything. -/
def getterType (world : World) (caller : Caller) (about : String) :
    Option Value → Describing TypeForm
  | none => pure .object
  | some getter => do
    let hints ← asking (.ofHint about) (Hints.ofCallee world caller getter)
    return hint hints Hints.returnKey

/-- The type a setter takes, if it tells one. -/
def setterType (world : World) (caller : Caller) (about : String) (setter : Value) :
    Describing TypeForm := do
  let hints ← asking (.ofHint about) (Hints.ofCallee world caller setter)
  let formals ← asking .escaped (Signature.ofCallee world caller setter)
  match formals with
  | _ :: second :: _ => return hint hints second.name
  | _ => return .object

/-- The type of a property is that of its getter unless that admits everything. -/
def propertyType (world : World) (caller : Caller) (about : String) (definition : Property) :
    Describing TypeForm := do
  let given ← getterType world caller about definition.getter
  match given.isObject, definition.setter with
  | true, some setter => setterType world caller about setter
  | _, _ => return given

def property (world : World) (caller : Caller) (target : ClassRef) (name : String) :
    Describing PropertyMember := do
  match world.lookup target name with
  | some (owner, .property definition) => do
    let about := qualified world owner name
    let type ← propertyType world caller about definition
    settled (checkNotGeneric world type "property" about)
    return ⟨owner, name, type, definition.getter, definition.setter⟩
  | _ => throw (.noProperty (qualified world target name))

def isClassVariable : TypeForm → Bool
  | .special "ClassVar" | .classVar _ => true
  | _ => false

def hasDeclaration (world : World) (target : ClassRef) (name : String) : Bool :=
  ((world.fieldsOf target).lookup name).isSome

/-- Why what a class declares cannot be told, if it cannot. -/
def declarationFault? (world : World) (target : ClassRef) : Option DescribeFault :=
  match world.ownAttribute? target "__annotations__" with
  | none | some .reserved => none
  | some found =>
    match (world.rawValue target "__annotations__" found).payload with
    | .none | .dict _ => none
    | _ => some (.declarations (world.displayClass target))

/-- The slots that a class lists: one by a text alone, or those that a value gives. -/
def slots (world : World) (caller : Caller) (target : ClassRef) : Run (List Value) :=
  match world.ownAttribute? target "__slots__" with
  | none => pure []
  | some found =>
    let given := world.rawValue target "__slots__" found
    match given.payload with
    | .text _ => pure [given]
    | _ => world.elements caller given

/-- Whether a class lists a slot. -/
def hasSlot (world : World) (caller : Caller) (target : ClassRef) (name : String) : Run Bool := do
  let listed ← slots world caller target
  Run.anyOf (listed.map fun slot => world.isSame caller slot (.text name))

/-- The first class of a list that declares a field, by a type or by a slot. -/
def declarer? (world : World) (caller : Caller) (name : String) :
    List ClassRef → Describing (Option ClassRef)
  | [] => pure none
  | target :: rest =>
    match declarationFault? world target with
    | some fault => throw fault
    | none => do
      if hasDeclaration world target name then return some target
      else if ← asking .escaped (hasSlot world caller target name) then return some target
      else declarer? world caller name rest

/-- The type of a field that a class declares, by a type or by a slot alone. -/
def fieldType (world : World) (caller : Caller) (owner : ClassRef) (name : String) :
    Describing TypeForm :=
  if hasDeclaration world owner name then do
    let about := qualified world owner name
    let hints ← asking (.ofHint about) (Hints.ofClass world caller owner)
    let type := hint hints name
    if isClassVariable type then throw (.classVariable about) else return type
  else pure .object

/-- The class that hides a field behind a property or a routine, if one does. -/
def hiding? (world : World) (target : ClassRef) (name : String) : Option ClassRef :=
  match world.lookup target name with
  | some (owner, found) =>
    if found.isProperty || isRoutine world found then some owner else none
  | none => none

def field (world : World) (caller : Caller) (target : ClassRef) (name : String) :
    Describing FieldMember :=
  match hiding? world target name with
  | some owner => throw (.notField (qualified world owner name))
  | none => do
    match ← declarer? world caller name (world.order target) with
    | none => throw (.noField (qualified world target name))
    | some owner => do
      let type ← fieldType world caller owner name
      settled (checkNotGeneric world type "field" (qualified world owner name))
      return ⟨owner, name, type⟩

/-- Whatever kind of member the class has under the name. -/
def member (world : World) (caller : Caller) (target : ClassRef) (name : String) :
    Describing Member :=
  match world.lookup target name with
  | some (_, .property _) => Member.property <$> property world caller target name
  | some (_, found) =>
    if isRoutine world found then Member.method <$> method world caller target name
    else Member.field <$> field world caller target name
  | none => Member.field <$> field world caller target name

end Describe

end MemberThunks
