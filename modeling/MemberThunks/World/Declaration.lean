import MemberThunks.TypeForm.Equality
import MemberThunks.World.Layout
import MemberThunks.World.Linearization
import MemberThunks.World.Raised

set_option autoImplicit false

/- Declaring classes. A declaration lists the bases, hooks and members of a class in
   the order they are written; declaring it adds the class to a world, nested in its
   outer class where it has one. Members can be defined and taken away later. -/
namespace MemberThunks

structure RoutineDecl where
  /-- The formal that takes the receiver. -/
  receiver : Option Formal
  parameters : List Formal
  returns : Option TypeForm
  actions : List Action

namespace RoutineDecl

/-- What comes before a positional-only formal is positional-only too. -/
def closeLeft (formals : List Formal) : List Formal :=
  formals.foldr (fun formal rest =>
    let closed := rest.any (·.kind == .positionalOnly) && formal.kind == .ordinary
    (if closed then { formal with kind := .positionalOnly } else formal) :: rest) []

/-- What comes after a variadic formal is taken by keyword. -/
def closeRight (seen : Bool) : List Formal → List Formal
  | [] => []
  | formal :: rest =>
    let closed := seen && formal.kind == .ordinary
    (if closed then { formal with kind := .keywordOnly } else formal) ::
      closeRight (seen || formal.kind == .variadic) rest

def formals (declared : RoutineDecl) : List Formal :=
  closeRight false (closeLeft (declared.receiver.toList ++ declared.parameters))

def routine (qualname : String) (declared : RoutineDecl) : Routine :=
  ⟨qualname, declared.formals, declared.receiver.isSome, declared.returns,
    .actions declared.actions⟩

end RoutineDecl

/-- What stands in the place of a function. -/
inductive Callee where
  | routine (declared : RoutineDecl)
  /-- An object that calls the routine. -/
  | callableObject (declared : RoutineDecl)
  | native (routine : Native)
  | noncallable (value : Value)

inductive MemberDecl where
  | field (name : String) (type : TypeForm) (default? : Option Value)
  | value (name : String) (content : Value)
  | property (name : String) (getter setter : Option Callee)
  | method (name : String) (attachment : Attachment) (callee : Callee)

structure ClassDecl where
  name : String
  outer : Option ClassRef
  /-- A qualified name under which the module does not have the class. -/
  qualified : Option String
  bases : List ClassRef
  typeParameters : List TypeForm
  slots : Option (List String)
  members : List MemberDecl
  guard : Option String
  mask : Option (List (String × Value))
  fallback : Option (List (String × Value))

namespace ClassDecl

/-- A class that has members and nothing else. -/
def ofMembers (name : String) (members : List MemberDecl) : ClassDecl where
  name := name
  outer := none
  qualified := none
  bases := []
  typeParameters := []
  slots := none
  members := members
  guard := none
  mask := none
  fallback := none

end ClassDecl

namespace World

def addCallee (world : World) (qualname : String) : Callee → World × Value
  | .routine declared =>
    let (extended, index) := world.addRoutine (declared.routine qualname)
    (extended, .function index qualname)
  | .callableObject declared =>
    let (extended, index) := world.addRoutine (declared.routine qualname)
    (extended, .callable index qualname)
  | .native routine => (world, .native routine)
  | .noncallable value => (world, value)

/-- The accessor of a property. A property takes no value for no accessor. -/
def addOptional (world : World) (qualname : String) : Option Callee → World × Option Value
  | none | some (.noncallable .none) => (world, none)
  | some callee =>
    let (extended, value) := world.addCallee qualname callee
    (extended, some value)

/-- The names under which a routine takes the class that it is called on. -/
def implicitAttachment? (name : String) : Option Attachment :=
  if name = "__new__" then some .free
  else if name = "__init_subclass__" || name = "__class_getitem__" then some .toClass
  else none

def attach (attachment : Attachment) (callee : Value) : Attribute :=
  match attachment with
  | .toTarget => .value callee
  | .toClass => .classBound callee
  | .free => .static callee

/-- The namespace entry of a member, if it has one. A property keeps the name of the
member only where its class is created with it. -/
def attributeOf (world : World) (owner : String) (created : Bool) :
    MemberDecl → World × Option (String × Attribute)
  | .field name _ default? => (world, default?.map fun content => (name, .value content))
  | .value name content => (world, some (name, .value content))
  | .property name getter setter =>
    let (withGetter, reading) := world.addOptional (owner ++ "." ++ name) getter
    let (extended, writing) := withGetter.addOptional (owner ++ "." ++ name) setter
    (extended, some (name, .property ⟨reading, writing, if created then some name else none⟩))
  | .method name attachment callee =>
    let (extended, value) := world.addCallee (owner ++ "." ++ name) callee
    (extended, some (name, attach attachment value))

/-- An attribute as it stands in a class that is created with it. -/
def asCreated (name : String) (found : Attribute) : Attribute :=
  match found, implicitAttachment? name with
  | .value (.function index qualname), some .free => .static (.function index qualname)
  | .value (.function index qualname), some .toClass => .classBound (.function index qualname)
  | _, _ => found

def addMember (owner : String) (state : World × Entries String Attribute) (member : MemberDecl) :
    World × Entries String Attribute :=
  let (extended, entry) := state.1.attributeOf owner true member
  match entry with
  | none => (extended, state.2)
  | some (name, found) => (extended, state.2.put name (asCreated name found))

def hookRoutine (owner name : String) (parameters : List String) (body : Body) : Routine :=
  ⟨owner ++ "." ++ name, (Formal.named "self" :: parameters.map Formal.named), true, none, body⟩

/-- The hooks of a declaration: name, parameters and body. -/
def hooks (decl : ClassDecl) : List (String × List String × Body) :=
  (decl.guard.toList.map fun text => ("__setattr__", ["key", "value"], .guarded text)) ++
  (decl.mask.toList.map fun table => ("__getattribute__", ["key"], .masked table)) ++
  (decl.fallback.toList.map fun table => ("__getattr__", ["key"], .fallback table))

def addHook (owner : String) (state : World × Entries String Attribute)
    (hook : String × List String × Body) : World × Entries String Attribute :=
  let routine := hookRoutine owner hook.1 hook.2.1 hook.2.2
  let (extended, index) := state.1.addRoutine routine
  (extended, state.2.put hook.1 (.value (.function index routine.qualname)))

/-- The field declarations of a class, each name once. -/
def declaredFields (members : List MemberDecl) : Entries String TypeForm :=
  members.foldl (fun fields member =>
    match member with
    | .field name type _ => fields.put name type
    | _ => fields) []

/-- The name under which a class keeps a slot: one with two underscores in front and none
behind gets the name of the class put before it. -/
def slotName (owner slot : String) : String :=
  let bare := (owner.toList.dropWhile (· == '_'))
  if slot.startsWith "__" && !slot.endsWith "__" && !slot.toList.contains '.' && !bare.isEmpty then
    "_" ++ String.ofList bare ++ slot
  else slot

/-- The names of the slots that a declaration adds. -/
def slotNames (decl : ClassDecl) : List String :=
  ((decl.slots.getD []).filter fun name => name != "__dict__" && name != "__weakref__").map
    (slotName decl.name)

/-- Entries that a class has whatever its members. -/
def ownEntries (decl : ClassDecl) (layout : Layout) : Entries String Attribute :=
  let fields := declaredFields decl.members
  [("__module__", .value (.text "world")), ("__doc__", .value .none)] ++
  (if fields.isEmpty then []
    else
      [("__annotations__", .value (.dict (fields.map fun field =>
        (.text field.1, Value.ofForm field.2))))]) ++
  (match decl.slots with
    | none => []
    | some names => [("__slots__", .value (.tuple (names.map Value.text)))]) ++
  (if layout.dictionary then [("__dict__", .reserved)] else []) ++
  (if layout.reference then [("__weakref__", .reserved)] else []) ++
  layout.slots.map fun name => (name, .slot)

/-- A class that says when its instances are equal and not how they are hashed has no
hash for them. -/
def settleHash (entries : Entries String Attribute) : Entries String Attribute :=
  if (entries.lookup "__eq__").isSome && (entries.lookup "__hash__").isNone then
    entries.put "__hash__" (.value .none)
  else entries

/-- The type parameters of a class that is generic or derives from a generic class, and its
bases as they were written where they have arguments. -/
def withParameters (decl : ClassDecl) (ancestors : List ClassRef)
    (entries : Entries String Attribute) : Entries String Attribute :=
  let written : List Value :=
    decl.bases.map Value.cls ++ [Value.form (.generic .parametric (.builtin .generic) decl.typeParameters)]
  let withBases :=
    if decl.typeParameters.isEmpty then entries
    else entries.put "__orig_bases__" (.value (.tuple written))
  if ancestors.contains (.builtin .generic) then
    withBases.put "__parameters__" (.value (.tuple (decl.typeParameters.map Value.ofForm)))
  else withBases

def orderOf (world : World) (target : ClassRef) (bases : List ClassRef) : List ClassRef :=
  let parents := if bases.isEmpty then [ClassRef.object] else bases
  (Linearization.order target (parents.map fun base => (base, world.order base))).getD
    [target, .object]

/-- A class nested in another is an attribute of it. -/
def nest (world : World) (outer : Option ClassRef) (name : String) (target : ClassRef) : World :=
  match outer with
  | none => world
  | some owner =>
    world.replace owner fun definition =>
      { definition with entries := definition.entries.put name (.value (.cls target)) }

def qualnameOf (world : World) (decl : ClassDecl) : String :=
  match decl.qualified, decl.outer with
  | some qualname, _ => qualname
  | none, some outer => world.qualname outer ++ "." ++ decl.name
  | none, none => decl.name

/-- The class that the next declaration makes. -/
def nextClass (world : World) : ClassRef := .declared world.classes.length

def declare (world : World) (decl : ClassDecl) : World :=
  let qualname := world.qualnameOf decl
  let target := world.nextClass
  let bases := decl.bases ++ (if decl.typeParameters.isEmpty then [] else [.builtin .generic])
  let order := world.orderOf target bases
  let ancestors := order.drop 1
  let layout := world.layoutOf target bases decl.slots (slotNames decl)
  let start := ownEntries decl layout
  let withMembers := decl.members.foldl (addMember qualname) (world, start)
  let (extended, made) := (hooks decl).foldl (addHook qualname) withMembers
  let entries := withParameters decl ancestors made
  let definition : ClassDef :=
    ⟨target, decl.name, qualname, if bases.isEmpty then [.object] else bases, order,
      decl.typeParameters, settleHash entries, layout,
      if decl.outer.isNone && decl.qualified.isNone then some decl.name else none⟩
  { extended with classes := extended.classes ++ [definition] }.nest decl.outer decl.name target

/-- Whether a class is an enumeration with a member under the label. -/
def hasMember (world : World) (target : ClassRef) (name : String) : Bool :=
  ((world.membersOf target).lookup name).isSome

/-- The class of what a namespace holds. -/
def kindName (world : World) : Attribute → String
  | .value content => world.bareName content.typeOf
  | .static _ => "staticmethod"
  | .classBound _ => "classmethod"
  | .property _ => "property"
  | .slot => "member_descriptor"
  | .native definition => definition.sort.rawKind.qualname
  | .reserved => "getset_descriptor"

/-- What a class tells of itself and nothing changes. -/
def isFixed (name : String) : Bool :=
  ["__basicsize__", "__mro__", "__base__", "__flags__", "__itemsize__", "__dictoffset__",
    "__weakrefoffset__"].contains name

def isUnwritable (name : String) : Bool := name = "__dict__" || name = "__text_signature__"

/-- Whether a class is an enumeration and tells its members under the name. -/
def tellsMembers (target : ClassRef) (name : String) : Bool :=
  name = "__members__" && Value.metaclass target = .enumType

/-- Gives a class another name. -/
def rename (world : World) (target : ClassRef) (name : String) (found : Attribute) :
    Except Raised World :=
  match found with
  | .value (.text content) =>
    .ok (world.replace target fun definition =>
      if name = "__name__" then { definition with name := content }
      else { definition with qualname := content })
  | other => .error (.unnamable (world.bareName target) name (world.kindName other))

/-- Why a class of the world does not take an attribute, if it refuses it. -/
def refusesAttribute? (world : World) (target : ClassRef) (name : String) (found : Attribute) :
    Option Raised :=
  if isFixed name then some .fixed
  else if isUnwritable name then some (.notWritable name "type")
  else if name = "__class__" then
    match found with
    | .value (.cls _) => some .classKept
    | other => some (.notClass (world.kindName other))
  else if world.hasMember target name then some (.memberKept name)
  else if tellsMembers target name then some (.noSetter (some name) "EnumType")
  else if name = "__bases__" then
    match found with
    | .value (.tuple _) => none
    | other => some (.notBases (world.bareName target) (world.kindName other))
  else none

/-- Sets a class attribute. Built-in classes take none, and an enumeration keeps its
members. -/
def define (world : World) (target : ClassRef) (member : MemberDecl) : Except Raised World :=
  let (extended, entry) := world.attributeOf (world.qualname target) false member
  match entry with
  | none => .ok extended
  | some (name, found) =>
    match target with
    | .builtin kind => .error (.immutable name kind.shortName)
    | _ =>
      if name = "__name__" || name = "__qualname__" then extended.rename target name found
      else
        match world.refusesAttribute? target name found with
        | some refused => .error refused
        | none =>
          .ok (extended.replace target fun definition =>
            { definition with entries := definition.entries.put name found })

/-- The entries of a class that stay as long as it does. -/
def isPermanent (target : ClassRef) (name : String) : Bool :=
  ["__name__", "__qualname__", "__bases__"].contains name ||
    match target with
    | .enumeration _ _ => false
    | _ => name = "__module__" || name = "__doc__"

/-- Takes away a class attribute that the class itself defines. -/
def undefine (world : World) (target : ClassRef) (name : String) : Except Raised World :=
  match target, world.ownAttribute? target name with
  | .builtin kind, _ => .error (.immutable name kind.shortName)
  | _, found =>
    if isPermanent target name then .error (.nameUndeletable name (world.bareName target))
    else if isFixed name then .error .fixed
    else if isUnwritable name then .error (.notWritable name "type")
    else if name = "__class__" then .error .classUndeletable
    else if tellsMembers target name then .error (.noDeleter (some name) "EnumType")
    else
      match found with
      | none =>
        if name = "__annotations__" || name = "__abstractmethods__" then .error (.noMember name)
        else .error (.noClassAttribute (world.bareName target) name)
      | some _ =>
        if world.hasMember target name then
          .error (.memberUndeletable (world.bareName target) name)
        else
          .ok (world.replace target fun definition =>
            { definition with entries := definition.entries.remove name })

/-- The class that the module has under a name. -/
def exported? (world : World) (name : String) : Option ClassRef :=
  (world.classes.reverse.find? fun definition =>
    definition.exported == some name).map (·.ref)

end World

end MemberThunks
