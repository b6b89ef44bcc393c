import MemberThunks.TypeForm.Parts
import MemberThunks.World.Reserved

set_option autoImplicit false

/- Reading and storing attributes. Accesses may call routines of the world, so each
   takes the way to call as a parameter.

   A direct access consults properties and slots along the resolution order before
   the object's own dictionary, and other attributes of the class after it. A class
   attribute may itself say how it is read and stored. An ordinary read asks the hooks of
   the class first, and its fallback where the read fails for want of an attribute. -/
namespace MemberThunks

abbrev Caller := Value → List Value → Entries String Value → Run Value

namespace World

/-- What a class of the world has under the name of an operation, for a value of the
class. -/
def operation? (world : World) (value : Value) (name : String) : Option Value :=
  match world.lookup value.typeOf name with
  | some (_, .value content) | some (_, .static content) => some content
  | _ => none

/-- Whether a class attribute says how it is stored, so that no entry hides it. -/
def isDominant (world : World) (content : Value) : Bool :=
  (world.operation? content "__get__").isSome &&
    ((world.operation? content "__set__").isSome || (world.operation? content "__delete__").isSome)

/-- A built-in routine bound to a value. -/
def boundNative (world : World) (owner : ClassRef) (name : String) (definition : NativeRoutine)
    (target : Value) : Value :=
  match definition.sort with
  | .function => .bound target (world.rawValue owner name (.native definition))
  | .constructor => world.rawValue owner name (.native definition)
  | .wrapper =>
    .holder (.other "" "method-wrapper")
      ("<method-wrapper '" ++ name ++ "' of " ++ world.bareName target.typeOf ++ " object>")
      (("__self__", target) :: world.heldNames owner name)
  | sort =>
    let called :=
      match target with
      | .cls itself => itself
      | other => other.typeOf
    .holder sort.boundKind
      ("<built-in method " ++ name ++ " of " ++ world.bareName target.typeOf ++ " object>")
      [("__self__", if sort = .classMethod then .cls called else target), ("__name__", .text name),
        ("__qualname__", .text (world.qualname called ++ "." ++ name)), ("__module__", .none)]

/-- Reads a value that a class has, from an object of the class or from the class. -/
def readContent (world : World) (call : Caller) (target : Option Value) (owner : ClassRef)
    (content : Value) : Run Value :=
  match world.operation? content "__get__", content, target with
  | some reader, _, _ => call reader [content, target.getD .none, .cls owner] []
  | none, .function index qualname, some receiver =>
    pure (.bound receiver (.function index qualname))
  | none, _, _ => pure content

/-- What reading an attribute of its class from an object gives. Properties and slots
are read elsewhere. -/
def readBound (world : World) (call : Caller) (target : Value) (owner : ClassRef) (name : String) :
    Attribute → Run Value
  | .value content => world.readContent call (some target) target.typeOf content
  | .static callee => pure callee
  | .classBound callee => pure (.bound (.cls target.typeOf) callee)
  | .native definition => pure (world.boundNative owner name definition target)
  | found => pure (world.rawValue owner name found)

/-- The module that a form is of. One with no name of its own is of the module of what it is
made of. -/
def formModule? (world : World) : TypeForm → Option Value
  | .cls target => some (world.moduleOf target)
  | .annotated base _ => world.formModule? base
  | .newType _ _ => some (.text moduleTitle)
  | .parameter _ _ false => some (.text Value.programTitle)
  | .generic .parametric origin _ => some (world.moduleOf origin)
  | .parameter _ _ true | .special _ | .shorthand _ _ | .union .subscript _ | .callable _ _
  | .generic (.vocabulary _) _ _ | .literal _ _ | .classVar _ | .final _ | .forward _ =>
    some (.text TypeForm.vocabularyModule)
  | _ => none

/-- What a form itself keeps under a name. -/
def formEntry? (world : World) (written : TypeForm) (name : String) : Option Value :=
  if name = "__module__" then world.formModule? written else written.entry? name

/-- What a form keeps, by name. -/
def formDictionary (world : World) (written : TypeForm) : Value :=
  .dict (written.keptNames.filterMap fun name =>
    (world.formEntry? written name).map fun content => (.text name, content))

/-- A built-in attribute as it is read from a value. -/
def readReserved (world : World) (store : Store) (value : Value) (name : String) : Run Value :=
  match value, name with
  | .form written, "__dict__" => pure (world.formDictionary written)
  | .cls _, "__doc__" => pure (world.reserved store value name)
  | .native _, "__doc__" => pure ((world.routineTrait? name value).getD .none)
  | _, "__doc__" =>
    match value.typeOf with
    | .builtin kind => pure kind.document
    | _ => pure .none
  | .enumMember _ owner _ content, "__weakref__" =>
    match (Value.enumMember 0 owner "" content).payload with
    | .int _ => Run.fail .unreferable
    | _ => pure (world.reserved store value name)
  | .cls target, _ =>
    match world.classLack? target name with
    | some raised => Run.fail raised
    | none => pure (world.reserved store value name)
  | _, _ => pure (world.reserved store value name)

/-- What the object itself keeps under a name, its slots aside. -/
def ownEntry (world : World) (store : Store) (value : Value) (name : String) : Option Value :=
  match value with
  | .cls target => (world.ownAttribute? target name).map (world.rawValue target name)
  | .form written => world.formEntry? written name
  | .holder _ _ held => if value.isProxy then none else held.lookup name
  | other => other.address?.bind fun address => store.attributeOf? address name

def ownSlot (store : Store) (value : Value) (owner : ClassRef) (name : String) : Option Value :=
  value.address?.bind fun address => store.slot? address owner name

/-- Reads an attribute that gives way to what the object itself keeps. -/
def readYielding (world : World) (call : Caller) (value : Value) (name : String)
    (found : Option (ClassRef × Attribute)) : Run Value := do
  let store ← get
  match world.ownEntry store value name, found with
  | some content, _ => pure content
  | none, some (owner, inherited) => world.readBound call value owner name inherited
  | none, none =>
    match world.routineTrait? name value with
    | some trait => pure trait
    | none => Run.fail (.noAttribute (world.ownerName value) name)

def directGet (world : World) (call : Caller) (value : Value) (name : String) : Run Value := do
  let store ← get
  let value := store.current value
  match world.lookup value.typeOf name with
  | some (.builtin .enumType, .property _) => pure (world.reserved store value name)
  | some (_, .property definition) =>
    match definition.getter with
    | some getter => call getter [value] []
    | none => Run.fail (.noGetter definition.name (world.qualname value.typeOf))
  | some (owner, .slot) =>
    match ownSlot store value owner name with
    | some content => pure content
    | none => Run.fail (.noAttribute (world.ownerName value) name)
  | some (_, .reserved) => world.readReserved store value name
  | some (owner, .value content) =>
    if world.isDominant content then world.readContent call (some value) value.typeOf content
    else world.readYielding call value name (some (owner, .value content))
  | found => world.readYielding call value name found

/-- A hook of the class of a value, if a class of the world defines one. -/
def hook? (world : World) (value : Value) (name : String) : Option Value :=
  match world.lookup value.typeOf name with
  | some (_, .value (.function index qualname)) => some (.bound value (.function index qualname))
  | some (_, .value content) => some content
  | some (_, .static callee) => some callee
  | some (_, .classBound callee) => some (.bound (.cls value.typeOf) callee)
  | _ => none

/-- Why a class has no attribute of a name. -/
def missingFrom (world : World) (target : ClassRef) (name : String) : Raised :=
  match target with
  | .enumeration _ _ => .noMember name
  | .builtin .enum | .builtin .intEnum | .builtin .strEnum | .builtin .reprEnum => .noMember name
  | _ => .noClassAttribute (world.bareName target) name

/-- Reads an attribute of a class that its classes hold. -/
def readFromClass (world : World) (call : Caller) (target owner : ClassRef) (name : String) :
    Attribute → Run Value
  | .value content => world.readContent call none target content
  | .static callee => pure callee
  | .classBound callee => pure (.bound (.cls target) callee)
  | .native definition =>
    match definition.sort, definition.attachment with
    | .classMethod, _ | .function, .toClass =>
      pure (world.boundNative owner name definition (.cls target))
    | _, _ => pure (world.rawValue owner name (.native definition))
  | .reserved =>
    if owner = .builtin .enum && (name = "name" || name = "value") then
      Run.fail (world.missingFrom target name)
    else pure (world.rawValue owner name .reserved)
  | found => pure (world.rawValue owner name found)

/-- The ordinary attribute of a class. What the class and its ancestors lack may be an
attribute of the class of the class. -/
def classGet (world : World) (call : Caller) (target : ClassRef) (name : String) : Run Value :=
  match world.classLack? target name, world.classTrait? target name with
  | some raised, _ => Run.fail raised
  | none, some trait => pure trait
  | none, none =>
    match world.lookup target name with
    | some (owner, found) => world.readFromClass call target owner name found
    | none =>
      match world.lookup (.builtin (Value.metaclass target)) name with
      | some (owner, found) => world.readBound call (.cls target) owner name found
      | none => Run.fail (world.missingFrom target name)

/-- Runs an access, and asks the fallback where it fails for want of an attribute. -/
def orFallback (call : Caller) (fallback : Option Value) (name : String) (access : Run Value) :
    Run Value :=
  match fallback with
  | none => access
  | some answer =>
    tryCatch access fun raised =>
      if raised.isAttributeFault then call answer [.text name] [] else throw raised

/-- The read of an attribute before any fallback. -/
def hookedGet (world : World) (call : Caller) (value : Value) (name : String) : Run Value :=
  match world.hook? value "__getattribute__" with
  | some answer => call answer [.text name] []
  | none => world.directGet call value name

/-- The read of an attribute of an object, with its hooks. -/
def objectGet (world : World) (call : Caller) (value : Value) (name : String) : Run Value := do
  let value := (← get).current value
  orFallback call (world.hook? value "__getattr__") name (world.hookedGet call value name)

/-- Whether a name is one of those that two underscores start and end. -/
def isReservedName (name : String) : Bool := name.startsWith "__" && name.endsWith "__"

/-- The names that a class with arguments does not pass on to the class. -/
def keptNames : List String :=
  ["__class__", "__origin__", "__args__", "__unpacked__", "__parameters__",
    "__typing_unpacked_tuple_args__", "__mro_entries__", "__reduce_ex__", "__reduce__",
    "__copy__", "__deepcopy__"]

/-- Whether a form of the vocabulary passes on the names that it lacks, or tells only them. -/
def hasFallback : TypeForm → Bool
  | .generic .native _ _ | .union .bar _ | .newType _ _ | .parameter _ _ _ | .forward _ => false
  | _ => true

/-- The ordinary read of an attribute of a form. A class with arguments passes nearly every
name on to the class. A form of the vocabulary is asked first; it gives its name, and passes
on the other names that two underscores do not start and end. -/
def formGet (world : World) (call : Caller) (name : String) : TypeForm → Run Value
  | .cls target => world.classGet call target name
  | .value content => world.objectGet call content name
  | .generic .native origin arguments =>
    if keptNames.contains name then
      world.directGet call (.form (.generic .native origin arguments)) name
    else world.classGet call origin name
  | .annotated base metadata =>
    ofVocabulary (.annotated base metadata) (formGet world call name base)
  | .shorthand label origin =>
    ofVocabulary (.shorthand label origin) (world.classGet call origin name)
  | .generic (.vocabulary label) origin arguments =>
    ofVocabulary (.generic (.vocabulary label) origin arguments)
      (if (TypeForm.aliases.lookup label).isSome then world.classGet call origin name
        else Run.fail (.noMember name))
  | .generic .parametric origin arguments =>
    ofVocabulary (.generic .parametric origin arguments) (world.classGet call origin name)
  | .callable parameters result =>
    ofVocabulary (.callable parameters result)
      (world.classGet call (.builtin (.abstract .callable)) name)
  | .union .bar members =>
    if name = "__module__" then pure (.text "types")
    else world.directGet call (.form (.union .bar members)) name
  | other =>
    if hasFallback other then ofVocabulary other (Run.fail (.noMember name))
    else world.directGet call (.form other) name
where
  /-- The form itself is asked, then its name, then what it passes the name on to. -/
  ofVocabulary (written : TypeForm) (relay : Run Value) : Run Value :=
    tryCatch (world.directGet call (.form written) name) fun raised =>
      if !raised.isAttributeFault then throw raised
      else if name = "__name__" || name = "__qualname__" then
        match written.givenName?, written with
        | some label, _ => pure (.text label)
        | none, .generic _ origin _ => pure (.text (world.ownName origin))
        | none, _ => Run.fail (.noMember name)
      else
        match written with
        | .special _ => Run.fail (.noMember name)
        | _ => if isReservedName name then Run.fail (.noMember name) else relay

/-- The ordinary read of an attribute. What a bound callee lacks is asked of the callee. -/
def normalGet (world : World) (call : Caller) (value : Value) (name : String) : Run Value :=
  match value with
  | .cls target => world.classGet call target name
  | .form written => world.formGet call name written
  | .bound receiver callee =>
    if (world.lookup (Value.bound receiver callee).typeOf name).isSome ||
        (world.routineTrait? name (.bound receiver callee)).isSome then
      world.directGet call (.bound receiver callee) name
    else normalGet world call callee name
  | other => world.objectGet call other name
termination_by structural value

/-- An attribute of a value, if the value has it. -/
def attribute? (world : World) (call : Caller) (value : Value) (name : String) :
    Run (Option Value) :=
  tryCatch (some <$> world.normalGet call value name) fun raised =>
    if raised.isAttributeFault then pure none else throw raised

def storeEntry (world : World) (value : Value) (name : String) (content : Value) : Run Unit :=
  let refused : Raised :=
    if (world.lookup value.typeOf name).isSome then .readOnly (world.ownerName value) name
    else .noAttribute (world.ownerName value) name
  match value.address? with
  | some address =>
    if world.hasDictionary value.typeOf then modify fun store => store.putEntry address name content
    else Run.fail refused
  | none => Run.fail refused

/-- The class that adds the slots of the instances of a class. -/
def slotOwner (world : World) (target : ClassRef) : ClassRef :=
  ((world.lastAdded target).head?).getD target

/-- The store of a built-in attribute that an owner class holds. -/
def storeReserved (world : World) (owner : ClassRef) (value : Value) (name : String)
    (content : Value) : Run Unit :=
  match world.refusal? owner value name content, value.address?, name, content with
  | some refused, _, _, _ => Run.fail refused
  | none, some address, "__class__", .cls target =>
    modify fun store =>
      store.reclass address target (world.slotOwner value.typeOf) (world.slotOwner target)
  | none, some address, "__dict__", other =>
    match other.payload with
    | .dict entries =>
      modify fun store => store.putEntries address (Value.namedEntries entries)
    | _ => world.storeEntry value name content
  | none, _, _, _ => world.storeEntry value name content

def storeSlot (world : World) (value : Value) (owner : ClassRef) (name : String)
    (content : Value) : Run Unit :=
  match value.address? with
  | some address => modify fun store => store.putSlot address owner name content
  | none => Run.fail (.noAttribute (world.ownerName value) name)

/-- The direct store, which no hook of the class sees. -/
def directSet (world : World) (call : Caller) (value : Value) (name : String) (content : Value) :
    Run Unit := do
  let value := (← get).current value
  match value with
  | .cls target => Run.fail (.inapplicable (Value.metaclass target).qualname)
  | _ =>
    match world.lookup value.typeOf name with
    | some (_, .property definition) =>
      match definition.setter with
      | some setter => do let _ ← call setter [value, content] []
      | none => Run.fail (.noSetter definition.name (world.qualname value.typeOf))
    | some (owner, .slot) => world.storeSlot value owner name content
    | some (owner, .reserved) => world.storeReserved owner value name content
    | some (_, .value held) =>
      match world.operation? held "__set__" with
      | some writer => do let _ ← call writer [held, value, content] []
      | none =>
        if (world.operation? held "__delete__").isSome then Run.fail (.noMember "__set__")
        else world.storeEntry value name content
    | _ => world.storeEntry value name content

/-- The attributes of an object: its dictionary, and the slots of its classes that are
set, each name once. -/
def stateOf (world : World) (store : Store) (value : Value) : Entries String Value :=
  let value := store.current value
  let slots := (world.order value.typeOf).flatMap fun owner =>
    (world.namespaceOf owner).filterMap fun entry =>
      match entry.2 with
      | .slot => (ownSlot store value owner entry.1).map fun content => (entry.1, content)
      | _ => none
  let kept := ((value.address?.map store.record).map (·.entries)).getD []
  slots.foldl (fun entries slot =>
    if (entries.lookup slot.1).isSome then entries else entries ++ [slot]) kept

end World

end MemberThunks
