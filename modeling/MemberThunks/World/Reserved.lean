import MemberThunks.World.Display
import MemberThunks.World.Documentation
import MemberThunks.World.Layout
import MemberThunks.World.Store

set_option autoImplicit false

/- The attributes that every value of a built-in kind has beside what it keeps
   itself: its class, its dictionary, the parts of a number, the name and the value of
   an enumeration member, and what classes and routines tell of themselves. Reading one
   is a function of the value and the store; of the stores only that of a whole
   dictionary is carried out. -/
namespace MemberThunks

namespace Value

/-- A part of a number. The digits of a float are its real part. -/
def numberPart? (name : String) : Value → Option Value
  | bool truth => (partOf (if truth then 1 else 0)).lookup name
  | int number => (partOf number).lookup name
  | float digits => [("real", float digits), ("imag", float "0.0")].lookup name
  | nan mark => [("real", nan mark), ("imag", float "0.0")].lookup name
  | complex real imaginary => [("real", float real), ("imag", float imaginary)].lookup name
  | _ => Option.none
where
  partOf (number : Int) : List (String × Value) :=
    [("real", int number), ("imag", int 0), ("numerator", int number), ("denominator", int 1)]

/-- The entries of a dictionary whose keys are names. -/
def namedEntries (entries : List (Value × Value)) : Entries String Value :=
  entries.filterMap fun entry =>
    match entry.1 with
    | text name => some (name, entry.2)
    | _ => Option.none

end Value

namespace World

/-- The name by which messages call the class of a value. -/
def ownerName (world : World) (value : Value) : String := world.bareName value.typeOf

def dictionary (store : Store) (value : Value) : Value :=
  match value.address? with
  | some address =>
    .dict ((store.record address).entries.map fun entry => (.text entry.1, entry.2))
  | none => .dict []

def classTuple (targets : List ClassRef) : Value := .tuple (targets.map Value.cls)

/-- The bare name that a class goes by as a text. -/
def ownName (world : World) : ClassRef → String
  | .builtin kind => kind.qualname
  | target => world.bareName target

def quotedMember (sort name owner : String) : String :=
  "<" ++ sort ++ " '" ++ name ++ "' of '" ++ owner ++ "' objects>"

/-- The names by which a built-in attribute of a class is known. -/
def heldNames (world : World) (owner : ClassRef) (name : String) : Entries String Value :=
  [("__name__", .text name), ("__qualname__", .text (world.qualname owner ++ "." ++ name)),
    ("__objclass__", .cls owner)]

/-- What a wrapper around a routine tells of the routine. -/
def heldRoutine (callee : Value) : Entries String Value :=
  [("__func__", callee), ("__wrapped__", callee)] ++
    match callee with
    | .function _ qualname =>
      [("__name__", .text (lastName qualname)), ("__qualname__", .text qualname),
        ("__module__", .text moduleTitle)]
    | _ => []

/-- An attribute as it stands in the namespace of its owner. -/
def rawValue (world : World) (owner : ClassRef) (name : String) : Attribute → Value
  | .value content => content
  | .static callee =>
    .holder (.other "" "staticmethod") ("<staticmethod(" ++ callee.display world ++ ")>")
      (heldRoutine callee)
  | .classBound callee =>
    .holder (.other "" "classmethod") ("<classmethod(" ++ callee.display world ++ ")>")
      (heldRoutine callee)
  | .property definition =>
    .holder (.other "" "property") "<property object>"
      [("fget", definition.getter.getD .none), ("fset", definition.setter.getD .none),
        ("fdel", .none), ("__isabstractmethod__", .bool false)]
  | .slot =>
    .holder (.other "" "member_descriptor") (quotedMember "member" name (world.bareName owner))
      (world.heldNames owner name)
  | .native definition =>
    match definition.known with
    | some qualname => .foreign definition.sort.rawKind ("<function " ++ qualname ++ ">")
    | none =>
      match definition.sort with
      | .function =>
        .foreign definition.sort.rawKind (definition.sort.describe (world.bareName owner) name)
      | .constructor =>
        .holder definition.sort.rawKind (definition.sort.describe (world.bareName owner) name)
          [("__self__", .cls owner), ("__name__", .text name),
            ("__qualname__", .text (world.qualname owner ++ "." ++ name)), ("__module__", .none)]
      | sort =>
        .holder sort.rawKind (sort.describe (world.bareName owner) name)
          (world.heldNames owner name)
  | .reserved =>
    .holder (.other "" "getset_descriptor") (quotedMember "attribute" name (world.bareName owner))
      (world.heldNames owner name)

/-- Entries that can be looked up but not changed. -/
def proxy (held : Entries String Value) : Value :=
  .holder (.other "" "mappingproxy") "mappingproxy" held

/-- The namespace of a class. -/
def classDictionary (world : World) (target : ClassRef) : Value :=
  proxy ((world.namespaceOf target).map fun entry =>
    (entry.1, world.rawValue target entry.1 entry.2))

/-- The formals that a built-in class tells of its calls. -/
def toldFormals : Builtin → Value
  | .object => .text "()"
  | .float => .text "(x=0, /)"
  | .complex => .text "(real=0, imag=0)"
  | .list | .tuple => .text "(iterable=(), /)"
  | _ => .none

/-- Whether a built-in class is a fixed part of the language, on which nothing can be put. -/
def isFundamental : ClassRef → Bool
  | .builtin kind =>
    match kind with
    | .any | .empty | .generic | .abstract _ | .enum | .reprEnum | .intEnum | .strEnum | .enumType
    | .abstractType | .anyType => false
    | .other home _ => home.isEmpty || home = "types"
    | _ => true
  | _ => false

/-- Why a class does not tell something of itself that other classes tell, if it does not. -/
def classLack? (world : World) (target : ClassRef) (name : String) : Option Raised :=
  match name, target with
  | "__annotations__", _ =>
    if isFundamental target then some (.noClassAttribute (world.bareName target) name) else none
  | "__abstractmethods__", .builtin (.abstract _) => none
  | "__abstractmethods__", _ =>
    if (world.ownValue? target name).isSome then none else some (.noMember name)
  | _, _ => none

/-- What a class tells of itself. -/
def classTrait? (world : World) (target : ClassRef) (name : String) : Option Value :=
  match name with
  | "__name__" => some (.text (world.ownName target))
  | "__qualname__" => some (.text (world.qualname target))
  | "__class__" => some (.cls (.builtin (Value.metaclass target)))
  | "__module__" => some (world.moduleOf target)
  | "__doc__" =>
    match target with
    | .builtin kind => some kind.document
    | _ => some ((world.ownValue? target "__doc__").getD .none)
  | "__bases__" => some (classTuple (world.bases target))
  | "__base__" => some (((world.bases target).head?.map Value.cls).getD .none)
  | "__mro__" => some (classTuple (world.order target))
  | "__dict__" => some (world.classDictionary target)
  | "__abstractmethods__" =>
    match target with
    | .builtin (.abstract kind) => some (.frozenset (kind.lacked.map Value.text))
    | _ => world.ownValue? target name
  | "__text_signature__" =>
    match target with
    | .builtin kind => some (toldFormals kind)
    | _ => some .none
  | "__annotations__" => some ((world.ownValue? target "__annotations__").getD (.dict []))
  | "__members__" =>
    if Value.metaclass target = .enumType then
      some (proxy (world.membersOf target))
    else none
  | _ => none

/-- The defaults of the formals that take arguments by position, if there are any. -/
def positionalDefaults (formals : List Formal) : Value :=
  match (formals.filter fun formal => formal.kind.isPositional).filterMap (·.default?) with
  | [] => .none
  | defaults => .tuple defaults

/-- The defaults of the formals that take arguments by keyword only, if there are any. -/
def keywordDefaults (formals : List Formal) : Value :=
  match formals.filterMap fun formal =>
    if formal.kind = .keywordOnly then formal.default?.map fun content => (Value.text formal.name, content)
    else none with
  | [] => .none
  | defaults => .dict defaults

/-- The annotations of a routine. -/
def annotationsOf (routine : Routine) : Value :=
  .dict ((routine.formals.filterMap fun formal =>
    formal.type?.map fun form => (.text formal.name, Value.ofForm form)) ++
    routine.returns.toList.map fun form => (.text "return", Value.ofForm form))

/-- What a routine tells of itself. -/
def routineTrait? (world : World) (name : String) : Value → Option Value
  | .function index qualname =>
    match name with
    | "__name__" => some (.text (lastName qualname))
    | "__qualname__" => some (.text qualname)
    | "__module__" => some (.text moduleTitle)
    | "__doc__" | "__closure__" => some .none
    | "__dict__" => some (.dict [])
    | "__code__" => some (.foreign (.other "" "code") ("<code object " ++ lastName qualname ++ ">"))
    | "__defaults__" => world.routines[index]?.map fun routine => positionalDefaults routine.formals
    | "__kwdefaults__" => world.routines[index]?.map fun routine => keywordDefaults routine.formals
    | "__annotations__" => world.routines[index]?.map annotationsOf
    | _ => none
  | .native routine =>
    match name with
    | "__name__" | "__qualname__" => some (.text (Display.native routine))
    | "__module__" => some (.text "builtins")
    | "__doc__" => some (.text ("\n".intercalate routine.documentation))
    | _ => none
  | .foreign (.other "" "function") shown =>
    let qualname := (Display.routineName? shown).getD ""
    match name with
    | "__name__" => some (.text (lastName qualname))
    | "__qualname__" => some (.text qualname)
    | "__dict__" => some (.dict [])
    | _ => none
  | .bound receiver callee =>
    match name with
    | "__self__" => some receiver
    | "__func__" => some callee
    | _ => none
  | _ => none

/-- The built-in attributes that no property, slot or dictionary holds. -/
def reserved (world : World) (store : Store) (value : Value) (name : String) : Value :=
  match name, value with
  | "__class__", _ => .cls value.typeOf
  | _, .cls target =>
    (world.classTrait? target name).getD (.foreign (.other "" "getset_descriptor") "")
  | "__doc__", _ | "__weakref__", _ => .none
  | "__dict__", _ => dictionary store value
  | "name", .enumMember address _ label _ =>
    (store.attributeOf? address "_name_").getD (.text label)
  | "value", .enumMember address _ _ content =>
    (store.attributeOf? address "_value_").getD content
  | _, _ =>
    (value.payload.numberPart? name).getD (.foreign (.other "" "getset_descriptor") "")

/-- Why a value does not take another class, if it refuses it. -/
def classRefusal? (world : World) (value : Value) (target : ClassRef) : Option Raised :=
  if isFixedClass target || isFixedClass value.typeOf then some .classKept
  else if world.isAlike target value.typeOf then none
  else some (.otherLayout (world.bareName target) (world.bareName value.typeOf))

/-- Why a built-in attribute of some owner does not take what is stored into it, if it refuses
it. -/
def refusal? (world : World) (owner : ClassRef) (value : Value) (name : String)
    (content : Value) : Option Raised :=
  match name, content with
  | "__class__", .cls target => world.classRefusal? value target
  | "__class__", other => some (.notClass (world.ownerName other))
  | "__dict__", other =>
    match other.payload with
    | .dict _ => none
    | _ => some (.notDictionary (world.ownerName other))
  | "__doc__", _ => none
  | part, _ =>
    if owner = .builtin .enum then some (.memberFixed part)
    else some (.notWritable part (world.bareName owner))

end World

end MemberThunks
