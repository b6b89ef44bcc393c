import MemberThunks.Text.Parts
import MemberThunks.World.BuiltinEntries

set_option autoImplicit false

/- A world of classes. Each class has its names, its resolution order and its namespace,
   of which its field declarations and its slots are entries. An attribute is looked up
   along the resolution order, and the first class whose namespace has the name defines
   it. -/
namespace MemberThunks

/-- What a class makes its instances of. -/
structure Layout where
  /-- The class and the classes that its instances build on, each on the next. -/
  chain : List ClassRef
  /-- Whether the class itself adds a dictionary of attributes. -/
  dictionary : Bool
  /-- Whether the class itself lets its instances be referred to weakly. -/
  reference : Bool
  /-- The names of the slots that the class adds. -/
  slots : List String

structure ClassDef where
  ref : ClassRef
  /-- The name without the classes it is nested in. -/
  name : String
  qualname : String
  bases : List ClassRef
  /-- The class itself and its ancestors. -/
  order : List ClassRef
  /-- The type parameters. -/
  parameters : List TypeForm
  entries : Entries String Attribute
  layout : Layout
  /-- The name under which the module of the world has the class. -/
  exported : Option String

structure World where
  classes : List ClassDef
  routines : List Routine
  /-- The texts that objects have told of themselves, by address. -/
  told : Entries Nat String
  /-- The types that objects have said they stand for, by address; some stand for none. -/
  supertypes : Entries Nat (Option TypeForm)

namespace World

def empty : World := ⟨[], [], [], []⟩

def find? (world : World) (target : ClassRef) : Option ClassDef :=
  target.place?.bind fun place => world.classes[place]?

def order (world : World) : ClassRef → List ClassRef
  | .builtin kind => kind.order.map ClassRef.builtin
  | target =>
    match world.find? target with
    | some definition => definition.order
    | none => [target, .object]

/-- The classes that a class derives from directly. -/
def bases (world : World) : ClassRef → List ClassRef
  | .builtin kind => (kind.order.drop 1).take 1 |>.map ClassRef.builtin
  | target => ((world.find? target).map (·.bases)).getD []

def namespaceOf (world : World) : ClassRef → Entries String Attribute
  | .builtin kind => kind.entries
  | target =>
    match world.find? target with
    | some definition => definition.entries
    | none => []

def ownAttribute? (world : World) (target : ClassRef) (name : String) : Option Attribute :=
  (world.namespaceOf target).lookup name

/-- A value that the class itself has under a name. -/
def ownValue? (world : World) (target : ClassRef) (name : String) : Option Value :=
  match world.ownAttribute? target name with
  | some (.value content) => some content
  | _ => none

/-- The field declarations of a class: its own annotations. -/
def fieldsOf (world : World) (target : ClassRef) : List (String × TypeForm) :=
  match (world.ownValue? target "__annotations__").map Value.payload with
  | some (.dict entries) =>
    entries.filterMap fun entry =>
      match entry.1 with
      | .text name => some (name, entry.2.toForm)
      | _ => none
  | _ => []

/-- The members of an enumeration by label, other labels of a member included. -/
def membersOf (world : World) (target : ClassRef) : Entries String Value :=
  match world.ownValue? target "_member_map_" with
  | some (.dict entries) =>
    entries.filterMap fun entry =>
      match entry.1 with
      | .text label => some (label, entry.2)
      | _ => none
  | _ => []

/-- The members among labels, each once. -/
def eachMember (labelled : Entries String Value) : List Value :=
  (labelled.filter fun member =>
    match member.2 with
    | .enumMember _ _ label _ => label == member.1
    | _ => false).map (·.2)

/-- The first class of a list whose namespace has the name, and what it holds. -/
def lookupAlong (world : World) (name : String) (classes : List ClassRef) :
    Option (ClassRef × Attribute) :=
  classes.findSome? fun target => (world.ownAttribute? target name).map fun found => (target, found)

def lookup (world : World) (target : ClassRef) (name : String) : Option (ClassRef × Attribute) :=
  world.lookupAlong name (world.order target)

def qualname (world : World) : ClassRef → String
  | .builtin kind => kind.qualname
  | target => ((world.find? target).map (·.qualname)).getD ""

/-- The name of a class without the classes it is nested in. -/
def bareName (world : World) : ClassRef → String
  | .builtin kind => kind.shortName
  | target => ((world.find? target).map (·.name)).getD ""

/-- The last part of a dotted name. -/
def lastName (qualname : String) : String := Parts.last '.' qualname

/-- The name of the one module of a world. -/
def moduleTitle : String := "world"

/-- The name of the module of the language itself. -/
def languageModule : String := "builtins"

/-- What a class says is the module that it belongs to. -/
def moduleOf (world : World) : ClassRef → Value
  | .builtin kind => .text (if kind.home.isEmpty then languageModule else kind.home)
  | .enumeration place transparent =>
    (world.ownValue? (.enumeration place transparent) "__module__").getD (.text "enum")
  | target => (world.ownValue? target "__module__").getD .none

/-- What stands before the name of a class of some module, inside another type. -/
def modulePrefix : Value → String
  | .text name => if name = languageModule then "" else name ++ "."
  | .int number => toString number ++ "."
  | .bool truth => (if truth then "True" else "False") ++ "."
  | _ => "None."

/-- How a class is written inside another type. -/
def path (world : World) (target : ClassRef) : String :=
  modulePrefix (world.moduleOf target) ++ world.qualname target

/-- The path of a class that says which module it belongs to, unless that is the language
itself. -/
def fullPath? (world : World) (target : ClassRef) : Option String :=
  match world.moduleOf target with
  | .text name => if name = languageModule then none else some (world.path target)
  | _ => none

def isSubclass (world : World) (target ancestor : ClassRef) : Bool :=
  (world.order target).contains ancestor

/-- Whether a class has type parameters or an ancestor that has. -/
def isGeneric (world : World) (target : ClassRef) : Bool :=
  world.isSubclass target (.builtin .generic)

/-- Whether the class gives its instances a dictionary of attributes. -/
def givesDictionary (world : World) : ClassRef → Bool
  | .builtin .enum => true
  | .builtin _ => false
  | target =>
    match world.find? target with
    | some definition => definition.layout.dictionary
    | none => true

/-- The class and the classes that its instances build on. -/
def chain (world : World) : ClassRef → List ClassRef
  | .builtin kind => kind.order.map ClassRef.builtin
  | target => ((world.find? target).map (·.layout.chain)).getD [target, .object]

/-- Whether instances of the class keep attributes beside their slots. -/
def hasDictionary (world : World) (target : ClassRef) : Bool :=
  (world.order target).any world.givesDictionary

def replace (world : World) (target : ClassRef) (change : ClassDef → ClassDef) : World :=
  match target.place? with
  | some place => { world with classes := world.classes.modify place change }
  | none => world

/-- Adds a routine and gives the value by which it is known. -/
def addRoutine (world : World) (routine : Routine) : World × Nat :=
  ({ world with routines := world.routines ++ [routine] }, world.routines.length)

def routine? (world : World) : Value → Option Routine
  | .function index _ | .callable index _ => world.routines[index]?
  | _ => none

end World

end MemberThunks
