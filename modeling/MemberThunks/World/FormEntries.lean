import MemberThunks.World.Namespace

set_option autoImplicit false

/- The namespaces of the classes of forms: functions under the class that first defines them. -/
namespace MemberThunks.FormEntries

def functions (owner : String) (names : List String) : Entries String Attribute :=
  names.map fun name =>
    (name, .native ⟨.toTarget, .function, none, some (owner ++ "." ++ name)⟩)

def reserved (names : List String) : Entries String Attribute :=
  names.map fun name => (name, .reserved)

/-- What cannot be given one by one, though its ancestors can. -/
def withoutElements : Entries String Attribute := [("__iter__", .value .none)]

/-- What every class has that no class derives from. -/
def ofFinal : Entries String Attribute :=
  [("__init_subclass__", .native ⟨.toClass, .function, none, some "_Final.__init_subclass__"⟩)] ++
    reserved ["__weakref__", "__doc__"]

def ofAlias : Entries String Attribute :=
  functions "_BaseGenericAlias"
    ["__init__", "__call__", "__mro_entries__", "__getattr__", "__setattr__", "__instancecheck__",
     "__subclasscheck__", "__dir__"] ++
    reserved ["__dict__"] ++ ofFinal

def ofShorthand : Entries String Attribute :=
  functions "_SpecialGenericAlias"
    ["__init__", "__getitem__", "copy_with", "__repr__", "__subclasscheck__", "__reduce__",
     "__or__", "__ror__"] ++
    withoutElements ++ ofAlias

def ofGeneric : Entries String Attribute :=
  functions "_GenericAlias"
    ["__init__", "__eq__", "__hash__", "__or__", "__ror__", "__getitem__", "_determine_new_args",
     "_make_substitution", "copy_with", "__repr__", "__reduce__", "__mro_entries__",
     "__iter__"] ++ ofAlias

def ofSpecial : Entries String Attribute :=
  functions "_SpecialForm"
    ["__init__", "__getattr__", "__mro_entries__", "__repr__", "__reduce__", "__call__", "__or__",
     "__ror__", "__instancecheck__", "__subclasscheck__",
     "__getitem__"] ++ withoutElements ++ ofFinal

def ofParameter : Entries String Attribute :=
  functions "TypeVar" ["__init__", "__typing_subst__"] ++
    functions "_Immutable" ["__copy__", "__deepcopy__"] ++
    functions "_BoundVarianceMixin" ["__or__", "__ror__", "__repr__"] ++
    functions "_PickleUsingNameMixin" ["__reduce__"] ++ reserved ["__dict__"] ++ ofFinal

/-- The namespace of a class of forms with all that it inherits but from plain objects. -/
def ofClass? : String → Option (Entries String Attribute)
  | "_SpecialGenericAlias" => some ofShorthand
  | "_TupleType" => some (functions "_TupleType" ["__getitem__"] ++ ofShorthand)
  | "_CallableType" =>
    some (functions "_CallableType"
      ["copy_with", "__getitem__", "__getitem_inner__"] ++ ofShorthand)
  | "_GenericAlias" => some ofGeneric
  | "_CallableGenericAlias" =>
    some (functions "_CallableGenericAlias"
      ["__repr__", "__reduce__"] ++ withoutElements ++ ofGeneric)
  | "_UnionGenericAlias" =>
    some (functions "_UnionGenericAlias"
      ["copy_with", "__eq__", "__hash__", "__repr__", "__instancecheck__", "__subclasscheck__",
       "__reduce__"] ++
      withoutElements ++ ofGeneric)
  | "_AnnotatedAlias" =>
    some (functions "_AnnotatedAlias"
      ["__init__", "copy_with", "__repr__", "__reduce__", "__eq__", "__hash__", "__getattr__"] ++
      withoutElements ++ ofGeneric)
  | "_LiteralGenericAlias" =>
    some (functions "_LiteralGenericAlias" ["__eq__", "__hash__"] ++ ofGeneric)
  | "_SpecialForm" => some ofSpecial
  | "_LiteralSpecialForm" =>
    some (functions "_LiteralSpecialForm" ["__getitem__"] ++ reserved ["__dict__"] ++ ofSpecial)
  | "NewType" =>
    some (functions "NewType"
      ["__init__", "__mro_entries__", "__repr__", "__reduce__", "__or__", "__ror__"] ++
      [("__call__", .native ⟨.toTarget, .method, none, none⟩)] ++
      reserved ["__dict__", "__weakref__", "__doc__"])
  | "TypeVar" => some ofParameter
  | "ForwardRef" =>
    some (functions "ForwardRef"
      ["__init__", "_evaluate", "__eq__", "__hash__", "__or__", "__ror__", "__repr__"] ++
      ofFinal)
  | _ => none

end MemberThunks.FormEntries
