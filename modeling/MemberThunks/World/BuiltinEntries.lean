import MemberThunks.World.FormEntries

set_option autoImplicit false

/- The namespaces of the built-in classes: their methods with the formals they tell, and
   their other attributes by name. -/
namespace MemberThunks

namespace Builtin

/-- The formals of some words: a star before a name makes it variadic, two stars a variadic
for keywords, and what follows a star is taken by keyword. -/
def formalsFrom (byKeyword : Bool) : List String → List Formal
  | [] => []
  | word :: rest =>
    match word.toList with
    | ['*'] => formalsFrom true rest
    | '*' :: '*' :: name =>
      ⟨String.ofList name, .keywordVariadic, none, none⟩ :: formalsFrom true rest
    | '*' :: name => ⟨String.ofList name, .variadic, none, none⟩ :: formalsFrom true rest
    | _ =>
      ⟨word, if byKeyword then .keywordOnly else .positionalOnly, none, none⟩ ::
        formalsFrom byKeyword rest

/-- What a built-in routine tells of its formals: nothing, or the formals of some words. -/
def untold : Option (List Formal) := none
def told (words : List String) : Option (List Formal) := some (formalsFrom false words)

def natives (attachment : Attachment) (sort : NativeSort) (formals : Option (List Formal))
    (names : List String) : Entries String Attribute :=
  names.map fun name => (name, .native ⟨attachment, sort, formals, none⟩)

def methods := natives .toTarget .method
def classMethods := natives .toTarget .classMethod
def wrappers := natives .toTarget .wrapper
def constructors := natives .toTarget .constructor
def functions := natives .toTarget .function
def classFunctions := natives .toClass .function
def statics := natives .free .constructor

def reserved (names : List String) : Entries String Attribute :=
  names.map fun name => (name, .reserved)

/-- The classes of built-in values that can be called, apart from classes. -/
def callableClasses : List String :=
  ["GenericAlias", "function", "builtin_function_or_method", "method", "method_descriptor",
   "wrapper_descriptor", "method-wrapper", "staticmethod", "CallableObject"]

/-- What the built-in classes define whose values say how they are read and stored. -/
def accessors (name : String) : Entries String Attribute :=
  if ["property", "member_descriptor", "getset_descriptor"].contains name then
    wrappers (told ["self", "instance", "owner"]) ["__get__"] ++
      wrappers (told ["self", "instance", "value"]) ["__set__"] ++
      wrappers (told ["self", "instance"]) ["__delete__"]
  else if
    ["function", "method", "staticmethod", "classmethod", "wrapper_descriptor",
     "method_descriptor", "classmethod_descriptor"].contains name then
    wrappers (told ["self", "instance", "owner"]) ["__get__"]
  else []

/-- A routine that goes by a qualified name, under another name. -/
def routineKnown (qualname : String) (formals : List String) (name : String) :
    Entries String Attribute :=
  [(name, .native ⟨.toTarget, .function, told formals, some qualname⟩)]

/-- What makes the members of an enumeration. -/
def enumerationMaker : Entries String Attribute :=
  routineKnown "Enum.__new__" ["cls", "value"] "__new__"

/-- How values are chosen for the members of an enumeration. -/
def valueChooser (owner : String) : Entries String Attribute :=
  routineKnown (owner ++ "._generate_next_value_") ["name", "start", "count", "last_values"]
    "_generate_next_value_"

/-- What an enumeration of a kind says of its members. -/
def enumerationEntries : Builtin → Entries String Attribute
  | .intEnum =>
    [("_use_args_", .value (.bool true)), ("_member_type_", .value (.cls (.builtin .int)))] ++
    valueChooser "Enum" ++
    constructors (told ["*args", "**kwargs"]) ["_new_member_"] ++
    wrappers (told ["self"]) ["_value_repr_"]
  | .strEnum =>
    [("_use_args_", .value (.bool true)), ("_member_type_", .value (.cls (.builtin .str)))] ++
    valueChooser "StrEnum" ++
    routineKnown "StrEnum.__new__" ["cls", "*values"] "_new_member_" ++
    wrappers (told ["self"]) ["_value_repr_"]
  | kind =>
    [("_use_args_", .value (.bool false)), ("_member_type_", .value (.cls .object)),
      ("_value_repr_", .value .none)] ++
    valueChooser "Enum" ++
    (if kind = .enum then routineKnown "Enum.__new__" ["cls", "value"] "_new_member_"
      else constructors (told ["*args", "**kwargs"]) ["_new_member_"])

/-- What an enumeration without members says of them. -/
def withoutMembers : Entries String Attribute :=
  [("_member_names_", .value (.list [])), ("_member_map_", .value (.dict [])),
    ("_value2member_map_", .value (.dict [])), ("_unhashable_values_", .value (.list []))]

def entries : Builtin → Entries String Attribute
  | .object =>
    constructors (told ["*args", "**kwargs"]) ["__new__"] ++
    wrappers (told ["self"]) ["__repr__", "__hash__", "__str__"] ++
    wrappers (told ["self", "name"]) ["__getattribute__", "__delattr__"] ++
    wrappers (told ["self", "name", "value"]) ["__setattr__"] ++
    wrappers (told ["self", "value"])
      ["__lt__", "__le__", "__eq__", "__ne__", "__gt__", "__ge__"] ++
    wrappers (told ["self", "*args", "**kwargs"]) ["__init__"] ++
    methods (told ["self", "protocol"]) ["__reduce_ex__"] ++
    methods (told ["self"]) ["__reduce__", "__getstate__", "__sizeof__", "__dir__"] ++
    classMethods untold ["__subclasshook__", "__init_subclass__"] ++
    methods (told ["self", "format_spec"]) ["__format__"] ++
    reserved ["__class__", "__doc__"]
  | .bool =>
    constructors (told ["*args", "**kwargs"]) ["__new__"] ++
    wrappers (told ["self"]) ["__repr__"] ++
    wrappers (told ["self", "value"])
      ["__and__", "__rand__", "__xor__", "__rxor__", "__or__", "__ror__"] ++
    reserved ["__doc__"]
  | .int =>
    constructors (told ["*args", "**kwargs"]) ["__new__"] ++
    wrappers (told ["self"])
      ["__repr__", "__hash__", "__neg__", "__pos__", "__abs__", "__bool__", "__invert__", "__int__",
       "__float__", "__index__"] ++
    wrappers (told ["self", "name"]) ["__getattribute__"] ++
    wrappers (told ["self", "value"])
      ["__lt__", "__le__", "__eq__", "__ne__", "__gt__", "__ge__", "__add__", "__radd__", "__sub__",
       "__rsub__", "__mul__", "__rmul__", "__mod__", "__rmod__", "__divmod__", "__rdivmod__",
       "__lshift__", "__rlshift__", "__rshift__", "__rrshift__", "__and__", "__rand__", "__xor__",
       "__rxor__", "__or__", "__ror__", "__floordiv__", "__rfloordiv__", "__truediv__",
       "__rtruediv__"] ++
    wrappers (told ["self", "value", "mod"]) ["__pow__", "__rpow__"] ++
    methods untold ["conjugate", "__trunc__", "__floor__", "__ceil__", "__round__"] ++
    methods (told ["self"])
      ["bit_length", "bit_count", "as_integer_ratio", "__getnewargs__", "__sizeof__"] ++
    methods (told ["self", "length", "byteorder", "*", "signed"]) ["to_bytes"] ++
    classMethods (told ["type", "bytes", "byteorder", "*", "signed"]) ["from_bytes"] ++
    methods (told ["self", "format_spec"]) ["__format__"] ++
    reserved ["real", "imag", "numerator", "denominator", "__doc__"]
  | .float =>
    constructors (told ["*args", "**kwargs"]) ["__new__"] ++
    wrappers (told ["self"])
      ["__repr__", "__hash__", "__neg__", "__pos__", "__abs__", "__bool__", "__int__",
       "__float__"] ++
    wrappers (told ["self", "name"]) ["__getattribute__"] ++
    wrappers (told ["self", "value"])
      ["__lt__", "__le__", "__eq__", "__ne__", "__gt__", "__ge__", "__add__", "__radd__", "__sub__",
       "__rsub__", "__mul__", "__rmul__", "__mod__", "__rmod__", "__divmod__", "__rdivmod__",
       "__floordiv__", "__rfloordiv__", "__truediv__", "__rtruediv__"] ++
    wrappers (told ["self", "value", "mod"]) ["__pow__", "__rpow__"] ++
    methods (told ["self"])
      ["conjugate", "__trunc__", "__floor__", "__ceil__", "as_integer_ratio", "hex", "is_integer",
       "__getnewargs__"] ++
    methods (told ["self", "ndigits"]) ["__round__"] ++
    classMethods (told ["type", "string"]) ["fromhex"] ++
    classMethods (told ["type", "typestr"]) ["__getformat__"] ++
    methods (told ["self", "format_spec"]) ["__format__"] ++
    reserved ["real", "imag", "__doc__"]
  | .complex =>
    constructors (told ["*args", "**kwargs"]) ["__new__"] ++
    wrappers (told ["self"])
      ["__repr__", "__hash__", "__neg__", "__pos__", "__abs__", "__bool__"] ++
    wrappers (told ["self", "name"]) ["__getattribute__"] ++
    wrappers (told ["self", "value"])
      ["__lt__", "__le__", "__eq__", "__ne__", "__gt__", "__ge__", "__add__", "__radd__", "__sub__",
       "__rsub__", "__mul__", "__rmul__", "__truediv__", "__rtruediv__"] ++
    wrappers (told ["self", "value", "mod"]) ["__pow__", "__rpow__"] ++
    methods (told ["self"]) ["conjugate", "__complex__", "__getnewargs__"] ++
    methods (told ["self", "format_spec"]) ["__format__"] ++
    reserved ["real", "imag", "__doc__"]
  | .str =>
    constructors (told ["*args", "**kwargs"]) ["__new__"] ++
    wrappers (told ["self"]) ["__repr__", "__hash__", "__str__", "__iter__", "__len__"] ++
    wrappers (told ["self", "name"]) ["__getattribute__"] ++
    wrappers (told ["self", "value"])
      ["__lt__", "__le__", "__eq__", "__ne__", "__gt__", "__ge__", "__mod__", "__rmod__", "__add__",
       "__mul__", "__rmul__"] ++
    wrappers (told ["self", "key"]) ["__getitem__", "__contains__"] ++
    methods (told ["self", "encoding", "errors"]) ["encode"] ++
    methods (told ["self", "old", "new", "count"]) ["replace"] ++
    methods (told ["self", "sep", "maxsplit"]) ["split", "rsplit"] ++
    methods (told ["self", "iterable"]) ["join"] ++
    methods (told ["self"])
      ["capitalize", "casefold", "title", "lower", "swapcase", "upper", "isascii", "islower",
       "isupper", "istitle", "isspace", "isdecimal", "isdigit", "isnumeric", "isalpha", "isalnum",
       "isidentifier", "isprintable", "__sizeof__"] ++
    methods (told ["self", "width", "fillchar"]) ["center", "ljust", "rjust"] ++
    methods untold
      ["count", "find", "index", "rfind", "rindex", "startswith", "endswith", "format",
       "format_map", "__getnewargs__"] ++
    methods (told ["self", "tabsize"]) ["expandtabs"] ++
    methods (told ["self", "sep"]) ["partition", "rpartition"] ++
    methods (told ["self", "chars"]) ["lstrip", "rstrip", "strip"] ++
    methods (told ["self", "keepends"]) ["splitlines"] ++
    methods (told ["self", "table"]) ["translate"] ++
    methods (told ["self", "prefix"]) ["removeprefix"] ++
    methods (told ["self", "suffix"]) ["removesuffix"] ++
    methods (told ["self", "width"]) ["zfill"] ++
    methods (told ["self", "format_spec"]) ["__format__"] ++
    statics untold ["maketrans"] ++
    reserved ["__doc__"]
  | .bytes =>
    constructors (told ["*args", "**kwargs"]) ["__new__"] ++
    wrappers (told ["self"]) ["__repr__", "__hash__", "__str__", "__iter__", "__len__"] ++
    wrappers (told ["self", "name"]) ["__getattribute__"] ++
    wrappers (told ["self", "value"])
      ["__lt__", "__le__", "__eq__", "__ne__", "__gt__", "__ge__", "__mod__", "__rmod__", "__add__",
       "__mul__", "__rmul__"] ++
    wrappers (told ["self", "key"]) ["__getitem__", "__contains__"] ++
    methods untold
      ["__getnewargs__", "capitalize", "count", "endswith", "find", "hex", "index", "isalnum",
       "isalpha", "isascii", "isdigit", "islower", "isspace", "istitle", "isupper", "lower",
       "rfind", "rindex", "startswith", "swapcase", "title", "upper"] ++
    methods (told ["self"]) ["__bytes__"] ++
    methods (told ["self", "width", "fillchar"]) ["center", "ljust", "rjust"] ++
    methods (told ["self", "encoding", "errors"]) ["decode"] ++
    methods (told ["self", "tabsize"]) ["expandtabs"] ++
    classMethods (told ["type", "string"]) ["fromhex"] ++
    methods (told ["self", "iterable_of_bytes"]) ["join"] ++
    methods (told ["self", "bytes"]) ["lstrip", "rstrip", "strip"] ++
    statics (told ["frm", "to"]) ["maketrans"] ++
    methods (told ["self", "sep"]) ["partition", "rpartition"] ++
    methods (told ["self", "old", "new", "count"]) ["replace"] ++
    methods (told ["self", "prefix"]) ["removeprefix"] ++
    methods (told ["self", "suffix"]) ["removesuffix"] ++
    methods (told ["self", "sep", "maxsplit"]) ["rsplit", "split"] ++
    methods (told ["self", "keepends"]) ["splitlines"] ++
    methods (told ["self", "table", "delete"]) ["translate"] ++
    methods (told ["self", "width"]) ["zfill"] ++
    reserved ["__doc__"]
  | .bytearray =>
    constructors (told ["*args", "**kwargs"]) ["__new__"] ++
    wrappers (told ["self"]) ["__repr__", "__str__", "__iter__", "__len__"] ++
    wrappers (told ["self", "name"]) ["__getattribute__"] ++
    wrappers (told ["self", "value"])
      ["__lt__", "__le__", "__eq__", "__ne__", "__gt__", "__ge__", "__mod__", "__rmod__", "__add__",
       "__mul__", "__rmul__", "__iadd__", "__imul__"] ++
    wrappers (told ["self", "*args", "**kwargs"]) ["__init__"] ++
    wrappers (told ["self", "key"]) ["__getitem__", "__delitem__", "__contains__"] ++
    wrappers (told ["self", "key", "value"]) ["__setitem__"] ++
    methods untold
      ["__alloc__", "capitalize", "count", "endswith", "find", "hex", "index", "isalnum", "isalpha",
       "isascii", "isdigit", "islower", "isspace", "istitle", "isupper", "lower", "rfind", "rindex",
       "startswith", "swapcase", "title", "upper"] ++
    methods (told ["self"]) ["__reduce__", "__sizeof__", "clear", "copy", "reverse"] ++
    methods (told ["self", "proto"]) ["__reduce_ex__"] ++
    methods (told ["self", "item"]) ["append"] ++
    methods (told ["self", "width", "fillchar"]) ["center", "ljust", "rjust"] ++
    methods (told ["self", "encoding", "errors"]) ["decode"] ++
    methods (told ["self", "tabsize"]) ["expandtabs"] ++
    methods (told ["self", "iterable_of_ints"]) ["extend"] ++
    classMethods (told ["type", "string"]) ["fromhex"] ++
    methods (told ["self", "index", "item"]) ["insert"] ++
    methods (told ["self", "iterable_of_bytes"]) ["join"] ++
    methods (told ["self", "bytes"]) ["lstrip", "rstrip", "strip"] ++
    statics (told ["frm", "to"]) ["maketrans"] ++
    methods (told ["self", "sep"]) ["partition", "rpartition"] ++
    methods (told ["self", "index"]) ["pop"] ++
    methods (told ["self", "value"]) ["remove"] ++
    methods (told ["self", "old", "new", "count"]) ["replace"] ++
    methods (told ["self", "prefix"]) ["removeprefix"] ++
    methods (told ["self", "suffix"]) ["removesuffix"] ++
    methods (told ["self", "sep", "maxsplit"]) ["rsplit", "split"] ++
    methods (told ["self", "keepends"]) ["splitlines"] ++
    methods (told ["self", "table", "delete"]) ["translate"] ++
    methods (told ["self", "width"]) ["zfill"] ++
    [("__hash__", .value .none)] ++
    reserved ["__doc__"]
  | .list =>
    constructors (told ["*args", "**kwargs"]) ["__new__"] ++
    wrappers (told ["self"]) ["__repr__", "__iter__", "__len__"] ++
    wrappers (told ["self", "name"]) ["__getattribute__"] ++
    wrappers (told ["self", "value"])
      ["__lt__", "__le__", "__eq__", "__ne__", "__gt__", "__ge__", "__add__", "__mul__", "__rmul__",
       "__iadd__", "__imul__"] ++
    wrappers (told ["self", "*args", "**kwargs"]) ["__init__"] ++
    methods untold ["__getitem__"] ++
    wrappers (told ["self", "key", "value"]) ["__setitem__"] ++
    wrappers (told ["self", "key"]) ["__delitem__", "__contains__"] ++
    methods (told ["self"]) ["__reversed__", "__sizeof__", "clear", "copy", "reverse"] ++
    methods (told ["self", "object"]) ["append"] ++
    methods (told ["self", "index", "object"]) ["insert"] ++
    methods (told ["self", "iterable"]) ["extend"] ++
    methods (told ["self", "index"]) ["pop"] ++
    methods (told ["self", "value"]) ["remove", "count"] ++
    methods (told ["self", "value", "start", "stop"]) ["index"] ++
    methods (told ["self", "*", "key", "reverse"]) ["sort"] ++
    classMethods untold ["__class_getitem__"] ++
    [("__hash__", .value .none)] ++
    reserved ["__doc__"]
  | .dict =>
    constructors (told ["*args", "**kwargs"]) ["__new__"] ++
    wrappers (told ["self"]) ["__repr__", "__iter__", "__len__"] ++
    wrappers (told ["self", "name"]) ["__getattribute__"] ++
    wrappers (told ["self", "value"])
      ["__lt__", "__le__", "__eq__", "__ne__", "__gt__", "__ge__", "__or__", "__ror__",
       "__ior__"] ++
    wrappers (told ["self", "*args", "**kwargs"]) ["__init__"] ++
    methods untold
      ["__getitem__", "__sizeof__", "pop", "keys", "items", "values", "update", "clear", "copy"] ++
    wrappers (told ["self", "key", "value"]) ["__setitem__"] ++
    wrappers (told ["self", "key"]) ["__delitem__"] ++
    methods (told ["self", "key"]) ["__contains__"] ++
    methods (told ["self", "key", "default"]) ["get", "setdefault"] ++
    methods (told ["self"]) ["popitem", "__reversed__"] ++
    classMethods (told ["type", "iterable", "value"]) ["fromkeys"] ++
    classMethods untold ["__class_getitem__"] ++
    [("__hash__", .value .none)] ++
    reserved ["__doc__"]
  | .tuple =>
    constructors (told ["*args", "**kwargs"]) ["__new__"] ++
    wrappers (told ["self"]) ["__repr__", "__hash__", "__iter__", "__len__"] ++
    wrappers (told ["self", "name"]) ["__getattribute__"] ++
    wrappers (told ["self", "value"])
      ["__lt__", "__le__", "__eq__", "__ne__", "__gt__", "__ge__", "__add__", "__mul__",
       "__rmul__"] ++
    wrappers (told ["self", "key"]) ["__getitem__", "__contains__"] ++
    methods (told ["self"]) ["__getnewargs__"] ++
    methods (told ["self", "value", "start", "stop"]) ["index"] ++
    methods (told ["self", "value"]) ["count"] ++
    classMethods untold ["__class_getitem__"] ++
    reserved ["__doc__"]
  | .set =>
    constructors (told ["*args", "**kwargs"]) ["__new__"] ++
    wrappers (told ["self"]) ["__repr__", "__iter__", "__len__"] ++
    wrappers (told ["self", "name"]) ["__getattribute__"] ++
    wrappers (told ["self", "value"])
      ["__lt__", "__le__", "__eq__", "__ne__", "__gt__", "__ge__", "__sub__", "__rsub__", "__and__",
       "__rand__", "__xor__", "__rxor__", "__or__", "__ror__", "__isub__", "__iand__", "__ixor__",
       "__ior__"] ++
    wrappers (told ["self", "*args", "**kwargs"]) ["__init__"] ++
    methods untold
      ["__contains__", "add", "clear", "copy", "discard", "difference", "difference_update",
       "intersection", "intersection_update", "isdisjoint", "issubset", "issuperset", "pop",
       "__reduce__", "remove", "__sizeof__", "symmetric_difference", "symmetric_difference_update",
       "union", "update"] ++
    classMethods untold ["__class_getitem__"] ++
    [("__hash__", .value .none)] ++
    reserved ["__doc__"]
  | .frozenset =>
    constructors (told ["*args", "**kwargs"]) ["__new__"] ++
    wrappers (told ["self"]) ["__repr__", "__hash__", "__iter__", "__len__"] ++
    wrappers (told ["self", "name"]) ["__getattribute__"] ++
    wrappers (told ["self", "value"])
      ["__lt__", "__le__", "__eq__", "__ne__", "__gt__", "__ge__", "__sub__", "__rsub__", "__and__",
       "__rand__", "__xor__", "__rxor__", "__or__", "__ror__"] ++
    methods untold
      ["__contains__", "copy", "difference", "intersection", "isdisjoint", "issubset", "issuperset",
       "__reduce__", "__sizeof__", "symmetric_difference", "union"] ++
    classMethods untold ["__class_getitem__"] ++
    reserved ["__doc__"]
  | .type =>
    constructors (told ["*args", "**kwargs"]) ["__new__"] ++
    wrappers (told ["self"]) ["__repr__"] ++
    wrappers (told ["self", "*args", "**kwargs"]) ["__call__", "__init__"] ++
    wrappers (told ["self", "name"]) ["__getattribute__", "__delattr__"] ++
    wrappers (told ["self", "name", "value"]) ["__setattr__"] ++
    wrappers (told ["self", "value"]) ["__or__", "__ror__"] ++
    methods (told ["self"]) ["mro", "__subclasses__", "__dir__", "__sizeof__"] ++
    classMethods untold ["__prepare__"] ++
    methods (told ["self", "instance"]) ["__instancecheck__"] ++
    methods (told ["self", "subclass"]) ["__subclasscheck__"] ++
    reserved
      ["__basicsize__", "__itemsize__", "__flags__", "__weakrefoffset__", "__base__",
       "__dictoffset__", "__mro__", "__name__", "__qualname__", "__bases__", "__module__",
       "__abstractmethods__", "__dict__", "__doc__", "__text_signature__", "__annotations__"]
  | .noneType =>
    constructors (told ["*args", "**kwargs"]) ["__new__"] ++
    wrappers (told ["self"]) ["__repr__", "__bool__"] ++
    reserved ["__doc__"]
  | .generic =>
    classFunctions (told ["cls", "params"]) ["__class_getitem__"] ++
    classFunctions (told ["cls", "*args", "**kwargs"]) ["__init_subclass__"] ++
    [("__slots__", .value (.tuple [])), ("_is_protocol", .value (.bool false))] ++
    reserved ["__doc__"]
  | .enum =>
    enumerationEntries .enum ++ withoutMembers ++
    statics (told ["cls", "value"]) ["__new__"] ++
    functions (told ["self", "*args", "**kwds"]) ["__init__"] ++
    classFunctions (told ["cls", "value"]) ["_missing_"] ++
    functions (told ["self"]) ["__repr__", "__str__", "__dir__", "__hash__"] ++
    functions (told ["self", "format_spec"]) ["__format__"] ++
    functions (told ["self", "proto"]) ["__reduce_ex__"] ++
    reserved ["__doc__", "name", "value", "__dict__", "__weakref__"]
  | .reprEnum =>
    enumerationEntries .reprEnum ++ withoutMembers ++
    enumerationMaker ++
    reserved ["__doc__"]
  | .intEnum =>
    enumerationEntries .intEnum ++ withoutMembers ++
    wrappers (told ["self"]) ["__str__"] ++
    methods (told ["self", "format_spec"]) ["__format__"] ++
    routineKnown "Enum.__repr__" ["self"] "__repr__" ++
    enumerationMaker ++
    reserved ["__doc__", "__dict__"]
  | .strEnum =>
    enumerationEntries .strEnum ++ withoutMembers ++
    enumerationMaker ++
    routineKnown "StrEnum.__new__" ["cls", "*values"] "__new_member__" ++
    wrappers (told ["self"]) ["__str__"] ++
    methods (told ["self", "format_spec"]) ["__format__"] ++
    routineKnown "Enum.__repr__" ["self"] "__repr__" ++
    reserved ["__doc__", "__dict__", "__weakref__"]
  | .enumType =>
    classFunctions (told ["metacls", "cls", "bases", "**kwds"]) ["__prepare__"] ++
    statics (told ["metacls", "cls", "bases", "classdict", "*", "boundary", "_simple", "**kwds"])
      ["__new__"] ++
    [("__members__", .property ⟨some (.foreign (.other "" "function") "<function EnumType.__members__>"),
      none, some "__members__"⟩)] ++
    functions (told ["cls"])
      ["__bool__", "__dir__", "__iter__", "__len__", "__repr__", "__reversed__"] ++
    functions (told ["cls", "value", "names", "*", "module", "qualname", "type", "start", "boundary"])
      ["__call__"] ++
    functions (told ["cls", "member"]) ["__contains__"] ++
    functions (told ["cls", "attr"]) ["__delattr__"] ++
    functions (told ["cls", "name"]) ["__getattr__", "__getitem__"] ++
    functions (told ["cls", "name", "value"]) ["__setattr__"] ++
    functions (told ["cls", "class_name", "names", "*", "module", "qualname", "type", "start", "boundary"])
      ["_create_"] ++
    functions (told ["cls", "name", "module", "filter", "source", "*", "boundary", "as_global"])
      ["_convert_"] ++
    classFunctions (told ["mcls", "class_name", "bases"])
      ["_check_for_existing_members_", "_get_mixins_", "_find_data_repr_", "_find_data_type_"] ++
    classFunctions (told ["mcls", "classdict", "member_type", "first_enum"]) ["_find_new_"] ++
    reserved ["__doc__"]
  | .other "" "module" =>
    constructors (told ["*args", "**kwargs"]) ["__new__"] ++
    wrappers (told ["self"]) ["__repr__"] ++
    wrappers (told ["self", "name"]) ["__getattribute__", "__delattr__"] ++
    wrappers (told ["self", "name", "value"]) ["__setattr__"] ++
    wrappers (told ["self", "*args", "**kwargs"]) ["__init__"] ++
    methods untold ["__dir__"] ++
    reserved ["__dict__", "__annotations__", "__doc__"]
  | .other "types" "UnionType" =>
    wrappers (told ["self", "key"]) ["__getitem__"] ++ wrappers (told ["self", "value"])
      ["__or__", "__ror__"] ++
    reserved ["__doc__"]
  | .other "typing" name => (FormEntries.ofClass? name).getD (reserved ["__doc__"])
  | .other "__main__" name => routineKnown (name ++ ".__call__")
    ["self", "*args", "**kwargs"] "__call__" ++
    [("__module__", .value (.text Value.programTitle))] ++ reserved ["__doc__", "__weakref__"]
  | .other _ name =>
    accessors name ++
    if callableClasses.contains name then wrappers (told ["self", "*args", "**kwargs"])
      ["__call__"] ++
      (if name = "GenericAlias" then wrappers (told ["self"]) ["__iter__", "__getitem__"] else []) ++
      reserved ["__doc__"]
    else reserved ["__doc__"]
  | _ => reserved ["__doc__"]

end Builtin

end MemberThunks
