set_option autoImplicit false

/- References to classes. A class is built in or belongs to the world at hand; a class
   of the world is known by its place in it, so that it stays itself under any name, and
   is an ordinary class or an enumeration. -/
namespace MemberThunks

/-- The abstract classes, whose instances are told by what their classes can do. -/
inductive Abstract where
  | hashable | sized | container | iterable | collection | callable
  | iterator | reversible | generator
  | awaitable | coroutine | asyncIterable | asyncIterator | asyncGenerator
  | set | mutableSet | mapping | mutableMapping | sequence | mutableSequence | byteString
  | mappingView | keysView | itemsView | valuesView
  | contextManager | asyncContextManager
deriving DecidableEq

namespace Abstract

def qualname : Abstract → String
  | hashable => "Hashable"
  | sized => "Sized"
  | container => "Container"
  | iterable => "Iterable"
  | collection => "Collection"
  | callable => "Callable"
  | iterator => "Iterator"
  | reversible => "Reversible"
  | generator => "Generator"
  | awaitable => "Awaitable"
  | coroutine => "Coroutine"
  | asyncIterable => "AsyncIterable"
  | asyncIterator => "AsyncIterator"
  | asyncGenerator => "AsyncGenerator"
  | set => "Set"
  | mutableSet => "MutableSet"
  | mapping => "Mapping"
  | mutableMapping => "MutableMapping"
  | sequence => "Sequence"
  | mutableSequence => "MutableSequence"
  | byteString => "ByteString"
  | mappingView => "MappingView"
  | keysView => "KeysView"
  | itemsView => "ItemsView"
  | valuesView => "ValuesView"
  | contextManager => "AbstractContextManager"
  | asyncContextManager => "AbstractAsyncContextManager"

def home : Abstract → String
  | contextManager | asyncContextManager => "contextlib"
  | _ => "collections.abc"

/-- The methods that make a class an instance class of the abstract one. -/
def methods : Abstract → List String
  | hashable => ["__hash__"]
  | sized => ["__len__"]
  | container => ["__contains__"]
  | iterable => ["__iter__"]
  | collection => ["__len__", "__iter__", "__contains__"]
  | callable => ["__call__"]
  | iterator => ["__iter__", "__next__"]
  | reversible => ["__reversed__", "__iter__"]
  | generator => ["__iter__", "__next__", "send", "throw", "close"]
  | awaitable => ["__await__"]
  | coroutine => ["__await__", "send", "throw", "close"]
  | asyncIterable => ["__aiter__"]
  | asyncIterator => ["__anext__", "__aiter__"]
  | asyncGenerator => ["__aiter__", "__anext__", "asend", "athrow", "aclose"]
  | contextManager => ["__enter__", "__exit__"]
  | asyncContextManager => ["__aenter__", "__aexit__"]
  | _ => []

/-- The methods without which a class that derives from the abstract one has no instances. -/
def lacked : Abstract → List String
  | iterator => ["__next__"]
  | reversible => ["__iter__", "__reversed__"]
  | collection | set => ["__contains__", "__iter__", "__len__"]
  | generator => ["send", "throw"]
  | coroutine => ["__await__", "send", "throw"]
  | asyncIterator => ["__anext__"]
  | asyncGenerator => ["asend", "athrow"]
  | mutableSet => ["__contains__", "__iter__", "__len__", "add", "discard"]
  | mapping => ["__getitem__", "__iter__", "__len__"]
  | mutableMapping => ["__delitem__", "__getitem__", "__iter__", "__len__", "__setitem__"]
  | sequence | byteString => ["__getitem__", "__len__"]
  | mutableSequence => ["__delitem__", "__getitem__", "__len__", "__setitem__", "insert"]
  | contextManager => ["__exit__"]
  | asyncContextManager => ["__aexit__"]
  | kind => kind.methods

/-- The abstract classes that derive from the abstract one. -/
def refinements : Abstract → List Abstract
  | sized =>
    [collection, set, mutableSet, mapping, mutableMapping, sequence, mutableSequence, byteString,
      mappingView, keysView, itemsView, valuesView]
  | container =>
    [collection, set, mutableSet, mapping, mutableMapping, sequence, mutableSequence, byteString,
      keysView, itemsView, valuesView]
  | iterable =>
    [collection, iterator, reversible, generator, set, mutableSet, mapping, mutableMapping,
      sequence, mutableSequence, byteString, keysView, itemsView, valuesView]
  | collection =>
    [set, mutableSet, mapping, mutableMapping, sequence, mutableSequence, byteString, keysView,
      itemsView, valuesView]
  | iterator => [generator]
  | reversible => [sequence, mutableSequence, byteString]
  | awaitable => [coroutine]
  | asyncIterable => [asyncIterator, asyncGenerator]
  | asyncIterator => [asyncGenerator]
  | set => [mutableSet, keysView, itemsView]
  | mapping => [mutableMapping]
  | sequence => [mutableSequence, byteString]
  | mappingView => [keysView, itemsView, valuesView]
  | _ => []

end Abstract

inductive Builtin where
  | object | bool | int | float | complex | str | bytes | bytearray
  | list | dict | tuple | set | frozenset | type | noneType
  | any | empty | generic
  | abstract (kind : Abstract)
  | enum | reprEnum | intEnum | strEnum | enumType | abstractType | anyType
  /-- A class of which only the name and the module are known. -/
  | other (home name : String)
deriving DecidableEq

namespace Builtin

def qualname : Builtin → String
  | object => "object"
  | bool => "bool"
  | int => "int"
  | float => "float"
  | complex => "complex"
  | str => "str"
  | bytes => "bytes"
  | bytearray => "bytearray"
  | list => "list"
  | dict => "dict"
  | tuple => "tuple"
  | set => "set"
  | frozenset => "frozenset"
  | type => "type"
  | noneType => "NoneType"
  | any => "Any"
  | empty => "_empty"
  | generic => "Generic"
  | abstract kind => kind.qualname
  | enum => "Enum"
  | reprEnum => "ReprEnum"
  | intEnum => "IntEnum"
  | strEnum => "StrEnum"
  | enumType => "EnumType"
  | abstractType => "ABCMeta"
  | anyType => "_AnyMeta"
  | other _ name => name

/-- The module of the class; that of the language itself is the empty text. -/
def home : Builtin → String
  | any | generic | anyType => "typing"
  | empty => "inspect"
  | abstract kind => kind.home
  | enum | reprEnum | intEnum | strEnum | enumType => "enum"
  | abstractType => "abc"
  | other home _ => home
  | _ => ""

def path (kind : Builtin) : String :=
  if kind.home.isEmpty then kind.qualname else kind.home ++ "." ++ kind.qualname

/-- The name by which messages call the class: a few classes go by their paths. -/
def shortName : Builtin → String
  | other "types" name => "types." ++ name
  | other "re" name => "re." ++ name
  | kind => kind.qualname

/-- The class and its ancestors in resolution order. -/
def order : Builtin → List Builtin
  | object => [object]
  | bool => [bool, int, object]
  | enumType => [enumType, type, object]
  | abstractType => [abstractType, type, object]
  | anyType => [anyType, type, object]
  | reprEnum => [reprEnum, enum, object]
  | intEnum => [intEnum, int, reprEnum, enum, object]
  | strEnum => [strEnum, str, reprEnum, enum, object]
  | simple => [simple, object]

/-- The built-in classes that type forms and class lists call by name. -/
def named : List (String × Builtin) :=
  [object, bool, int, float, complex, str, bytes, bytearray, list, dict, tuple, set, frozenset,
    type].map fun builtin => (builtin.qualname, builtin)

/-- The built-in classes whose instances are matched by their exact class. -/
def valueRoots : List Builtin := [bool, int, float, complex]

/-- The built-in classes that take arguments in brackets. -/
def isSubscriptable : Builtin → Bool
  | list | dict | tuple | set | frozenset | type => true
  | _ => false

end Builtin

inductive ClassRef where
  | builtin (kind : Builtin)
  | declared (place : Nat)
  /-- An enumeration; the members of a transparent one act as their values. -/
  | enumeration (place : Nat) (transparent : Bool)
deriving DecidableEq

namespace ClassRef

def object : ClassRef := builtin .object
def noneType : ClassRef := builtin .noneType

def place? : ClassRef → Option Nat
  | builtin _ => none
  | declared place | enumeration place _ => some place

end ClassRef

end MemberThunks
