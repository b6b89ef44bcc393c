import MemberThunks.TypeForm.Union

set_option autoImplicit false

/- The typing vocabulary: which of its names stand for classes, alone or with
   arguments, and which stand for no class at all; and classes with arguments. -/
namespace MemberThunks.TypeForm

/-- The aliases of classes: the class, and how many arguments it takes. One takes any
number. -/
def aliases : List (String × Builtin × Option Nat) := [
  ("List", .list, some 1), ("Dict", .dict, some 2), ("Tuple", .tuple, Option.none),
  ("Set", .set, some 1), ("FrozenSet", .frozenset, some 1), ("Type", .type, some 1),
  ("Sequence", .abstract .sequence, some 1), ("Mapping", .abstract .mapping, some 2),
  ("Iterable", .abstract .iterable, some 1), ("Callable", .abstract .callable, some 2),
  ("Hashable", .abstract .hashable, some 0), ("Sized", .abstract .sized, some 0),
  ("AbstractSet", .abstract .set, some 1), ("MutableSet", .abstract .mutableSet, some 1),
  ("MutableMapping", .abstract .mutableMapping, some 2),
  ("MutableSequence", .abstract .mutableSequence, some 1),
  ("ByteString", .abstract .byteString, some 0), ("Container", .abstract .container, some 1),
  ("Collection", .abstract .collection, some 1), ("Iterator", .abstract .iterator, some 1),
  ("Reversible", .abstract .reversible, some 1), ("Generator", .abstract .generator, some 3),
  ("Awaitable", .abstract .awaitable, some 1), ("Coroutine", .abstract .coroutine, some 3),
  ("AsyncIterable", .abstract .asyncIterable, some 1),
  ("AsyncIterator", .abstract .asyncIterator, some 1),
  ("AsyncGenerator", .abstract .asyncGenerator, some 2),
  ("MappingView", .abstract .mappingView, some 1), ("KeysView", .abstract .keysView, some 1),
  ("ItemsView", .abstract .itemsView, some 2), ("ValuesView", .abstract .valuesView, some 1),
  ("ContextManager", .abstract .contextManager, some 1),
  ("AsyncContextManager", .abstract .asyncContextManager, some 1),
  ("Deque", .other "collections" "deque", some 1),
  ("DefaultDict", .other "collections" "defaultdict", some 2),
  ("OrderedDict", .other "collections" "OrderedDict", some 2),
  ("Counter", .other "collections" "Counter", some 1),
  ("ChainMap", .other "collections" "ChainMap", some 2),
  ("Pattern", .other "re" "Pattern", some 1), ("Match", .other "re" "Match", some 1)]

/-- The classes of the vocabulary itself. -/
def classNames : List String :=
  ["Protocol", "SupportsAbs", "SupportsBytes", "SupportsComplex", "SupportsFloat",
    "SupportsIndex", "SupportsInt", "SupportsRound", "IO", "TextIO", "BinaryIO", "ForwardRef",
    "NewType", "TypeVar", "ParamSpec", "TypeVarTuple", "Annotated"]

/-- The abstract classes by name. -/
def abstractClasses : List (String × Builtin) :=
  [Abstract.hashable, .sized, .container, .iterable, .collection, .callable, .iterator,
    .reversible, .generator, .awaitable, .coroutine, .asyncIterable, .asyncIterator,
    .asyncGenerator, .set, .mutableSet, .mapping, .mutableMapping, .sequence, .mutableSequence,
    .byteString, .mappingView, .keysView, .itemsView, .valuesView].map fun kind =>
    (kind.qualname, .abstract kind)

def ofName (name : String) : TypeForm :=
  match aliases.lookup name with
  | some (origin, _) => shorthand name (.builtin origin)
  | Option.none =>
    if name = "Text" then cls (.builtin .str)
    else if name = "Any" then cls (.builtin .any)
    else if name = "Generic" then cls (.builtin .generic)
    else if name = "AnyStr" then parameter name .invariant true
    else if classNames.contains name then cls (.builtin (.other "typing" name))
    else special name

/-- The name of the module of the vocabulary. -/
def vocabularyModule : String := "typing"

/-- The names of the vocabulary that stand for no class and no alias of one. -/
def specialNames : List String :=
  ["Union", "Optional", "Literal", "NoReturn", "Never", "Self", "LiteralString", "ClassVar",
    "Final", "Concatenate", "TypeAlias", "TypeGuard", "Unpack", "Required", "NotRequired"]

/-- The classes of the vocabulary whose members are told by what they can do. -/
def protocolNames : List String :=
  ["SupportsAbs", "SupportsBytes", "SupportsComplex", "SupportsFloat", "SupportsIndex",
    "SupportsInt", "SupportsRound", "IO", "TextIO", "BinaryIO"]

/-- What the vocabulary has under a name, if it has the name. -/
def named? (name : String) : Option TypeForm :=
  match ofName name with
  | special other => if specialNames.contains other then some (special other) else Option.none
  | found => some found

def genericRule : String := "Parameters to generic types must be types."

def checkCount (subject : String) (expected given : Nat) : Except FormFault Unit :=
  if expected = 0 then .error (.notGeneric subject)
  else if given = expected then .ok ()
  else .error (.wrongCount subject given expected)

/-- The parameters of callables: those of a list or a tuple, or what stands by itself. -/
def parameterForms : TypeForm → List TypeForm
  | value content =>
    match content.payload with
    | .list items | .tuple items => items.map Value.toForm
    | _ => [value content]
  | other => [other]

def callableOf (world : World) (parameters : List TypeForm) (result : TypeForm) :
    Except FormFault TypeForm := do
  let result ← asArgument world (.inner "Callable[args, result]: result must be a type.") result
  return callable (← parameters.mapM convert) result

def isEllipsis : TypeForm → Bool
  | value (.foreign (.other "" "ellipsis") _) => true
  | _ => false

/-- A tuple type of some arguments, of which the last may stand for any number of them. -/
def tupleOf (world : World) (arguments : List TypeForm) : Except FormFault TypeForm := do
  let isOpen := 2 ≤ arguments.length && (arguments.getLast?.any isEllipsis)
  let rule := if isOpen then "Tuple[t, ...]: t must be a type."
    else "Tuple[t0, t1, ...]: each t must be a type."
  return generic (.vocabulary "Tuple") (.builtin .tuple) (← asArguments world rule arguments)

/-- An alias of a class with the arguments it takes. -/
def aliasOf (world : World) (name : String) (origin : ClassRef) (expected : Nat)
    (arguments : List TypeForm) : Except FormFault TypeForm := do
  let checked ← asArguments world genericRule arguments
  checkCount ("typing." ++ name) expected checked.length
  return generic (.vocabulary name) origin checked

/-- A form of the vocabulary that is written with a mark of its own. -/
def markedOf (name : String) (argument : TypeForm) : TypeForm :=
  match name with
  | "ClassVar" => classVar argument
  | "Final" => final argument
  | _ => generic (.vocabulary name) (.builtin (.other vocabularyModule name)) [argument]

/-- What a marking form asks of its argument. -/
def markingRule? (name : String) : Option String :=
  if ["ClassVar", "Final", "TypeGuard", "Unpack"].contains name then
    some ("typing." ++ name ++ " accepts only single type.")
  else if ["Required", "NotRequired"].contains name then
    some (name ++ " accepts only a single type.")
  else Option.none

/-- The class by which others get their type parameters, with such parameters. -/
def parametersOf (owner : Builtin) (arguments : List TypeForm) : Except FormFault TypeForm := do
  let converted ← arguments.mapM convert
  if converted.isEmpty then throw (.noParameters owner.qualname)
  else if !converted.all isParameter then throw (.notParameters owner.qualname)
  else if (distinct converted).length < converted.length then
    throw (.repeatedParameters owner.qualname)
  else return generic .parametric (.builtin owner) converted

/-- Whether a class takes arguments as the built-in classes do. -/
def isNativeOrigin (world : World) (origin : ClassRef) : Bool :=
  (world.order origin).any fun ancestor =>
    match ancestor with
    | .builtin kind => kind.isSubscriptable && (kind != .type || origin = .builtin .type)
    | _ => false

/-- How many type parameters a class has. -/
def parameterCount (world : World) : ClassRef → Nat
  | .builtin (.other "typing" name) =>
    if ["SupportsAbs", "SupportsRound", "IO"].contains name then 1 else 0
  | origin => ((world.find? origin).map (·.parameters.length)).getD 0

/-- A class with type parameters and an argument for each. -/
def parametricOf (world : World) (origin : ClassRef) (arguments : List TypeForm) :
    Except FormFault TypeForm := do
  let converted ← arguments.mapM convert
  checkCount (world.displayClass origin) (parameterCount world origin) converted.length
  return generic .parametric origin converted

end MemberThunks.TypeForm
