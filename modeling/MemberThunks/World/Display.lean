import MemberThunks.Text.Quoted
import MemberThunks.World.Basic

set_option autoImplicit false

/- The text of values and type forms, as it stands in messages, in constants and in
   listings of instructions. A class is written in full by itself and by its path
   inside another type; in a union written with bars the class of None is None. A
   routine inside another type goes by its name, and inside a built-in class by its path.
   An object that has told its text goes by that. -/
namespace MemberThunks

inductive Position where
  | alone
  /-- Inside a form of the typing vocabulary. -/
  | inside
  /-- Inside a built-in class. -/
  | insideBuiltin
  | betweenBars

namespace World

/-- A class in full. One that says nothing of its module goes by its bare name. -/
def displayClass (world : World) (target : ClassRef) : String :=
  if target = .builtin .any then "typing.Any"
  else if Value.metaclass target = .enumType then
    "<enum " ++ Quoted.quote (world.bareName target) ++ ">"
  else "<class '" ++ (world.fullPath? target).getD (world.bareName target) ++ "'>"

/-- A class by its path, or in full where it says that it has no module. -/
def pathOrText (world : World) (target : ClassRef) : String :=
  match world.moduleOf target with
  | .none => world.displayClass target
  | _ => world.path target

def displayClassAt (world : World) (target : ClassRef) : Position → String
  | .alone => world.displayClass target
  | .inside => world.path target
  | .insideBuiltin => world.pathOrText target
  | .betweenBars => if target = .noneType then "None" else world.pathOrText target

/-- An object of which only the class can be told. -/
def displayObject (world : World) (owner : ClassRef) : String :=
  "<" ++ (world.fullPath? owner).getD (world.bareName owner) ++ " object>"

/-- An object by the text it has told, or by another one. -/
def toldOr (world : World) (address : Nat) (other : String) : String :=
  (world.told.lookup address).getD other

end World

namespace Display

def joined (parts : List String) : String := ", ".intercalate parts

def enclosed (opening closing : String) (parts : List String) : String :=
  opening ++ joined parts ++ closing

def tuple : List String → String
  | [only] => "(" ++ only ++ ",)"
  | parts => enclosed "(" ")" parts

def subscripted (head : String) (parts : List String) : String :=
  if parts.isEmpty then head ++ "[()]" else head ++ enclosed "[" "]" parts

def braced (parts : List String) : String := enclosed "\x7b" "\x7d" parts

/-- A collection that is written by the name of its class. -/
def collection (name : String) (parts : List String) : String :=
  if parts.isEmpty then name ++ "()" else name ++ "(" ++ braced parts ++ ")"

/-- A part of a complex number drops a fraction that is zero. -/
def complexPart (digits : String) : String :=
  if digits.endsWith ".0" then (digits.dropEnd 2).toString else digits

def complex (real imaginary : String) : String :=
  let tail := complexPart imaginary ++ "j"
  if real = "0.0" then tail
  else
    let sign := if imaginary.startsWith "-" then "" else "+"
    "(" ++ complexPart real ++ sign ++ tail ++ ")"

def native : Native → String
  | .len => "len"
  | .max => "max"

def variance : Variance → String
  | .invariant => "~"
  | .covariant => "+"
  | .contravariant => "-"

end Display

/-- A routine that a text is of, by its name. -/
def Display.routineName? (shown : String) : Option String :=
  if shown.startsWith "<function " then
    some (String.ofList ((shown.toList.drop 10).dropLast))
  else none

/-- The path of a routine, if it has one. -/
def Value.routinePath? : Value → Option String
  | .function _ qualname => some (World.moduleTitle ++ "." ++ qualname)
  | .native routine => some (Display.native routine)
  | .foreign (.other "" "function") shown =>
    (Display.routineName? shown).map fun name => World.moduleTitle ++ "." ++ name
  | .foreign (.other "" "builtin_function_or_method") shown =>
    if shown.startsWith "<built-in function " then
      some (String.ofList ((shown.toList.drop 19).dropLast))
    else Option.none
  | .bound _ callee => callee.routinePath?
  | _ => Option.none

/-- How a value is written inside another type, where that is not by its text. -/
def Value.nested? (position : Position) (value : Value) : Option String :=
  match position, value with
  | .alone, _ => Option.none
  | _, .foreign (.other "" "ellipsis") _ => some "..."
  | .inside, .function _ qualname => some (World.lastName qualname)
  | .inside, .foreign (.other "" "function") shown =>
    (Display.routineName? shown).map World.lastName
  | .inside, _ => Option.none
  | _, _ => value.routinePath?

/-- Whether the one parameter of callables stands for any number of them. -/
def TypeForm.isParameterList : TypeForm → Bool
  | .value content =>
    match content.payload with
    | .tuple _ | .list _ | .foreign (.other "" "ellipsis") _ => true
    | _ => false
  | _ => false

/-- The name under which a callee shows. -/
def Value.calleeName : Value → String
  | .function _ qualname | .callable _ qualname => qualname
  | .native routine => Display.native routine
  | .foreign (.other "" "function") shown => (Display.routineName? shown).getD ""
  | _ => ""

open Display in
mutual

def Value.display (world : World) : Value → String
  | .none => "None"
  | .bool truth => if truth then "True" else "False"
  | .int number => toString number
  | .float digits => digits
  | .nan _ => "nan"
  | .complex real imaginary => Display.complex real imaginary
  | .text content => Quoted.quote content
  | .octets content => Quoted.quoteOctets content
  | .buffer content => enclosed "bytearray(" ")" [Quoted.quoteOctets content]
  | .list items => enclosed "[" "]" (Value.displayAll world items)
  | .tuple items => Display.tuple (Value.displayAll world items)
  | .dict entries => braced (Value.displayPairs world entries)
  | .set items => if items.isEmpty then "set()" else braced (Value.displayAll world items)
  | .frozenset items => Display.collection "frozenset" (Value.displayAll world items)
  | .object address owner => world.toldOr address (world.displayObject owner)
  | .wrapped address owner (.set items) =>
    world.toldOr address
      (Display.collection (world.bareName owner) (Value.displayAll world items))
  | .wrapped address owner (.frozenset items) =>
    world.toldOr address
      (Display.collection (world.bareName owner) (Value.displayAll world items))
  | .wrapped address owner (.buffer content) =>
    world.toldOr address (world.bareName owner ++ "(" ++ Quoted.quoteOctets content ++ ")")
  | .wrapped address _ content => world.toldOr address (content.display world)
  | .enumMember address owner label content =>
    world.toldOr address
      ("<" ++ world.bareName owner ++ "." ++ label ++ ": " ++ content.display world ++ ">")
  | .cls target => world.displayClass target
  | .function _ qualname => "<function " ++ qualname ++ ">"
  | .callable _ _ => "<__main__.CallableObject object>"
  | .native routine => "<built-in function " ++ Display.native routine ++ ">"
  | .bound receiver callee =>
    "<bound method " ++ callee.calleeName ++ " of " ++ receiver.display world ++ ">"
  | .form written => written.displayAt world .alone
  | .foreign _ shown | .holder _ shown _ => shown
termination_by structural value => value

def Value.displayAll (world : World) : List Value → List String
  | [] => []
  | value :: rest => value.display world :: Value.displayAll world rest
termination_by structural values => values

def Value.displayPairs (world : World) : List (Value × Value) → List String
  | [] => []
  | (key, value) :: rest =>
    (key.display world ++ ": " ++ value.display world) :: Value.displayPairs world rest
termination_by structural entries => entries

/-- The items of a form of the typing vocabulary. -/
def Value.displayItems (world : World) : List Value → List String
  | [] => []
  | value :: rest =>
    ((value.nested? .inside).getD
      (match value with
        | .cls target => world.displayClassAt target .inside
        | other => other.display world)) :: Value.displayItems world rest
termination_by structural values => values

def TypeForm.displayAt (world : World) (position : Position) : TypeForm → String
  | .cls target => world.displayClassAt target position
  | .none => "None"
  | .special name => "typing." ++ name
  | .shorthand name _ => "typing." ++ name
  | .union .subscript [.cls (.builtin .noneType), member] =>
    "typing.Optional[" ++ member.displayAt world .inside ++ "]"
  | .union .subscript [member, .cls (.builtin .noneType)] =>
    "typing.Optional[" ++ member.displayAt world .inside ++ "]"
  | .union .subscript members =>
    enclosed "typing.Union[" "]" (TypeForm.displayAllAt world .inside members)
  | .union .bar members => " | ".intercalate (TypeForm.displayAllAt world .betweenBars members)
  | .generic (.vocabulary name) _ arguments =>
    subscripted ("typing." ++ name) (TypeForm.displayAllAt world .inside arguments)
  | .generic .native origin arguments =>
    subscripted (world.displayClassAt origin .insideBuiltin)
      (TypeForm.displayAllAt world .insideBuiltin arguments)
  | .generic .parametric origin arguments =>
    subscripted (world.path origin) (TypeForm.displayAllAt world .inside arguments)
  | .callable [parameter] result =>
    if parameter.isParameterList then
      enclosed "typing.Callable[" "]"
        [parameter.displayAt world .inside, result.displayAt world .inside]
    else
      enclosed "typing.Callable[[" "]" [parameter.displayAt world .inside ++ "]",
        result.displayAt world .inside]
  | .callable parameters result =>
    "typing.Callable[" ++ enclosed "[" "]" (TypeForm.displayAllAt world .inside parameters) ++
      ", " ++ result.displayAt world .inside ++ "]"
  | .annotated base metadata =>
    enclosed "typing.Annotated[" "]"
      (base.displayAt world .inside :: Value.displayAll world metadata)
  | .newType name _ => "world." ++ name
  | .literal values _ => subscripted "typing.Literal" (Value.displayItems world values)
  | .parameter name variance _ => Display.variance variance ++ name
  | .text content => Quoted.quote content
  | .forward content => "ForwardRef(" ++ Quoted.quote content ++ ")"
  | .classVar base => "typing.ClassVar[" ++ base.displayAt world .inside ++ "]"
  | .final base => "typing.Final[" ++ base.displayAt world .inside ++ "]"
  | .value content => (content.nested? position).getD (content.display world)
termination_by structural form => form

def TypeForm.displayAllAt (world : World) (position : Position) : List TypeForm → List String
  | [] => []
  | form :: rest => form.displayAt world position :: TypeForm.displayAllAt world position rest
termination_by structural forms => forms

end

def TypeForm.display (world : World) (form : TypeForm) : String := form.displayAt world .alone

/-- The readable name of a declared type: a class goes by its qualified name, and
the typing vocabulary loses its home wherever it is mentioned. -/
def TypeForm.name (world : World) : TypeForm → String
  | .cls (.builtin .noneType) => "None"
  | .cls target => world.qualname target
  | other => (other.display world).replace "typing." ""

/-- The readable name of the class of a value. -/
def Value.typeName (world : World) (value : Value) : String :=
  (TypeForm.cls value.typeOf).name world

end MemberThunks
