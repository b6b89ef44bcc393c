import MemberThunks.World.Item
import MemberThunks.World.Telling

set_option autoImplicit false

/- Operators in annotations. The classes of both operands may say what an operator gives;
   else built-in values are computed with, and a bar between classes or forms makes a union
   of them. -/
namespace MemberThunks.Annotation.Operation

/-- The methods by which a class says what an operator does, on either side. -/
def methods : List (String × String × String) := [
  ("|", "__or__", "__ror__"), ("&", "__and__", "__rand__"), ("^", "__xor__", "__rxor__"),
  ("+", "__add__", "__radd__"), ("-", "__sub__", "__rsub__"), ("*", "__mul__", "__rmul__"),
  ("//", "__floordiv__", "__rfloordiv__"), ("/", "__truediv__", "__rtruediv__"),
  ("%", "__mod__", "__rmod__"), ("@", "__matmul__", "__rmatmul__"),
  ("**", "__pow__", "__rpow__"), ("<<", "__lshift__", "__rlshift__"),
  (">>", "__rshift__", "__rrshift__")]

def isTyped : Value → Bool
  | .cls _ | .form _ => true
  | _ => false

/-- One part of a text with marks for values: a text, or the settings under which a value is
written, which may be the entry under a key. -/
inductive Mark where
  | plain (content : String)
  | value (key : Option String) (settings : Layout.Settings) (kind : Char)

/-- The key in parentheses at the beginning of a mark. -/
def takeKey : List Char → Except Raised (Option String × List Char)
  | '(' :: rest =>
    let key := rest.takeWhile (· != ')')
    if key.length < rest.length then
      .ok (some (String.ofList key), rest.drop (key.length + 1))
    else .error (.user .valueFault "incomplete format key")
  | rest => .ok (none, rest)

def isFlag (c : Char) : Bool := ['-', '+', ' ', '0', '#'].contains c

/-- A mark after its sign, at some place of a text, and what follows it. -/
def takeMark (place : Nat) (chars : List Char) : Except Raised (Mark × List Char) := do
  let (key, afterKey) ← takeKey chars
  let flags := afterKey.takeWhile isFlag
  let afterFlags := afterKey.dropWhile isFlag
  let width := Layout.numberOf (afterFlags.takeWhile Magnitude.isDigit)
  let (precision, rest) :=
    match afterFlags.dropWhile Magnitude.isDigit with
    | '.' :: more =>
      (some (Layout.numberOf (more.takeWhile Magnitude.isDigit)), more.dropWhile Magnitude.isDigit)
    | more => (none, more)
  match rest with
  | [] => throw (.user .valueFault "incomplete format")
  | kind :: after =>
    if kind = '%' then return (.plain "%", after)
    else if ['s', 'r', 'a', 'd', 'i', 'u', 'x', 'X', 'o', 'c', 'f', 'F'].contains kind then
      let alignment : Char :=
        if flags.contains '-' then '<' else if flags.contains '0' && kind != 's' then '=' else '>'
      let filler : Char := if alignment = '=' then '0' else ' '
      return (.value key ⟨filler, some alignment, flags.contains '+', width, precision, none⟩ kind,
        after)
    else
      throw (.user .valueFault ("unsupported format character '" ++ String.ofList [kind] ++
        "' (0x" ++ String.ofList (Layout.digitsIn 16 kind.toNat) ++ ") at index " ++
        toString (place + (chars.length - rest.length) + 1)))

/-- The parts of a text with marks. Each step takes a character at least. -/
def marks (place : Nat) : Nat → List Char → Except Raised (List Mark)
  | _, [] => .ok []
  | 0, _ => .ok []
  | steps + 1, '%' :: rest => do
    let (mark, after) ← takeMark place rest
    return mark :: (← marks (place + 1 + (rest.length - after.length)) steps after)
  | steps + 1, c :: rest => do
    return .plain (String.ofList [c]) :: (← marks (place + 1) steps rest)

def escapedText (shown : String) : String :=
  String.ofList (shown.toList.flatMap fun c =>
    if c.toNat < 128 then [c] else Quoted.escapeCode c.toNat)

/-- The text of a value as a text of its own, as it is written, or that in ASCII. -/
def convertedText (world : World) (caller : Caller) (kind : Char) (value : Value) : Run String :=
  match kind with
  | 's' => world.plainText caller value
  | 'a' => do return escapedText (← world.writtenText caller value)
  | _ => world.writtenText caller value

/-- The whole number that a number is without its fraction. -/
def truncated? (value : Value) : Option Int :=
  match value.whole?, value.real? with
  | some number, _ => some number
  | none, some number =>
    match Magnitude.ofBits number.toBits.toNat with
    | .finite mantissa exponent =>
      if 0 ≤ exponent then some (mantissa * Nat.shiftLeft 1 exponent.toNat)
      else some (Int.tdiv mantissa (Nat.shiftLeft 1 (-exponent).toNat))
    | .infinite _ => none
  | none, none => none

/-- The digits of a machine number with a fixed number of them after the point. -/
def fixedDigits (number : Float) (precision : Nat) : List Char :=
  match Magnitude.ofBits number.toBits.toNat with
  | .finite mantissa exponent =>
    let (numerator, denominator) := Digits.quotient mantissa.natAbs exponent
    let digits := (toString (Digits.scaled numerator denominator precision)).toList
    let padded := Digits.zeros (precision + 1 - digits.length) ++ digits
    let whole := padded.take (padded.length - precision)
    if precision = 0 then whole else whole ++ '.' :: padded.drop whole.length
  | .infinite _ => "inf".toList

/-- The text of a value under a mark. -/
def markedText (world : World) (caller : Caller) (settings : Layout.Settings) (kind : Char)
    (value : Value) : Run String := do
  if ['s', 'r', 'a'].contains kind then
    let shown := (← convertedText world caller kind value).toList
    return Layout.filled settings '>' [] ((settings.precision.map shown.take).getD shown)
  else if kind = 'f' || kind = 'F' then
    match value.real? with
    | some number =>
      let sign : List Char :=
        if number < 0.0 then ['-'] else if settings.signs then ['+'] else []
      return Layout.filled settings '>' sign (fixedDigits number (settings.precision.getD 6))
    | none => Run.fail (.user .typeFault ("must be real number, not " ++ world.ownerName value))
  else
    let kind := if kind = 'i' || kind = 'u' then 'd' else kind
    match truncated? value with
    | some number =>
      return (Layout.ofNumber? { settings with kind := some kind } number).getD ""
    | none =>
      Run.fail (.user .typeFault ("%" ++ String.ofList [kind] ++
        " format: a real number is required, not " ++ world.ownerName value))

/-- Puts values into the marks of a text. -/
def filled (world : World) (caller : Caller) (entries : List (Value × Value)) :
    List Mark → List Value → Run (String × List Value)
  | [], values => pure ("", values)
  | .plain content :: rest, values => do
    let (others, left) ← filled world caller entries rest values
    return (content ++ others, left)
  | .value (some key) settings kind :: rest, _ =>
    match entries.find? fun entry => entry.1.equal (.text key) with
    | some entry => do
      let shown ← markedText world caller settings kind entry.2
      let (others, left) ← filled world caller entries rest []
      return (shown ++ others, left)
    | none => Run.fail (.noKey (Quoted.quote key))
  | .value none _ _ :: _, [] =>
    Run.fail (.user .typeFault "not enough arguments for format string")
  | .value none settings kind :: rest, value :: values => do
    let shown ← markedText world caller settings kind value
    let (others, left) ← filled world caller entries rest values
    return (shown ++ others, left)

/-- A text with marks and the values for them. -/
def format (world : World) (caller : Caller) (content : String) (given : Value) : Run Value := do
  let marks ← Run.ofExcept (marks 0 (content.length + 1) content.toList)
  let (values, entries, mayBeLeft) : List Value × List (Value × Value) × Bool :=
    match given.payload with
    | .tuple values => (values, [], false)
    | .dict entries => ([given], entries, true)
    | _ => ([given], [], false)
  let (shown, left) ← filled world caller entries marks values
  if left.isEmpty || mayBeLeft then return .text shown
  else Run.fail (.user .typeFault "not all arguments converted during string formatting")

/-- What an operator gives for values of no class of the world. -/
def native (world : World) (caller : Caller) (sign : String) (left right : Value) : Run Value :=
  if sign = "|" && (isTyped left || isTyped right) then
    Value.ofForm <$> world.barForm caller left.toForm right.toForm
  else
    match sign, left.payload with
    | "%", .text content => format world caller content right
    | _, _ => Run.ofExcept (Arithmetic.binary world sign left right)

def apply (world : World) (caller : Caller) (sign : String) (left right : Value) : Run Value :=
  match methods.lookup sign with
  | none => native world caller sign left right
  | some (method, reflected) =>
    match world.hook? left method, world.hook? right reflected with
    | some answer, _ => caller answer [right] []
    | none, some answer => caller answer [left] []
    | none, none => native world caller sign left right

/-- The methods by which a class says what a sign before a value does. -/
def unaryMethods : List (String × String) :=
  [("-", "__neg__"), ("+", "__pos__"), ("~", "__invert__")]

def unary (world : World) (caller : Caller) (sign : String) (operand : Value) : Run Value :=
  match (unaryMethods.lookup sign).bind (world.hook? operand) with
  | some answer => caller answer [] []
  | none => Run.ofExcept (Arithmetic.unary world sign operand)

/-- Whether some of some values is one or equal with a value. -/
def isAmong (world : World) (caller : Caller) (value : Value) : List Value → Run Bool
  | [] => pure false
  | item :: rest => do
    if ← world.isSame caller item value then return true else isAmong world caller value rest

/-- Whether a text begins with another one at some place. -/
def occurs (part : List Char) : List Char → Bool
  | [] => part.isEmpty
  | c :: rest => part.isPrefixOf (c :: rest) || occurs part rest

/-- Whether a value contains another one. -/
def contains (world : World) (caller : Caller) (container value : Value) : Run Bool :=
  match world.hook? container "__contains__" with
  | some answer => do world.truth caller (← caller answer [value] [])
  | none =>
    match container.payload, value.payload with
    | .text whole, .text part => pure (occurs part.toList whole.toList)
    | .text _, _ => Run.fail (.notContained (world.ownerName value))
    | .set _, _ | .frozenset _, _ | .dict _, _ => do
      Run.ofExcept (world.checkKey value)
      isAmong world caller value (← world.elements caller container)
    | _, _ => do isAmong world caller value (← world.elements caller container)

def compare (world : World) (caller : Caller) (sign : String) (left right : Value) : Run Bool :=
  match sign with
  | "==" => world.equals caller left right
  | "!=" => return !(← world.equals caller left right)
  | "is" => pure (left.isOne right)
  | "is not" => pure !(left.isOne right)
  | ">" => world.isGreater caller World.nestingDepth left right
  | "<" => world.isGreater caller World.nestingDepth right left
  | ">=" => do
    return left.equal right || (← world.isGreater caller World.nestingDepth left right)
  | "<=" => do
    return left.equal right || (← world.isGreater caller World.nestingDepth right left)
  | "in" => contains world caller right left
  | _ => return !(← contains world caller right left)

/-- The places between two bounds, in steps that may go backwards. -/
def places (length : Nat) (start stop : Option Int) (step : Int) : List Nat :=
  let size : Int := length
  let clamp (least most place : Int) : Int :=
    let moved := if place < 0 then place + size else place
    if moved < least then least else if most < moved then most else moved
  if 0 < step then
    let first := (start.map (clamp 0 size)).getD 0
    let last := (stop.map (clamp 0 size)).getD size
    (List.range (last - first).toNat).filterMap fun (offset : Nat) =>
      if (offset : Int) % step = 0 then some (first + offset).toNat else none
  else
    let first := (start.map (clamp (-1) (size - 1))).getD (size - 1)
    let last := (stop.map (clamp (-1) (size - 1))).getD (-1)
    (List.range (first - last).toNat).filterMap fun (offset : Nat) =>
      if (offset : Int) % (-step) = 0 then some (first - offset).toNat else none

/-- The bound of a slice that a value is; None is no bound. -/
def bound? (value : Value) : Option (Option Int) :=
  if value.isNone then some none else (value.whole?).map some

/-- The items of a sequence between bounds; none where it is no built-in sequence. -/
def sliced? (container start stop step : Value) : Option (Except Raised Value) := do
  let first ← bound? start
  let last ← bound? stop
  let stride ← (bound? step).map (·.getD 1)
  let chosen {α : Type} (items : List α) : List α :=
    (places items.length first last stride).filterMap fun place => items[place]?
  let sequence ←
    match container.payload with
    | .list items => some (Value.list (chosen items))
    | .tuple items => some (.tuple (chosen items))
    | .text content => some (.text (String.ofList (chosen content.toList)))
    | .octets content => some (.octets (chosen content))
    | .buffer content => some (.buffer (chosen content))
    | _ => none
  if stride = 0 then some (.error (.user .valueFault "slice step cannot be zero"))
  else some (.ok sequence)

/-- Bounds as a value of their own. -/
def slice (world : World) (start stop step : Value) : Value :=
  .foreign (.other "" "slice")
    (Display.enclosed "slice(" ")" ([start, stop, step].map (Value.display world)))

end MemberThunks.Annotation.Operation
