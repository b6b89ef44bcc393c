import MemberThunks.World.Access

set_option autoImplicit false

/- What objects say of themselves. The class of an object may say what its text is, alone or
   laid out; the world remembers what it has said, so that the text of anything that holds
   the object can be told. -/
namespace MemberThunks

namespace World

/-- Whether the class of an object says what its text is. -/
def speaks (world : World) (value : Value) : Bool :=
  value.address?.isSome && (world.hook? value "__repr__").isSome

mutual

/-- The objects in a value that say what their texts are, in the order in which they show. -/
def speakers (world : World) : Value → List Value
  | .list items | .tuple items | .set items | .frozenset items => speakersAmong world items
  | .dict entries => speakersInEntries world entries
  | .object address owner =>
    if world.speaks (.object address owner) then [.object address owner] else []
  | .wrapped address owner content =>
    if world.speaks (.wrapped address owner content) then [.wrapped address owner content]
    else speakers world content
  | .enumMember address owner label content =>
    if world.speaks (.enumMember address owner label content) then
      [.enumMember address owner label content]
    else speakers world content
  | .bound receiver _ => speakers world receiver
  | .form written => speakersInForm world written
  | _ => []
termination_by structural value => value

def speakersAmong (world : World) : List Value → List Value
  | [] => []
  | value :: rest => speakers world value ++ speakersAmong world rest
termination_by structural values => values

def speakersInEntries (world : World) : List (Value × Value) → List Value
  | [] => []
  | (key, value) :: rest =>
    speakers world key ++ speakers world value ++ speakersInEntries world rest
termination_by structural entries => entries

def speakersInForm (world : World) : TypeForm → List Value
  | .union _ members => speakersInForms world members
  | .generic _ _ arguments => speakersInForms world arguments
  | .callable parameters result =>
    speakersInForms world parameters ++ speakersInForm world result
  | .annotated base metadata => speakersInForm world base ++ speakersAmong world metadata
  | .literal values _ => speakersAmong world values
  | .classVar base | .final base => speakersInForm world base
  | .value content => speakers world content
  | _ => []
termination_by structural form => form

def speakersInForms (world : World) : List TypeForm → List Value
  | [] => []
  | form :: rest => speakersInForm world form ++ speakersInForms world rest
termination_by structural forms => forms

end

/-- What a value gives for a text it is asked for. -/
def textGiven (world : World) (operation : String) (given : Value) : Except Raised String :=
  match given.payload with
  | .text content => .ok content
  | _ => .error (.notText operation (world.ownerName given))

/-- The world once an object has said what its text is. -/
def hearOne (world : World) (call : Caller) (speaker : Value) : Run World :=
  match speaker.address?, world.hook? speaker "__repr__" with
  | some address, some answer => do
    let content ← Run.ofExcept (world.textGiven "__repr__" (← call answer [] []))
    return { world with told := world.told.put address content }
  | _, _ => pure world

/-- The world once all objects in some values have said what their texts are. -/
def hear (world : World) (call : Caller) (values : List Value) : Run World :=
  (world.speakersAmong values).foldlM (fun heard speaker => heard.hearOne call speaker) world

/-- Whether some object in some values has yet to say what its text is. -/
def isUnheard (world : World) (values : List Value) : Bool :=
  (world.speakersAmong values).any fun speaker =>
    speaker.address?.any fun address => (world.told.lookup address).isNone

/-- The text of a value as it is written. -/
def writtenText (world : World) (call : Caller) (value : Value) : Run String := do
  return value.display (← world.hear call [value])

/-- The text that a built-in value is as a text. -/
def nativePlain? (world : World) (value : Value) : Option String :=
  match value with
  | .enumMember _ (.enumeration _ false) label _ =>
    some (world.bareName value.typeOf ++ "." ++ label)
  | .enumMember _ _ _ content =>
    match content with
    | .text content => some content
    | other => some (other.display world)
  | other =>
    match other.payload with
    | .text content => some content
    | _ => none

/-- The text of a value as a text of its own: a text stands for itself. -/
def plainText (world : World) (call : Caller) (value : Value) : Run String :=
  match world.hook? value "__str__" with
  | some answer => do Run.ofExcept (world.textGiven "__str__" (← call answer [] []))
  | none =>
    match world.nativePlain? value with
    | some content => pure content
    | none => world.writtenText call value

end World

/- Laying out texts in fields of some width. -/
namespace Layout

structure Settings where
  filler : Char
  /-- Where the text stands in its field, if that is said. -/
  alignment : Option Char
  signs : Bool
  width : Nat
  precision : Option Nat
  kind : Option Char

def isAlignment (c : Char) : Bool := ['<', '>', '^', '='].contains c

def numberOf (digits : List Char) : Nat :=
  digits.foldl (fun sum c => sum * 10 + (c.toNat - 48)) 0

def takeAlignment : List Char → Char × Option Char × List Char
  | filler :: c :: rest =>
    if isAlignment c then (filler, some c, rest)
    else if isAlignment filler then (' ', some filler, c :: rest)
    else (' ', none, filler :: c :: rest)
  | [c] => if isAlignment c then (' ', some c, []) else (' ', none, [c])
  | [] => (' ', none, [])

/-- The settings that a layout stands for, if it is one. -/
def settings? (layout : String) : Option Settings := do
  let (filler, alignment, rest) := takeAlignment layout.toList
  let (signs, rest) := if rest.head? = some '+' then (true, rest.drop 1) else (false, rest)
  let zero := rest.head? = some '0'
  let width := rest.takeWhile Magnitude.isDigit
  let (precision, rest) :=
    match rest.dropWhile Magnitude.isDigit with
    | '.' :: more => (some (numberOf (more.takeWhile Magnitude.isDigit)), more.dropWhile Magnitude.isDigit)
    | more => (none, more)
  match rest with
  | [] =>
    return ⟨if zero && alignment.isNone then '0' else filler,
      if zero then alignment.or (some '=') else alignment, signs, numberOf width, precision, none⟩
  | [kind] =>
    return ⟨if zero && alignment.isNone then '0' else filler,
      if zero then alignment.or (some '=') else alignment, signs, numberOf width, precision,
      some kind⟩
  | _ => none

def filled (settings : Settings) (standard : Char) (sign digits : List Char) : String :=
  let missing := settings.width - (sign.length + digits.length)
  let padding (count : Nat) : List Char := List.replicate count settings.filler
  String.ofList <|
    match settings.alignment.getD standard with
    | '<' => sign ++ digits ++ padding missing
    | '^' => padding (missing / 2) ++ sign ++ digits ++ padding (missing - missing / 2)
    | '=' => sign ++ padding missing ++ digits
    | _ => padding missing ++ sign ++ digits

/-- The digits of a number to a base. -/
def digitsIn (base number : Nat) : List Char :=
  (Nat.toDigits base number)

def ofNumber? (settings : Settings) (number : Int) : Option String :=
  let sign : List Char := if number < 0 then ['-'] else if settings.signs then ['+'] else []
  let shown (digits : List Char) : Option String := some (filled settings '>' sign digits)
  match settings.kind with
  | none | some 'd' | some 'n' => shown (digitsIn 10 number.natAbs)
  | some 'x' => shown (digitsIn 16 number.natAbs)
  | some 'X' => shown ((digitsIn 16 number.natAbs).map Char.toUpper)
  | some 'o' => shown (digitsIn 8 number.natAbs)
  | some 'b' => shown (digitsIn 2 number.natAbs)
  | some 'c' => shown [Char.ofNat number.natAbs]
  | _ => none

def ofText? (settings : Settings) (content : String) : Option String :=
  match settings.kind with
  | none | some 's' =>
    let chars := content.toList
    some (filled settings '<' [] ((settings.precision.map chars.take).getD chars))
  | _ => none

end Layout

namespace World

/-- A text or a number laid out. -/
def laidOut (world : World) (value : Value) (layout : String) : Except Raised String :=
  let unknown : Raised := .badLayout layout (world.ownerName value)
  match Layout.settings? layout, value.payload with
  | some settings, .text content => (Layout.ofText? settings content).elim (.error unknown) .ok
  | some settings, .int number => (Layout.ofNumber? settings number).elim (.error unknown) .ok
  | some settings, .bool truth =>
    (Layout.ofNumber? settings (if truth then 1 else 0)).elim (.error unknown) .ok
  | _, _ => .error unknown

/-- The text of a value in a field. -/
def formatted (world : World) (call : Caller) (value : Value) (layout : String) : Run String :=
  match world.hook? value "__format__" with
  | some answer => do
    match (← call answer [.text layout] []) with
    | given =>
      match given.payload with
      | .text content => return content
      | _ => Run.fail (.badFormat (world.ownerName given))
  | none =>
    if layout.isEmpty then world.plainText call value
    else Run.ofExcept (world.laidOut value layout)

end World

end MemberThunks
