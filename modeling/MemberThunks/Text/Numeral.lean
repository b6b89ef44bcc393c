import MemberThunks.Text.Character

set_option autoImplicit false

/- Texts that stand for numbers. Blanks around a number do not count, a sign may stand in
   front, and one underscore may stand between two digits. The decimal digits of every
   script count as digits. -/
namespace MemberThunks.Numeral

/-- Whether a character is a decimal digit, which names may go on with. -/
def isDecimal (c : Char) : Bool := Character.isDigit c && Character.continuesName c

/-- The value of a decimal digit. The digits of a script follow each other from zero on. -/
def decimalValue (c : Char) : Nat :=
  let before := (List.range 60).takeWhile fun back => isDecimal (Char.ofNat (c.toNat - 1 - back))
  before.length % 10

/-- The value of a digit, for which letters stand above nine. -/
def digitValue? (c : Char) : Option Nat :=
  let code := c.toNat
  if 48 ≤ code && code ≤ 57 then some (code - 48)
  else if 97 ≤ code && code ≤ 122 then some (code - 87)
  else if 65 ≤ code && code ≤ 90 then some (code - 55)
  else if 128 ≤ code && isDecimal c then some (decimalValue c)
  else none

def trimmed (chars : List Char) : List Char :=
  ((chars.dropWhile Character.isBlank).reverse.dropWhile Character.isBlank).reverse

/-- The sign in front of a number, and the rest. -/
def signed : List Char → Bool × List Char
  | '-' :: rest => (true, rest)
  | '+' :: rest => (false, rest)
  | chars => (false, chars)

/-- Reads one more character of a number: whether the last one was a digit, and the number so
far. -/
def step (base : Nat) (state : Bool × Nat) (c : Char) : Option (Bool × Nat) :=
  if c = '_' then if state.1 then some (false, state.2) else none
  else
    match digitValue? c with
    | some digit => if digit < base then some (true, state.2 * base + digit) else none
    | none => none

/-- The number that digits to a base stand for. -/
def natural? (base : Nat) (chars : List Char) : Option Nat :=
  match chars.foldlM (step base) (false, 0) with
  | some (true, number) => some number
  | _ => none

/-- The base that two characters in front of a number tell. -/
def markedBase? : Char → Option Nat
  | 'x' | 'X' => some 16
  | 'o' | 'O' => some 8
  | 'b' | 'B' => some 2
  | _ => none

/-- The base in which digits are written and the digits without what tells it. Where no base
is asked for they tell it themselves. -/
def based? (base : Nat) (chars : List Char) : Option (Nat × List Char) :=
  match chars with
  | '0' :: mark :: rest =>
    match markedBase? mark with
    | some told =>
      if base = 0 || base = told then
        some (told, if rest.head? = some '_' then rest.drop 1 else rest)
      else some (base, chars)
    | none =>
      if base != 0 then some (base, chars)
      else if (mark :: rest).all fun c => c = '0' || c = '_' then some (10, chars)
      else none
  | _ => some (if base = 0 then 10 else base, chars)

/-- The whole number that a text stands for. -/
def whole? (base : Nat) (content : String) : Option Int := do
  let (negative, rest) := signed (trimmed content.toList)
  let (found, digits) ← based? base rest
  let number ← natural? found digits
  return if negative then -(number : Int) else number

/-- A number with a point: the digits in front of it, those behind it and the power of ten. -/
structure Pointed where
  whole : List Char
  fraction : List Char
  power : Int

/-- Decimal digits as those that numbers are written with. -/
def plainDigit (c : Char) : Char :=
  if 128 ≤ c.toNat && isDecimal c then Char.ofNat (48 + decimalValue c) else c

def isPlain (c : Char) : Bool := 48 ≤ c.toNat && c.toNat ≤ 57

/-- A text without the underscores that stand between digits; none where one stands elsewhere. -/
def joined? : Bool → List Char → Option (List Char)
  | _, [] => some []
  | afterDigit, '_' :: c :: rest =>
    if afterDigit && isPlain c then (joined? true rest).map (c :: ·) else none
  | _, '_' :: [] => none
  | _, c :: rest => (joined? (isPlain c) rest).map (c :: ·)

def power? : List Char → Option Int
  | [] => some 0
  | e :: rest =>
    if e = 'e' || e = 'E' then
      let (negative, digits) := signed rest
      (natural? 10 digits).map fun (number : Nat) => if negative then -(number : Int) else number
    else none

def pointed? (chars : List Char) : Option Pointed := do
  let whole := chars.takeWhile isPlain
  let (fraction, rest) :=
    match chars.dropWhile isPlain with
    | '.' :: more => (more.takeWhile isPlain, more.dropWhile isPlain)
    | more => ([], more)
  if whole.isEmpty && fraction.isEmpty then none
  else return ⟨whole, fraction, ← power? rest⟩

/-- What a text stands for that is no whole number. -/
inductive Real where
  | pointed (negative : Bool) (number : Pointed)
  | infinite (negative : Bool)
  | undefined

def lower (c : Char) : Char := if 65 ≤ c.toNat && c.toNat ≤ 90 then Char.ofNat (c.toNat + 32) else c

def realOfChars? (chars : List Char) : Option Real := do
  let (negative, rest) := signed (← joined? false (chars.map plainDigit))
  let word := String.ofList (rest.map lower)
  if word = "inf" || word = "infinity" then return .infinite negative
  else if word = "nan" then return .undefined
  else return .pointed negative (← pointed? rest)

/-- The number with a point that a text stands for. -/
def real? (content : String) : Option Real := realOfChars? (trimmed content.toList)

end MemberThunks.Numeral
