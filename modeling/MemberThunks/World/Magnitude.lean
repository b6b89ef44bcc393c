set_option autoImplicit false

/- Exact magnitudes. A float is a text, and the number it stands for is the nearest of
   those that a machine word can hold; it is compared with whole numbers exactly. -/
namespace MemberThunks

/-- A number as a multiple of a power of two, or beyond all numbers. -/
inductive Magnitude where
  | finite (mantissa : Int) (exponent : Int)
  | infinite (negative : Bool)
deriving DecidableEq

namespace Magnitude

def ofInt (number : Int) : Magnitude := finite number 0

/-- Two mantissas over one exponent, the smaller of the two. -/
def aligned (left right : Int × Int) : Int × Int :=
  let least := if left.2 ≤ right.2 then left.2 else right.2
  (left.1 * (Nat.shiftLeft 1 (left.2 - least).toNat : Int),
    right.1 * (Nat.shiftLeft 1 (right.2 - least).toNat : Int))

def equal : Magnitude → Magnitude → Bool
  | finite left power, finite right power' =>
    let both := aligned (left, power) (right, power')
    both.1 == both.2
  | infinite left, infinite right => left == right
  | _, _ => false

def less : Magnitude → Magnitude → Bool
  | finite left power, finite right power' =>
    let both := aligned (left, power) (right, power')
    both.1 < both.2
  | infinite negative, infinite other => negative && !other
  | infinite negative, finite _ _ => negative
  | finite _ _, infinite negative => !negative

/-- The number that the bits of a machine float stand for. -/
def ofBits (bits : Nat) : Magnitude :=
  let negative := bits / 9223372036854775808 % 2 = 1
  let power := bits / 4503599627370496 % 2048
  let fraction := bits % 4503599627370496
  let sign : Int := if negative then -1 else 1
  if power = 2047 then infinite negative
  else if power = 0 then finite (sign * fraction) (-1074)
  else finite (sign * (fraction + 4503599627370496)) ((power : Int) - 1075)

def isDigit (c : Char) : Bool := 48 ≤ c.toNat && c.toNat ≤ 57

def number (digits : List Char) : Nat :=
  digits.foldl (fun sum c => sum * 10 + (c.toNat - 48)) 0

/-- The power of ten after the letter for it. -/
def powerOf : List Char → Int
  | 'e' :: '-' :: digits => -(number digits : Int)
  | 'e' :: '+' :: digits => number digits
  | 'e' :: digits => number digits
  | _ => 0

/-- The machine number that is nearest to whole digits, a fraction and a power of ten. -/
def nearest (whole fraction : List Char) (power : Int) : Float :=
  let shift := power - fraction.length
  Float.ofScientific (number (whole ++ fraction)) (shift < 0) shift.natAbs

def floatOfChars (chars : List Char) : Float :=
  if chars = ['i', 'n', 'f'] then 1.0 / 0.0
  else
    let whole := chars.takeWhile isDigit
    match chars.dropWhile isDigit with
    | '.' :: rest => nearest whole (rest.takeWhile isDigit) (powerOf (rest.dropWhile isDigit))
    | rest => nearest whole [] (powerOf rest)

/-- The machine number that the text of a float stands for. -/
def floatOf (digits : String) : Float :=
  match digits.toList with
  | '-' :: rest => -floatOfChars rest
  | chars => floatOfChars chars

/-- The number that the text of a float stands for. -/
def ofDigits (digits : String) : Magnitude := ofBits (floatOf digits).toBits.toNat

def isZero (magnitude : Magnitude) : Bool := magnitude.equal (ofInt 0)

end Magnitude

end MemberThunks
