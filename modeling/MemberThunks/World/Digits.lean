import MemberThunks.World.Magnitude

set_option autoImplicit false

/- The text of a machine number: the fewest decimal digits to which no other machine number
   is nearer, and of several such the nearest. A number that is very large or very small
   is written with a power of ten. -/
namespace MemberThunks.Digits

/-- A quotient rounded to a whole number, a tie to the even one. -/
def roundedQuotient (numerator denominator : Nat) : Nat :=
  let whole := numerator / denominator
  let rest := 2 * (numerator % denominator)
  if rest < denominator || (rest == denominator && whole % 2 == 0) then whole else whole + 1

def powerOfTen : Nat → Nat
  | 0 => 1
  | power + 1 => 10 * powerOfTen power

/-- A multiple of a power of two as a quotient of whole numbers. -/
def quotient (mantissa : Nat) (exponent : Int) : Nat × Nat :=
  if 0 ≤ exponent then (Nat.shiftLeft mantissa exponent.toNat, 1)
  else (mantissa, Nat.shiftLeft 1 (-exponent).toNat)

def digitCount (number : Nat) : Nat := (toString number).length

/-- How many digits of a positive quotient stand before its point; fewer than none where
it begins with zeros. -/
def pointOf (numerator denominator : Nat) : Int :=
  if denominator ≤ numerator then digitCount (numerator / denominator)
  else 1 - (digitCount ((denominator - 1) / numerator) : Int)

/-- A positive quotient times a power of ten, rounded. -/
def scaled (numerator denominator : Nat) (power : Int) : Nat :=
  if 0 ≤ power then roundedQuotient (numerator * powerOfTen power.toNat) denominator
  else roundedQuotient numerator (denominator * powerOfTen (-power).toNat)

/-- The number that is nearest to some digits times a power of ten. -/
def numberOf (digits : Nat) (power : Int) : Float :=
  Float.ofScientific digits (power < 0) power.natAbs

/-- The fewest digits that stand for a positive number, and how many of them stand before
the point. Above a power of two numbers lie farther apart than below it, so the next digits
may do where the nearest do not. -/
def shortest (number : Float) (numerator denominator : Nat) : Nat × Int :=
  let point := pointOf numerator denominator
  let tries := (List.range 17).flatMap fun (fewer : Nat) =>
    let power := (fewer : Int) + 1 - point
    let digits := scaled numerator denominator power
    [(digits, power), (digits + 1, power)]
  match tries.find? fun made => (numberOf made.1 (-made.2)).toBits == number.toBits with
  | some (digits, power) => (digits, (digitCount digits : Int) - power)
  | none => (scaled numerator denominator (17 - point), point)

/-- Digits without the zeros at their end. -/
def significant (digits : List Char) : List Char :=
  ((digits.reverse.dropWhile (· == '0')).reverse)

def zeros (count : Nat) : List Char := List.replicate count '0'

/-- A power of ten with a sign and two digits at least. -/
def powerText (power : Int) : List Char :=
  let digits := (toString power.natAbs).toList
  (if power < 0 then '-' else '+') :: zeros (2 - digits.length) ++ digits

/-- Digits with the point after some of them. -/
def written (digits : List Char) (point : Int) : List Char :=
  if point ≤ -4 || 16 < point then
    let (first, rest) := (digits.take 1, digits.drop 1)
    first ++ (if rest.isEmpty then [] else '.' :: rest) ++ 'e' :: powerText (point - 1)
  else if point ≤ 0 then '0' :: '.' :: zeros (-point).toNat ++ digits
  else
    let whole := digits.take point.toNat
    let fraction := digits.drop point.toNat
    whole ++ zeros (point.toNat - digits.length) ++ '.' ::
      (if fraction.isEmpty then ['0'] else fraction)

def positive (number : Float) (mantissa : Nat) (exponent : Int) : List Char :=
  if mantissa = 0 then "0.0".toList
  else
    let (numerator, denominator) := quotient mantissa exponent
    let (digits, point) := shortest number numerator denominator
    written (significant (toString digits).toList) point

/-- The text of a number that is one. -/
def text (number : Float) : String :=
  let bits := number.toBits.toNat
  let negative := 9223372036854775808 ≤ bits
  let chars :=
    match Magnitude.ofBits bits with
    | .finite mantissa exponent =>
      positive (if negative then -number else number) mantissa.natAbs exponent
    | .infinite _ => "inf".toList
  String.ofList (if negative then '-' :: chars else chars)

end MemberThunks.Digits
