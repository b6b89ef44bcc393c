import MemberThunks.TypeForm.Equality
import MemberThunks.World.SetOrder
import MemberThunks.World.Digits
import MemberThunks.World.Raised
import MemberThunks.World.Reserved

set_option autoImplicit false

/- Operators between built-in values. Whole numbers are computed exactly and others as
   machine numbers; truth counts as a number. Sequences are joined and repeated, sets
   compared and dictionaries merged. A value of a class of the world goes by what it acts
   as. -/
namespace MemberThunks

namespace Value

/-- The whole number that a value is. Truth counts as a number. -/
def whole? (value : Value) : Option Int :=
  match value.payload with
  | .int number => some number
  | .bool truth => some (if truth then 1 else 0)
  | _ => Option.none

def truth? (value : Value) : Option Bool :=
  match value.payload with
  | .bool truth => some truth
  | _ => Option.none

/-- The machine number that a value is. -/
def real? (value : Value) : Option Float :=
  match value.payload, value.whole? with
  | _, some number => some (Float.ofInt number)
  | .float digits, _ => some (Magnitude.floatOf digits)
  | .nan _, _ => some (0.0 / 0.0)
  | _, _ => Option.none

/-- The two parts of the complex number that a value is. -/
def parts? (value : Value) : Option (Float × Float) :=
  match value.payload, value.real? with
  | .complex real imaginary, _ => some (Magnitude.floatOf real, Magnitude.floatOf imaginary)
  | _, some number => some (number, 0.0)
  | _, Option.none => Option.none

/-- A machine number as a value. All that is computed and is no number has one mark. -/
def ofFloat (number : Float) : Value :=
  if number.isNaN then .nan 0 else .float (Digits.text number)

def partText (number : Float) : String := if number.isNaN then "nan" else Digits.text number

def ofParts (real imaginary : Float) : Value := .complex (partText real) (partText imaginary)

end Value

namespace Arithmetic

/-- What an operator gives; none where it does not take its operands. -/
abbrev Outcome := Option (Except Raised Value)

def divided (text : String) : Outcome := some (.error (.user (.other "ZeroDivisionError") text))

/-- Combines whole numbers by their digits in base two, of which negative ones have
infinitely many. -/
def bitwise (combine : Nat → Nat → Nat) (left right : Int) : Int :=
  let size := Nat.shiftLeft 1 (left.natAbs.log2 + right.natAbs.log2 + 2)
  let digits (number : Int) : Nat := (number % (size : Int)).toNat
  let combined := combine (digits left) (digits right)
  if 2 * combined < size then combined else (combined : Int) - size

def shifted (left : Int) (right : Int) (toLeft : Bool) : Outcome :=
  if right < 0 then some (.error (.user .valueFault "negative shift count"))
  else
    let factor : Int := Nat.shiftLeft 1 right.toNat
    some (.ok (.int (if toLeft then left * factor else Int.fdiv left factor)))

def power (base exponent : Int) : Outcome :=
  if 0 ≤ exponent then some (.ok (.int (Int.pow base exponent.toNat)))
  else if base = 0 then divided "0.0 cannot be raised to a negative power"
  else
    some (.ok (Value.ofFloat (1.0 / Float.ofInt (Int.pow base exponent.natAbs))))

def ofWhole (sign : String) (left right : Int) : Outcome :=
  match sign with
  | "+" => some (.ok (.int (left + right)))
  | "-" => some (.ok (.int (left - right)))
  | "*" => some (.ok (.int (left * right)))
  | "//" =>
    if right = 0 then divided "integer division or modulo by zero"
    else some (.ok (.int (Int.fdiv left right)))
  | "%" =>
    if right = 0 then divided "integer modulo by zero"
    else some (.ok (.int (Int.fmod left right)))
  | "/" =>
    if right = 0 then divided "division by zero"
    else some (.ok (Value.ofFloat (Float.ofInt left / Float.ofInt right)))
  | "**" => power left right
  | "<<" => shifted left right true
  | ">>" => shifted left right false
  | "&" => some (.ok (.int (bitwise Nat.land left right)))
  | "|" => some (.ok (.int (bitwise Nat.lor left right)))
  | "^" => some (.ok (.int (bitwise Nat.xor left right)))
  | _ => none

def ofTruth (sign : String) (left right : Bool) : Outcome :=
  match sign with
  | "&" => some (.ok (.bool (left && right)))
  | "|" => some (.ok (.bool (left || right)))
  | "^" => some (.ok (.bool (left != right)))
  | _ => none

/-- A whole multiple of a power of two as a machine number. -/
def scaledFloat (mantissa exponent : Int) : Float :=
  if 0 ≤ exponent then Float.ofInt (mantissa * Nat.shiftLeft 1 exponent.toNat)
  else Float.ofInt mantissa / Float.ofInt (Nat.shiftLeft 1 (-exponent).toNat)

/-- Division with a remainder, exact on the numbers that the operands stand for. -/
def floored (left right : Float) : Option (Float × Float) :=
  match Magnitude.ofBits left.toBits.toNat, Magnitude.ofBits right.toBits.toNat with
  | .finite first exponent, .finite second exponent' =>
    let (one, other) := Magnitude.aligned (first, exponent) (second, exponent')
    let least := if exponent ≤ exponent' then exponent else exponent'
    some (Float.ofInt (Int.fdiv one other), scaledFloat (Int.fmod one other) least)
  | _, _ => none

def ofReal (sign : String) (left right : Float) : Outcome :=
  match sign with
  | "+" => some (.ok (Value.ofFloat (left + right)))
  | "-" => some (.ok (Value.ofFloat (left - right)))
  | "*" => some (.ok (Value.ofFloat (left * right)))
  | "/" =>
    if right == 0.0 then divided "float division by zero"
    else some (.ok (Value.ofFloat (left / right)))
  | "//" =>
    if right == 0.0 then divided "float floor division by zero"
    else some (.ok (((floored left right).map fun both => Value.ofFloat both.1).getD (.nan 0)))
  | "%" =>
    if right == 0.0 then divided "float modulo"
    else some (.ok (((floored left right).map fun both => Value.ofFloat both.2).getD (.nan 0)))
  | "**" =>
    if left == 0.0 && right < 0.0 then divided "0.0 cannot be raised to a negative power"
    else some (.ok (Value.ofFloat (left.pow right)))
  | _ => none

def ofComplex (sign : String) (left right : Float × Float) : Outcome :=
  match sign with
  | "+" => some (.ok (Value.ofParts (left.1 + right.1) (left.2 + right.2)))
  | "-" => some (.ok (Value.ofParts (left.1 - right.1) (left.2 - right.2)))
  | "*" =>
    some (.ok (Value.ofParts (left.1 * right.1 - left.2 * right.2)
      (left.1 * right.2 + left.2 * right.1)))
  | "/" =>
    let size := right.1 * right.1 + right.2 * right.2
    if size == 0.0 then divided "complex division by zero"
    else
      some (.ok (Value.ofParts ((left.1 * right.1 + left.2 * right.2) / size)
        ((left.2 * right.1 - left.1 * right.2) / size)))
  | _ => none

def numbers (sign : String) (left right : Value) : Outcome :=
  match left.truth?, right.truth? with
  | some first, some second =>
    (ofTruth sign first second).or
      (ofWhole sign (if first then 1 else 0) (if second then 1 else 0))
  | _, _ =>
    match left.whole?, right.whole?, left.real?, right.real? with
    | some first, some second, _, _ => ofWhole sign first second
    | _, _, some first, some second => ofReal sign first second
    | _, _, _, _ => do ofComplex sign (← left.parts?) (← right.parts?)

/-- Several copies of a list, none where the number of them is negative. -/
def copies {α : Type} (items : List α) (count : Int) : List α :=
  (List.replicate count.toNat items).flatten

def repeated (sequence : Value) (count : Int) : Option Value :=
  match sequence.payload with
  | .text content => some (.text (String.ofList (copies content.toList count)))
  | .list items => some (.list (copies items count))
  | .tuple items => some (.tuple (copies items count))
  | .octets content => some (.octets (copies content count))
  | .buffer content => some (.buffer (copies content count))
  | _ => none

def isSequence (value : Value) : Bool := (repeated value 0).isSome

/-- A sequence times a whole number, on either side of the sign. -/
def multiplied (world : World) (left right : Value) : Outcome :=
  match left.whole?, right.whole? with
  | _, some count => (repeated left count).map .ok
  | some count, none => (repeated right count).map .ok
  | none, none =>
    if isSequence left then some (.error (.notRepeated (world.ownerName right)))
    else if isSequence right then some (.error (.notRepeated (world.ownerName left)))
    else none

/-- Two sequences of one kind after each other. -/
def joined (world : World) (left right : Value) : Outcome :=
  let given := world.ownerName right
  match left.payload, right.payload with
  | .text first, .text second => some (.ok (.text (first ++ second)))
  | .list first, .list second => some (.ok (.list (first ++ second)))
  | .tuple first, .tuple second => some (.ok (.tuple (first ++ second)))
  | .octets first, .octets second | .octets first, .buffer second =>
    some (.ok (.octets (first ++ second)))
  | .buffer first, .octets second | .buffer first, .buffer second =>
    some (.ok (.buffer (first ++ second)))
  | .text _, _ => some (.error (.notJoinable .str given))
  | .list _, _ => some (.error (.notJoinable .list given))
  | .tuple _, _ => some (.error (.notJoinable .tuple given))
  | .octets _, _ | .buffer _, _ => some (.error (.notConcatenated given (world.ownerName left)))
  | _, _ => none

def setItems? (value : Value) : Option (List Value) :=
  match value.payload with
  | .set items | .frozenset items => some items
  | _ => none

/-- What an operator makes of the items of two sets. -/
def combined (sign : String) (left right : List Value) : Option (List Value) :=
  let absent (known items : List Value) : List Value :=
    items.filter fun item => !Value.anyEqual known item
  match sign with
  | "|" => some (left ++ absent left right)
  | "&" => some (left.filter (Value.anyEqual right))
  | "-" => some (absent right left)
  | "^" => some (absent right left ++ absent left right)
  | _ => none

def collections (sign : String) (left right : Value) : Outcome :=
  match setItems? left, setItems? right, left.payload, right.payload with
  | some first, some second, .frozenset _, _ =>
    (combined sign first second).map fun items => .ok (.frozenset (Value.elementsOf items))
  | some first, some second, _, _ =>
    (combined sign first second).map fun items => .ok (.set (Value.elementsOf items))
  | _, _, .dict first, .dict second =>
    if sign = "|" then some (.ok (.dict (Value.distinctEntries (first ++ second)))) else none
  | _, _, _, _ => none

/-- What an operator gives for two built-in values. -/
def binary (world : World) (sign : String) (left right : Value) : Except Raised Value :=
  let special : Outcome :=
    match sign with
    | "+" => joined world left right
    | "*" => multiplied world left right
    | _ => none
  match ((numbers sign left right).or (collections sign left right)).or special with
  | some outcome => outcome
  | none => .error (.notOperable sign (world.ownerName left) (world.ownerName right))

/-- What an operator gives for one built-in value. -/
def unary (world : World) (sign : String) (operand : Value) : Except Raised Value :=
  match operand.whole?, operand.real?, operand.payload, sign with
  | some number, _, _, "-" => .ok (.int (-number))
  | some number, _, _, "+" => .ok (.int number)
  | some number, _, _, "~" => .ok (.int (-number - 1))
  | none, some number, _, "-" => .ok (Value.ofFloat (-number))
  | none, some number, _, "+" => .ok (Value.ofFloat number)
  | none, none, .complex real imaginary, "-" =>
    .ok (Value.ofParts (-(Magnitude.floatOf real)) (-(Magnitude.floatOf imaginary)))
  | none, none, .complex real imaginary, "+" => .ok (.complex real imaginary)
  | _, _, _, _ => .error (.notUnary sign (world.ownerName operand))

end Arithmetic

end MemberThunks
