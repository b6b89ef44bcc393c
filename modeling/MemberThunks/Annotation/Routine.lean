import MemberThunks.Annotation.Operation
import MemberThunks.World.Instance

set_option autoImplicit false

/- What the routines of the language give inside an annotation. Those that act on more than
their arguments give nothing here. -/
namespace MemberThunks.Annotation.Routine

/-- The digits of a whole number to a base, behind a mark. -/
def marked (mark : String) (base : Nat) (number : Int) : Value :=
  .text ((if number < 0 then "-" else "") ++ mark ++
    String.ofList (Nat.toDigits base number.natAbs))

/-- The first of the least values. -/
def least (world : World) (caller : Caller) (best : Value) : List Value → Run Value
  | [] => pure best
  | next :: rest => do
    let better ← world.isGreater caller World.nestingDepth best next
    least world caller (if better then next else best) rest

/-- Puts a value behind those that are not greater. -/
def inserted (world : World) (caller : Caller) (value : Value) : List Value → Run (List Value)
  | [] => pure [value]
  | first :: rest => do
    if ← world.isGreater caller World.nestingDepth first value then return value :: first :: rest
    else return first :: (← inserted world caller value rest)

/-- The values in order, equal ones as they came. -/
def sorted (world : World) (caller : Caller) (values : List Value) : Run (List Value) :=
  values.foldlM (fun done value => inserted world caller value done) []

def anyHolds (world : World) (caller : Caller) : List Value → Run Bool
  | [] => pure false
  | first :: rest => do
    if ← world.truth caller first then return true else anyHolds world caller rest

def allHold (world : World) (caller : Caller) : List Value → Run Bool
  | [] => pure true
  | first :: rest => do
    if ← world.truth caller first then allHold world caller rest else return false

/-- What a number is without its sign. -/
def size? (value : Value) : Option Value :=
  match value.whole?, value.payload with
  | some number, _ => some (.int number.natAbs)
  | none, .float _ => value.real?.map fun number => Value.ofFloat number.abs
  | none, _ => none

/-- What a routine gives for arguments by position, if it is known what it gives. -/
def given? (world : World) (caller : Caller) (name : String) (arguments : List Value) :
    Option (Run Value) :=
  match name, arguments with
  | "abs", [value] => (size? value).map pure
  | "min", [values] => some do
    match ← world.elements caller values with
    | [] => Run.fail (.user .valueFault "min() arg is an empty sequence")
    | first :: rest => least world caller first rest
  | "min", first :: rest => some (least world caller first rest)
  | "sum", [values] => some do
    (← world.elements caller values).foldlM (Operation.apply world caller "+") (.int 0)
  | "sum", [values, start] => some do
    (← world.elements caller values).foldlM (Operation.apply world caller "+") start
  | "any", [values] => some do
    return .bool (← anyHolds world caller (← world.elements caller values))
  | "all", [values] => some do
    return .bool (← allHold world caller (← world.elements caller values))
  | "sorted", [values] => some do
    return .list (← sorted world caller (← world.elements caller values))
  | "isinstance", [value, .cls target] => some do
    return .bool (← world.isInstance caller value target)
  | "isinstance", [value, kind] => some do
    return .bool (← world.isInstanceOfValue caller value kind)
  | "issubclass", [.cls left, .cls right] => some do return .bool (← world.countsAs left right)
  | "callable", [value] => some do
    return .bool (← world.isAbstractInstance caller .callable value)
  | "getattr", [target, .text label] => some (world.normalGet caller target label)
  | "getattr", [target, .text label, default] => some do
    return (← world.attribute? caller target label).getD default
  | "hasattr", [target, .text label] => some do
    return .bool (← world.attribute? caller target label).isSome
  | "repr", [value] => some do return .text (← world.writtenText caller value)
  | "format", [value] => some do return .text (← world.formatted caller value "")
  | "format", [value, .text layout] => some do
    return .text (← world.formatted caller value layout)
  | "ord", [.text content] =>
    match content.toList with
    | [c] => some (pure (.int c.toNat))
    | _ => none
  | "chr", [value] => value.whole?.map fun number =>
    if number < 0 || 1114111 < number then
      Run.fail (.user .valueFault "chr() arg not in range(0x110000)")
    else pure (.text (String.ofList [Char.ofNat number.toNat]))
  | "hex", [value] => value.whole?.map fun number => pure (marked "0x" 16 number)
  | "oct", [value] => value.whole?.map fun number => pure (marked "0o" 8 number)
  | "bin", [value] => value.whole?.map fun number => pure (marked "0b" 2 number)
  | "pow", [base, power] => some (Operation.apply world caller "**" base power)
  | "divmod", [left, right] => some do
    let quotient ← Operation.apply world caller "//" left right
    return .tuple [quotient, ← Operation.apply world caller "%" left right]
  | "print", _ => some (pure .none)
  | _, _ => none

end MemberThunks.Annotation.Routine
