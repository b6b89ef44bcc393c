import MemberThunks.World.Instance

set_option autoImplicit false

/- Checked conversions from any value to a declared type. A conversion gives the value
   back unchanged or refuses it: a cast admits the instances of its target, an unboxing
   the values whose class is exactly its target, and a union what one of its options
   admits. A nullable conversion admits None before any other check. -/
namespace MemberThunks

inductive Conversion where
  | cast (target : TypeForm) (nullable : Bool)
  | unbox (target : TypeForm) (nullable : Bool)
  | union (options : List Conversion) (nullable : Bool)

namespace Conversion

def nullable : Conversion → Bool
  | cast _ nullable | unbox _ nullable | union _ nullable => nullable

def withNullable (nullable : Bool) : Conversion → Conversion
  | cast target _ => cast target nullable
  | unbox target _ => unbox target nullable
  | union options _ => union options nullable

def isUnboxing : Conversion → Bool
  | unbox _ _ => true
  | _ => false

def options : Conversion → List Conversion
  | union options _ => options
  | _ => []

mutual

/-- The types that the conversion checks for. -/
def targets : Conversion → List TypeForm
  | cast target _ | unbox target _ => [target]
  | union options _ => targetsOfAll options
termination_by structural conversion => conversion

def targetsOfAll : List Conversion → List TypeForm
  | [] => []
  | option :: rest => option.targets ++ targetsOfAll rest
termination_by structural options => options

end

def typeName : Conversion → String
  | cast _ _ => "CastClass"
  | unbox _ _ => "UnboxAny"
  | union _ _ => "UnionOf"

mutual

/-- What the conversion admits, in words. -/
def describe (world : World) : Conversion → String
  | cast target nullable | unbox target nullable =>
    if nullable then target.name world ++ " | None" else target.name world
  | union options nullable =>
    " | ".intercalate (describeAll world options ++ if nullable then ["None"] else [])
termination_by structural conversion => conversion

def describeAll (world : World) : List Conversion → List String
  | [] => []
  | option :: rest => option.describe world :: describeAll world rest
termination_by structural options => options

end

def display (world : World) (conversion : Conversion) : String :=
  conversion.typeName ++ "(" ++ conversion.describe world ++ ")"

mutual

/-- The check proper, which takes no account of the conversion's own nullability. -/
def accepts (world : World) (call : Caller) (value : Value) : Conversion → Run Bool
  | cast target _ => world.isInstanceOf call value target
  | unbox target _ =>
    match target with
    | .cls exact => pure (value.typeOf == exact)
    | _ => pure false
  | union options _ => acceptsAny world call value options
termination_by structural conversion => conversion

/-- Tries the options in order, up to the first that admits the value. -/
def acceptsAny (world : World) (call : Caller) (value : Value) : List Conversion → Run Bool
  | [] => pure false
  | option :: rest => do
    if ← accepts world call value option then return true
    else acceptsAny world call value rest
termination_by structural options => options

end

/-- The refusal of a value. Only where every option unboxes is it a refusal to unbox. -/
def refusal (world : World) (conversion : Conversion) (value : Value) : Raised :=
  match conversion with
  | cast _ _ => .notCast (value.typeName world) (conversion.describe world)
  | unbox _ _ => .notUnboxed (value.typeName world) (conversion.describe world)
  | union options _ =>
    if options.all isUnboxing then
      .notUnboxed (value.typeName world) (conversion.describe world)
    else .notCast (value.typeName world) (conversion.describe world)

/-- Gives back a value that is admitted, judged by the class that it has by now. -/
def apply (world : World) (call : Caller) (conversion : Conversion) (value : Value) :
    Run Value := do
  let judged := (← get).current value
  if judged.isNone && conversion.nullable then return value
  else if ← conversion.accepts world call judged then return value
  else Run.fail (conversion.refusal world judged)

/-- Applies a conversion where there is one; no conversion admits everything. -/
def applyOptional (world : World) (call : Caller) (conversion : Option Conversion)
    (value : Value) : Run Value :=
  match conversion with
  | none => pure value
  | some present => present.apply world call value

end Conversion

end MemberThunks
