import MemberThunks.Member.Basic

set_option autoImplicit false

/- Instructions of a stack machine. A program of instructions takes a number of
   arguments and gives None; each instruction pops and pushes a fixed number of values. -/
namespace MemberThunks

inductive Instruction where
  | loadArgument (index : Int)
  /-- Narrows the top of the stack to a class. -/
  | castClass (target : TypeForm)
  /-- Converts the top of the stack to a declared type. -/
  | unboxAny (target : TypeForm)
  /-- Stores the top into a field of the value below it. -/
  | storeField (member : Member)
  /-- Calls the setter of a property with the value below the top and the top. -/
  | callSetter (member : Member)
  | ret
  /-- An instruction of no kind. -/
  | bare

namespace Instruction

def display (world : World) : Instruction → String
  | loadArgument index => "LoadArg(index=" ++ toString index ++ ")"
  | castClass target => "CastClass(type=" ++ target.display world ++ ")"
  | unboxAny target => "UnboxAny(type=" ++ target.display world ++ ")"
  | storeField member => "StoreField(field=" ++ member.display world ++ ")"
  | callSetter member => "CallSetter(property=" ++ member.display world ++ ")"
  | ret => "Ret()"
  | bare => "Instruction()"

/-- The values that the text of an instruction shows. -/
def parts : Instruction → List Value
  | castClass target | unboxAny target => [Value.ofForm target]
  | storeField member | callSetter member => member.parts
  | loadArgument _ | ret | bare => []

def isReturn : Instruction → Bool
  | ret => true
  | _ => false

def pops : Instruction → Nat
  | loadArgument _ | ret | bare => 0
  | castClass _ | unboxAny _ => 1
  | storeField _ | callSetter _ => 2

def pushes : Instruction → Nat
  | loadArgument _ | castClass _ | unboxAny _ => 1
  | storeField _ | callSetter _ | ret | bare => 0

end Instruction

structure Program where
  name : String
  parameterCount : Nat
  instructions : List Instruction

end MemberThunks
