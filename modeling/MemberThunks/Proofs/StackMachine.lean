import MemberThunks.Listing.Lowering
import MemberThunks.Proofs.Effects

set_option autoImplicit false

/- The machine that instructions are meant for. It keeps its operands on a stack: an argument
   is pushed, a check looks at the top and leaves it, and a store takes the value and then the
   target off. A return on an empty stack ends the run with None. Where an instruction has no
   meaning the machine is stuck. -/
namespace MemberThunks

inductive Halt where
  | raised (raised : Raised)
  | stuck

abbrev Running := ExceptT Halt (StateM Store)

-- What a run of the machine does not change: the world that declared types are read in, the
-- world it runs in with the way of calling there, and the arguments.
structure StackMachine where
  known : World
  world : World
  caller : Caller
  arguments : List Value

namespace StackMachine

def act {α : Type} (action : Run α) : Running α := ExceptT.adapt Halt.raised action

-- Runs one instruction; there is no stack after a return.
def perform (machine : StackMachine) (instruction : Instruction) (stack : List Value) :
    Running (Option (List Value)) :=
  match instruction, stack with
  | .loadArgument index, stack =>
    if 0 ≤ index then
      match machine.arguments[index.toNat]? with
      | some argument => return some (argument :: stack)
      | none => throw .stuck
    else throw .stuck
  | .castClass target, top :: rest => do
    let _ ← act ((Conversion.cast target false).apply machine.world machine.caller top)
    return some (top :: rest)
  | .unboxAny target, top :: rest =>
    match machine.known.conversionFor target false with
    | .ok conversion => do
      let _ ← act (Conversion.applyOptional machine.world machine.caller conversion top)
      return some (top :: rest)
    | .error _ => throw .stuck
  | .storeField member, value :: target :: rest => do
    act (machine.world.directSet machine.caller target member.name value)
    return some rest
  | .callSetter (.property details), value :: target :: rest => do
    act ((VirtualSetter.ofProperty details).call machine.world machine.caller target value)
    return some rest
  | .ret, [] => return none
  | _, _ => throw .stuck

def run (machine : StackMachine) : List Instruction → List Value → Running Value
  | [], _ => throw .stuck
  | instruction :: rest, stack => do
    match ← machine.perform instruction stack with
    | some next => machine.run rest next
    | none => return .none

theorem act_pure {α : Type} (result : α) : act (pure result) = pure result := by
  rfl

theorem act_bind {α β : Type} (first : Run α) (next : α → Run β) :
    act (first >>= next) = act first >>= fun result => act (next result) :=
  adapt_bind Halt.raised first next

end StackMachine

end MemberThunks
