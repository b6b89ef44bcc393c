import MemberThunks.Listing.Basic
import MemberThunks.Listing.Instruction

set_option autoImplicit false

/- Lowering a program to a listing. The program is checked on the way: the stack never
   runs out, is empty at the return, and nothing follows the return. Each push takes the
   slot that is numbered by the depth of the stack. -/
namespace MemberThunks

inductive StreamFault where
  | afterReturn
  | noSuchArgument
  | underflow
  | notEmpty
  | unknownInstruction
deriving DecidableEq

namespace StreamFault

def message : StreamFault → String
  | afterReturn => "instruction after Ret"
  | noSuchArgument => "no such argument"
  | underflow => "stack underflow"
  | notEmpty => "stack not empty"
  | unknownInstruction => "unknown instruction"

end StreamFault

/-- What is wrong with an instruction. -/
inductive StepFault where
  | stream (fault : StreamFault)
  | unsupported (fault : UnsupportedType)
  /-- A setter is asked of a member that is no property. -/
  | noSetter (kind : String)

inductive LowerFault where
  /-- A fault at an offset, with the instruction found there. -/
  | step (fault : StepFault) (offset : Nat) (found program : String)
  | noReturn (program : String)
  /-- The text of an instruction at fault hangs on what objects say. -/
  | undecided (question : Question)

namespace LowerFault

/-- An offset is written with four digits at least. -/
def offsetText (offset : Nat) : String :=
  let digits := toString offset
  "IL_" ++ String.ofList (List.replicate (4 - digits.length) '0') ++ digits

def failure : LowerFault → Failure
  | step (.stream fault) offset found program =>
    ⟨.emit, fault.message ++ " at " ++ offsetText offset ++ " " ++ found, some program⟩
  | step (.unsupported fault) _ _ program => fault.failure (some program)
  | step (.noSetter kind) _ _ _ => (Raised.noAttribute kind "setter").failure
  | noReturn program => ⟨.emit, "dynamic method does not end with Ret", some program⟩
  | undecided _ => .plain .emit "instruction cannot be shown yet"

/-- What is still to be asked, if the fault is only that. -/
def question? : LowerFault → Option Question
  | step (.unsupported fault) _ _ _ => fault.question?
  | undecided question => some question
  | _ => none

end LowerFault

namespace Lowering

/-- The slots on the stack, the top first, and what has been written so far. -/
structure State where
  stack : List Nat
  statements : List Statement
  constants : Constants

namespace State

def empty : State := ⟨[], [], []⟩

/-- The slot of the next push. -/
def nextSlot (state : State) : Nat := state.stack.length

def push (state : State) : State := { state with stack := state.nextSlot :: state.stack }

def write (state : State) (statement : Statement) : State :=
  { state with statements := state.statements ++ [statement] }

def pop (state : State) : Except StepFault (Nat × State) :=
  match state.stack with
  | [] => .error (.stream .underflow)
  | slot :: rest => .ok (slot, { state with stack := rest })

def addConstant (state : State) (hint : String) (constant : Constant) : String × State :=
  let (label, constants) := state.constants.add hint constant
  (label, { state with constants := constants })

/-- Applies a constant to a popped slot and pushes the result. -/
def check (state : State) (conversion : Conversion) (source : Nat) : State :=
  let (label, named) := state.addConstant (Constant.conversionHint conversion)
    (.conversion conversion)
  named.push.write (.check named.nextSlot label source)

end State

/-- Lowers one instruction. -/
def step (world : World) (parameterCount : Nat) (state : State) :
    Instruction → Except StepFault State
  | .loadArgument index =>
    if 0 ≤ index ∧ index < parameterCount then
      .ok (state.push.write (.load state.nextSlot index.toNat))
    else .error (.stream .noSuchArgument)
  | .castClass target => do
    let (source, popped) ← state.pop
    return popped.check (.cast target false) source
  | .unboxAny target => do
    let (source, popped) ← state.pop
    match world.conversionFor target false with
    | .error fault => .error (.unsupported fault)
    | .ok none => return popped.push
    | .ok (some conversion) => return popped.check conversion source
  | .storeField member => do
    let (value, rest) ← state.pop
    let (target, popped) ← rest.pop
    let (label, named) := popped.addConstant "store" .directSet
    return named.write (.store label target member.name value)
  | .callSetter member => do
    let (value, rest) ← state.pop
    let (target, popped) ← rest.pop
    match member with
    | .property details =>
      let (label, named) := popped.addConstant "setter" (.setter (.ofProperty details))
      return named.write (.set label target value)
    | other => .error (.noSetter other.kindName)
  | .ret =>
    if state.stack.isEmpty then .ok (state.write .finish) else .error (.stream .notEmpty)
  | .bare => .error (.stream .unknownInstruction)

/-- The fault of an instruction at an offset. The instruction is shown only where the stream
is at fault. -/
def faultAt (world : World) (program : Program) (offset : Nat) (found : Instruction)
    (fault : StepFault) : LowerFault :=
  match fault with
  | .stream _ =>
    if world.isUnheard found.parts then .undecided (.texts found.parts)
    else .step fault offset (found.display world) program.name
  | _ => .step fault offset (found.display world) program.name

/-- Lowers the instructions from an offset on. -/
def steps (world : World) (program : Program) (offset : Nat) (returned : Bool) (state : State) :
    List Instruction → Except LowerFault State
  | [] => if returned then .ok state else .error (.noReturn program.name)
  | instruction :: rest =>
    if returned then
      .error (faultAt world program offset instruction (.stream .afterReturn))
    else
      match step world program.parameterCount state instruction with
      | .error fault => .error (faultAt world program offset instruction fault)
      | .ok next => steps world program (offset + 1) instruction.isReturn next rest

end Lowering

namespace Program

/-- The listing of a program that passes all checks. -/
def lower (world : World) (program : Program) : Except LowerFault Listing := do
  let final ← Lowering.steps world program 0 false .empty program.instructions
  return ⟨Identifier.squash program.name, program.parameterCount, final.statements,
    final.constants⟩

end Program

end MemberThunks
