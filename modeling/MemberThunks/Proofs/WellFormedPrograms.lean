import MemberThunks.Proofs.MethodBuild

set_option autoImplicit false

/- Lowering as a verifier. It keeps no count of pops and pushes, it takes slots off a stack and
   puts them on; held against what the instructions declare, it accepts the programs that keep
   the discipline and no others, and of any other it blames the first instruction at fault. -/
namespace MemberThunks

-- What an item of a list is: its last one, or one of those before the last.
theorem split_of_snoc {α : Type} {body before after : List α} {last next : α}
    (split : body ++ [last] = before ++ next :: after) :
    (before = body ∧ next = last) ∨ ∃ middle, body = before ++ next :: middle := by
  rcases List.eq_nil_or_concat after with rfl | ⟨middle, final, rfl⟩
  · obtain ⟨same, alike⟩ := List.append_inj' split rfl
    exact .inl ⟨same.symm, (List.cons.inj alike).1.symm⟩
  · rw [List.concat_eq_append, ← List.cons_append, ← List.append_assoc] at split
    exact .inr ⟨middle, (List.append_inj' split rfl).1⟩

namespace Instruction

-- The height of the stack after some instructions, by what they declare to pop and to push.
def height (instructions : List Instruction) : Int :=
  instructions.foldl (fun held next => held - next.pops + next.pushes) 0

theorem height_snoc (before : List Instruction) (next : Instruction) :
    height (before ++ [next]) = height before - next.pops + next.pushes := by
  rw [height, List.foldl_append]
  rfl

theorem return_of_is_return {instruction : Instruction} (returns : instruction.isReturn = true) :
    instruction = .ret := by
  cases instruction <;> first | rfl | cases returns

-- What is wrong with an instruction that has the values it pops, of as many as the stack holds.
inductive Unfit (known : World) (count : Nat) (held : Int) : Instruction → StepFault → Prop where
  | unknown : Unfit known count held .bare (.stream .unknownInstruction)
  | noSuchArgument (index : Int) (outside : ¬(0 ≤ index ∧ index < count)) :
      Unfit known count held (.loadArgument index) (.stream .noSuchArgument)
  | notEmpty (left : 0 < held) : Unfit known count held .ret (.stream .notEmpty)
  | unsupported (target : TypeForm) (fault : UnsupportedType)
      (without : known.conversionFor target false = .error fault) :
      Unfit known count held (.unboxAny target) (.unsupported fault)
  | noSetter (member : Member) (foreign : ∀ details, member ≠ .property details) :
      Unfit known count held (.callSetter member) (.noSetter member.kindName)

-- What is at fault with an instruction that comes after others.
inductive Faulty (known : World) (count : Nat) (before : List Instruction)
    (next : Instruction) : StepFault → Prop where
  | afterReturn (returned : .ret ∈ before) : Faulty known count before next (.stream .afterReturn)
  | underflow (unreturned : .ret ∉ before) (missing : height before < next.pops) :
      Faulty known count before next (.stream .underflow)
  | unfit (fault : StepFault) (unreturned : .ret ∉ before) (enough : next.pops ≤ height before)
      (unfit : Unfit known count (height before) next fault) :
      Faulty known count before next fault

theorem unboxes_of_unsupported {known : World} {count : Nat} {before : List Instruction}
    {next : Instruction} {fault : UnsupportedType}
    (faulty : Faulty known count before next (.unsupported fault)) :
    ∃ target, next = .unboxAny target := by
  cases faulty with
  | unfit _ _ _ unfit =>
      cases unfit with
      | unsupported target _ _ => exact ⟨target, rfl⟩

theorem calls_of_no_setter {known : World} {count : Nat} {before : List Instruction}
    {next : Instruction} {kind : String}
    (faulty : Faulty known count before next (.noSetter kind)) :
    ∃ member, next = .callSetter member ∧ kind = member.kindName := by
  cases faulty with
  | unfit _ _ _ unfit =>
      cases unfit with
      | noSetter member _ => exact ⟨member, rfl, rfl⟩

-- No instruction of a list is at fault.
def Sound (known : World) (count : Nat) (instructions : List Instruction) : Prop :=
  ∀ before next after, instructions = before ++ next :: after →
    ∀ fault, ¬Faulty known count before next fault

section Sound

variable {known : World} {count : Nat}

theorem sound_nil : Sound known count [] := by
  intro before next after split
  cases before <;> cases split

theorem sound_snoc {before : List Instruction} {next : Instruction}
    (sound : Sound known count before)
    (faultless : ∀ fault, ¬Faulty known count before next fault) :
    Sound known count (before ++ [next]) := by
  intro earlier found after split
  rcases split_of_snoc split with ⟨rfl, rfl⟩ | ⟨middle, within⟩
  · exact faultless
  · exact sound earlier found middle within

end Sound

end Instruction

open Instruction

namespace Program

-- The discipline of a program: its last instruction is its only return, there is nothing but
-- instructions of the six kinds, arguments are there, the stack never runs out and is empty at
-- the return, and what values are converted to has a conversion.
structure Disciplined (known : World) (program : Program) : Prop where
  ends : ∃ body, program.instructions = body ++ [.ret] ∧ .ret ∉ body
  kinds : .bare ∉ program.instructions
  arguments : ∀ index : Int, .loadArgument index ∈ program.instructions →
    0 ≤ index ∧ index < program.parameterCount
  operands : ∀ before next after, program.instructions = before ++ next :: after →
    (next.pops : Int) ≤ height before
  emptied : ∀ before after, program.instructions = before ++ .ret :: after → height before = 0
  conversions : ∀ target, .unboxAny target ∈ program.instructions →
    ∃ conversion, known.conversionFor target false = .ok conversion

-- A disciplined program that calls the setters of properties only.
structure WellFormed (known : World) (program : Program) : Prop
    extends Disciplined known program where
  setters : ∀ member, .callSetter member ∈ program.instructions →
    ∃ details, member = .property details

section Discipline

variable {known : World} {program : Program}

theorem sound_of_well_formed (wellFormed : WellFormed known program) :
    Sound known program.parameterCount program.instructions := by
  intro before next after split fault faulty
  have found : next ∈ program.instructions := by simp [split]
  cases faulty with
  | afterReturn returned =>
      obtain ⟨body, whole, single⟩ := wellFormed.ends
      rcases split_of_snoc (whole.symm.trans split) with ⟨rfl, _⟩ | ⟨middle, rfl⟩
      · exact single returned
      · exact single (List.mem_append_left _ returned)
  | underflow _ missing => exact absurd (wellFormed.operands before next after split) (by omega)
  | unfit _ _ _ unfit =>
      cases unfit with
      | unknown => exact wellFormed.kinds found
      | noSuchArgument index outside => exact outside (wellFormed.arguments index found)
      | notEmpty left => exact absurd (wellFormed.emptied before after split) (by omega)
      | unsupported target fault without =>
          obtain ⟨conversion, converts⟩ := wellFormed.conversions target found
          cases without.symm.trans converts
      | noSetter member foreign =>
          obtain ⟨details, same⟩ := wellFormed.setters member found
          exact foreign details same

section Parts

variable (sound : Sound known program.parameterCount program.instructions)
include sound

theorem unreturned_of_sound {before after : List Instruction} {next : Instruction}
    (split : program.instructions = before ++ next :: after) : .ret ∉ before :=
  fun returned => sound before next after split _ (.afterReturn returned)

theorem enough_of_sound {before after : List Instruction} {next : Instruction}
    (split : program.instructions = before ++ next :: after) : next.pops ≤ height before := by
  have enough : ¬height before < next.pops := fun missing =>
    sound before next after split _ (.underflow (unreturned_of_sound sound split) missing)
  omega

theorem fit_of_sound {before after : List Instruction} {next : Instruction}
    (split : program.instructions = before ++ next :: after) (fault : StepFault) :
    ¬Unfit known program.parameterCount (height before) next fault :=
  fun unfit => sound before next after split fault
    (.unfit fault (unreturned_of_sound sound split) (enough_of_sound sound split) unfit)

theorem well_formed_of_sound {body : List Instruction}
    (whole : program.instructions = body ++ [.ret]) : WellFormed known program where
  ends := ⟨body, whole, unreturned_of_sound sound whole⟩
  kinds := by
    intro found
    obtain ⟨before, after, split⟩ := List.append_of_mem found
    exact fit_of_sound sound split _ .unknown
  arguments := by
    intro index found
    obtain ⟨before, after, split⟩ := List.append_of_mem found
    exact Decidable.byContradiction fun outside =>
      fit_of_sound sound split _ (.noSuchArgument index outside)
  operands := fun _ _ _ split => enough_of_sound sound split
  emptied := by
    intro before after split
    have enough : (0 : Int) ≤ height before := enough_of_sound sound split
    have nothing : ¬0 < height before := fun left => fit_of_sound sound split _ (.notEmpty left)
    omega
  conversions := by
    intro target found
    obtain ⟨before, after, split⟩ := List.append_of_mem found
    cases converts : known.conversionFor target false with
    | ok conversion => exact ⟨conversion, rfl⟩
    | error fault =>
        exact absurd (.unsupported target fault converts) (fit_of_sound sound split _)
  setters := by
    intro member found
    obtain ⟨before, after, split⟩ := List.append_of_mem found
    exact Classical.byContradiction fun foreign =>
      fit_of_sound sound split _ (.noSetter member fun details same => foreign ⟨details, same⟩)

end Parts

end Discipline

-- How a program is judged by its first fault.
inductive Verdict {α : Type} (known : World) (program : Program) : Except LowerFault α → Prop where
  | accepted (result : α) (wellFormed : WellFormed known program) :
      Verdict known program (.ok result)
  | faulty {before after : List Instruction} {found : Instruction} {fault : StepFault}
      (split : program.instructions = before ++ found :: after)
      (sound : Sound known program.parameterCount before)
      (faulty : Faulty known program.parameterCount before found fault) :
      Verdict known program (.error (Lowering.faultAt known program before.length found fault))
  | unfinished (sound : Sound known program.parameterCount program.instructions)
      (unreturned : .ret ∉ program.instructions) :
      Verdict known program (.error (.noReturn program.name))

end Program

open Program

namespace Lowering

-- Lowering an instruction that has the values it pops finds what else is wrong with it, or
-- moves the height of the stack as declared.
inductive Fitted (known : World) (count held : Nat) (next : Instruction) :
    Except StepFault State → Prop where
  | lowered (state : State) (fit : ∀ fault, ¬Unfit known count held next fault)
      (moved : state.stack.length + next.pops = held + next.pushes) :
      Fitted known count held next (.ok state)
  | refused (fault : StepFault) (unfit : Unfit known count held next fault) :
      Fitted known count held next (.error fault)

section Step

variable {known : World} {count : Nat} {state : State}

theorem pop_of_nil (emptied : state.stack = []) : state.pop = .error (.stream .underflow) := by
  rw [State.pop, emptied]

theorem pop_of_cons {slot : Nat} {rest : List Nat} (shape : state.stack = slot :: rest) :
    state.pop = .ok (slot, { state with stack := rest }) := by
  rw [State.pop, shape]

theorem pop_two (enough : 2 ≤ state.stack.length) :
    ∃ value target rest, state.stack = value :: target :: rest ∧
      state.pop = .ok (value, { state with stack := target :: rest }) := by
  obtain ⟨value, below, shape⟩ : ∃ value below, state.stack = value :: below :=
    List.exists_cons_of_length_pos (by omega)
  rw [shape, List.length_cons] at enough
  obtain ⟨target, rest, rfl⟩ : ∃ target rest, below = target :: rest :=
    List.exists_cons_of_length_pos (by omega)
  exact ⟨value, target, rest, shape, pop_of_cons shape⟩

theorem step_fits {next : Instruction} (enough : next.pops ≤ state.stack.length) :
    Fitted known count state.stack.length next (step known count state next) := by
  cases next with
  | loadArgument index =>
      by_cases inside : 0 ≤ index ∧ index < count
      · rw [step, if_pos inside]
        exact .lowered _ (fun _ unfit => by cases unfit; contradiction) rfl
      · rw [step, if_neg inside]
        exact .refused _ (.noSuchArgument index inside)
  | castClass target =>
      obtain ⟨slot, rest, shape⟩ := List.exists_cons_of_length_pos enough
      rw [step, pop_of_cons shape, shape]
      exact .lowered _ (fun _ unfit => by cases unfit) rfl
  | unboxAny target =>
      obtain ⟨slot, rest, shape⟩ := List.exists_cons_of_length_pos enough
      rw [step, pop_of_cons shape, shape]
      cases converts : known.conversionFor target false with
      | error fault =>
          exact .refused _ (.unsupported target fault converts)
      | ok conversion =>
          have fit : ∀ fault,
              ¬Unfit known count (slot :: rest).length (.unboxAny target) fault := by
            intro fault unfit
            cases unfit with
            | unsupported _ fault without => cases without.symm.trans converts
          cases conversion <;> exact .lowered _ fit rfl
  | storeField member =>
      obtain ⟨value, target, rest, shape, taken⟩ := pop_two enough
      rw [step, taken, shape]
      exact .lowered _ (fun _ unfit => by cases unfit) rfl
  | callSetter member =>
      obtain ⟨value, target, rest, shape, taken⟩ := pop_two enough
      rw [step, taken, shape]
      cases member with
      | property details =>
          refine .lowered _ ?_ rfl
          intro fault unfit
          cases unfit with
          | noSetter _ foreign => exact foreign details rfl
      | method details => exact .refused _ (.noSetter _ fun _ same => by cases same)
      | field details => exact .refused _ (.noSetter _ fun _ same => by cases same)
      | bare declaring name => exact .refused _ (.noSetter _ fun _ same => by cases same)
  | ret =>
      cases shape : state.stack with
      | nil =>
          rw [step, shape]
          refine .lowered _ ?_ (by rw [State.write, shape]; rfl)
          intro fault unfit
          cases unfit with
          | notEmpty left => cases left
      | cons slot rest =>
          rw [step, shape]
          exact .refused _ (.notEmpty (Int.natCast_pos.mpr (Nat.succ_pos _)))
  | bare => exact .refused _ .unknown

theorem step_underflows {next : Instruction} (missing : state.stack.length < next.pops) :
    step known count state next = .error (.stream .underflow) := by
  cases next with
  | loadArgument index => cases missing
  | castClass target =>
      rw [step, pop_of_nil (List.eq_nil_of_length_eq_zero (Nat.lt_one_iff.mp missing))]
      rfl
  | unboxAny target =>
      rw [step, pop_of_nil (List.eq_nil_of_length_eq_zero (Nat.lt_one_iff.mp missing))]
      rfl
  | storeField member =>
      match shape : state.stack, missing with
      | [], _ => rw [step, pop_of_nil shape]; rfl
      | [value], _ => rw [step, pop_of_cons shape]; rfl
  | callSetter member =>
      match shape : state.stack, missing with
      | [], _ => rw [step, pop_of_nil shape]; rfl
      | [value], _ => rw [step, pop_of_cons shape]; rfl
  | ret => cases missing
  | bare => cases missing

-- Lowering one instruction finds what is at fault with it, or has the declared height after it.
inductive Verified (known : World) (count : Nat) (before : List Instruction)
    (next : Instruction) : Except StepFault State → Prop where
  | lowered (state : State) (faultless : ∀ fault, ¬Faulty known count before next fault)
      (counted : state.stack.length = height (before ++ [next])) :
      Verified known count before next (.ok state)
  | refused (fault : StepFault) (faulty : Faulty known count before next fault) :
      Verified known count before next (.error fault)

theorem step_verified {before : List Instruction} (unreturned : .ret ∉ before)
    (counted : state.stack.length = height before) (next : Instruction) :
    Verified known count before next (step known count state next) := by
  by_cases enough : next.pops ≤ state.stack.length
  · have fitted : Fitted known count state.stack.length next (step known count state next) :=
      step_fits enough
    have held : (next.pops : Int) ≤ height before := by omega
    cases stepped : step known count state next with
    | ok after =>
        rw [stepped] at fitted
        cases fitted with
        | lowered _ fit moved =>
            refine .lowered after ?_ ?_
            · intro fault faulty
              cases faulty with
              | afterReturn returned => exact unreturned returned
              | underflow _ missing => omega
              | unfit _ _ _ unfit => exact fit fault (counted ▸ unfit)
            · rw [height_snoc]
              omega
    | error fault =>
        rw [stepped] at fitted
        cases fitted with
        | refused _ unfit => exact .refused fault (.unfit fault unreturned held (counted ▸ unfit))
  · rw [step_underflows (Nat.lt_of_not_le enough)]
    exact .refused _ (.underflow unreturned (by omega))

end Step

section Steps

variable {known : World} {program : Program}

-- Nothing may follow a return.
theorem steps_after_return_judged {before rest : List Instruction}
    (split : program.instructions = (before ++ [.ret]) ++ rest)
    (sound : Sound known program.parameterCount (before ++ [.ret])) (state : State) :
    Verdict known program
      (steps known program (before ++ [Instruction.ret]).length true state rest) := by
  cases rest with
  | nil =>
      rw [List.append_nil] at split
      exact .accepted state (well_formed_of_sound (split ▸ sound) split)
  | cons found after =>
      exact .faulty split sound (.afterReturn (by simp))

-- The instructions before an offset are sound, and the stack is as high as they declare.
theorem steps_judged {before rest : List Instruction} {state : State}
    (split : program.instructions = before ++ rest)
    (sound : Sound known program.parameterCount before) (unreturned : .ret ∉ before)
    (counted : state.stack.length = height before) :
    Verdict known program (steps known program before.length false state rest) := by
  induction rest generalizing before state with
  | nil =>
      rw [List.append_nil] at split
      exact .unfinished (split ▸ sound) (split ▸ unreturned)
  | cons next rest ih =>
      have verified : Verified known program.parameterCount before next
          (step known program.parameterCount state next) := step_verified unreturned counted next
      simp only [steps, Bool.false_eq_true, if_false]
      cases stepped : step known program.parameterCount state next with
      | error fault =>
          rw [stepped] at verified
          cases verified with
          | refused _ faulty => exact .faulty split sound faulty
      | ok after =>
          rw [stepped] at verified
          cases verified with
          | lowered _ faultless moved =>
              have soundly := sound_snoc sound faultless
              have onward : program.instructions = (before ++ [next]) ++ rest := by
                rw [split, List.append_assoc, List.singleton_append]
              have offset : before.length + 1 = (before ++ [next]).length := by
                rw [List.length_append, List.length_singleton]
              rw [offset]
              cases last : next.isReturn with
              | true =>
                  obtain rfl := return_of_is_return last
                  exact steps_after_return_judged onward soundly after
              | false =>
                  refine ih onward soundly ?_ moved
                  intro found
                  rcases List.mem_append.mp found with earlier | here
                  · exact unreturned earlier
                  · rw [← List.mem_singleton.mp here] at last
                    cases last

end Steps

end Lowering

namespace Program

theorem lower_judged (known : World) (program : Program) :
    Verdict known program (program.lower known) := by
  have judged : Verdict known program
      (Lowering.steps known program 0 false .empty program.instructions) :=
    Lowering.steps_judged rfl sound_nil (List.not_mem_nil) rfl
  rw [lower]
  cases stepped : Lowering.steps known program 0 false .empty program.instructions with
  | ok final =>
      rw [stepped] at judged
      cases judged with
      | accepted _ wellFormed => exact .accepted _ wellFormed
  | error fault =>
      rw [stepped] at judged
      cases judged with
      | faulty split sound faulty => exact .faulty split sound faulty
      | unfinished sound unreturned => exact .unfinished sound unreturned

-- A program on which no object has to be asked.
def Decided (world : World) (program : Program) : Prop :=
  ∀ fault, program.lower world = .error fault → fault.question? = none

-- What a program is rejected with: the failure of its first instruction at fault, or, where
-- there is none, that it does not end with a return.
inductive Rejected (known : World) (program : Program) : Failure → Prop where
  | malformed {before after : List Instruction} {found : Instruction} {fault : StreamFault}
      (split : program.instructions = before ++ found :: after)
      (sound : Sound known program.parameterCount before)
      (faulty : Faulty known program.parameterCount before found (.stream fault)) :
      Rejected known program ⟨.emit, fault.message ++ " at " ++
        LowerFault.offsetText before.length ++ " " ++ found.display known, some program.name⟩
  | unconvertible {before after : List Instruction} {target : TypeForm} {fault : UnsupportedType}
      (split : program.instructions = before ++ .unboxAny target :: after)
      (sound : Sound known program.parameterCount before)
      (faulty : Faulty known program.parameterCount before (.unboxAny target) (.unsupported fault))
      (ending : fault ≠ .tooDeep) :
      Rejected known program ⟨.unsupportedMember, fault.message, some program.name⟩
  | endless {before after : List Instruction} {target : TypeForm}
      (split : program.instructions = before ++ .unboxAny target :: after)
      (sound : Sound known program.parameterCount before)
      (faulty : Faulty known program.parameterCount before (.unboxAny target)
        (.unsupported .tooDeep)) : Rejected known program Raised.tooDeep.failure
  | noSetter {before after : List Instruction} {member : Member}
      (split : program.instructions = before ++ .callSetter member :: after)
      (sound : Sound known program.parameterCount before)
      (faulty : Faulty known program.parameterCount before (.callSetter member)
        (.noSetter member.kindName)) :
      Rejected known program (Raised.noAttribute member.kindName "setter").failure
  | unfinished (sound : Sound known program.parameterCount program.instructions)
      (unreturned : .ret ∉ program.instructions) :
      Rejected known program
        ⟨.emit, "dynamic method does not end with Ret", some program.name⟩

section Judged

variable {known : World} {program : Program}

theorem accepted_iff_well_formed :
    (∃ listing, program.lower known = .ok listing) ↔ WellFormed known program := by
  have judged := lower_judged known program
  constructor
  · rintro ⟨listing, lowered⟩
    rw [lowered] at judged
    cases judged with
    | accepted _ wellFormed => exact wellFormed
  · intro wellFormed
    have sound := sound_of_well_formed wellFormed
    cases lowered : program.lower known with
    | ok listing => exact ⟨listing, rfl⟩
    | error fault =>
        rw [lowered] at judged
        cases judged with
        | faulty split _ faulty => exact absurd faulty (sound _ _ _ split _)
        | unfinished _ unreturned =>
            obtain ⟨body, whole, _⟩ := wellFormed.ends
            exact absurd (by simp [whole]) unreturned

theorem refused_is_rejected {fault : LowerFault} (lowered : program.lower known = .error fault)
    (decided : fault.question? = none) : Rejected known program fault.failure := by
  have judged := lower_judged known program
  rw [lowered] at judged
  cases judged with
  | @faulty before after found blame split sound faulty =>
      cases blame with
      | stream broken =>
          rw [Lowering.faultAt] at decided ⊢
          by_cases unheard : known.isUnheard found.parts
          · rw [if_pos unheard] at decided
            cases decided
          · rw [if_neg unheard]
            exact .malformed split sound faulty
      | unsupported without =>
          obtain ⟨target, rfl⟩ := unboxes_of_unsupported faulty
          cases without with
          | tooDeep => exact .endless split sound faulty
          | typeParameter name => exact .unconvertible split sound faulty nofun
          | uncheckable name => exact .unconvertible split sound faulty nofun
          | undecided question => cases decided
      | noSetter kind =>
          obtain ⟨member, rfl, rfl⟩ := calls_of_no_setter faulty
          exact .noSetter split sound faulty
  | unfinished sound unreturned => exact .unfinished sound unreturned

end Judged

end Program

namespace Strategy

-- What lowering a program ends with.
def loweredTo (world : World) (caller : Caller) (program : Program) (store : Store) :
    Except CompileFault Code :=
  ((lowered world caller program).run.run store).1

-- What follows for an outcome that is the one of lowering in a world that decides.
theorem outcome_verified (known : World) (program : Program) (decided : program.Decided known) :
    ((∃ listing, ((program.lower known).mapError CompileFault.lower).map Code.listing =
        .ok (.listing listing)) ↔ program.WellFormed known) ∧
      ∀ fault, ((program.lower known).mapError CompileFault.lower).map Code.listing =
        .error fault → program.Rejected known fault.failure := by
  rw [← Program.accepted_iff_well_formed]
  cases lowered : program.lower known with
  | ok listing => exact ⟨⟨fun _ => ⟨listing, rfl⟩, fun _ => ⟨listing, rfl⟩⟩, nofun⟩
  | error found =>
      refine ⟨⟨nofun, nofun⟩, ?_⟩
      intro fault same
      cases same
      exact Program.refused_is_rejected lowered (decided found lowered)

-- Lowering accepts the well-formed programs and no others. An exception comes out of it only
-- where an object in the place of a type is asked what it stands for, or what its text is.
theorem programs_verified (world : World) (caller : Caller) (program : Program) (store : Store) :
    (∃ raised, loweredTo world caller program store = .error (.escaped raised) ∧
      ¬program.Decided world) ∨
    ∃ known, world.Informed known ∧ (program.Decided world → known = world) ∧
      ((∃ listing, loweredTo world caller program store = .ok (.listing listing)) ↔
        program.WellFormed known) ∧
      ∀ fault, loweredTo world caller program store = .error fault →
        program.Rejected known fault.failure := by
  rw [loweredTo, lowered, run_map]
  by_cases decided : program.Decided world
  · rw [Making.settling_decided world caller LowerFault.question? .lower
      (fun known => program.lower known) decided store]
    exact .inr ⟨world, World.informed_refl world, fun _ => rfl,
      outcome_verified world program decided⟩
  · have settled := Making.settling_settled world caller LowerFault.question? .lower
      (fun known => program.lower known) store
    generalize ((Making.settling world caller LowerFault.question? .lower
      fun known => program.lower known).run.run store).1 = outcome at settled
    cases settled with
    | escaped raised => exact .inl ⟨raised, rfl, decided⟩
    | made known result informed tried =>
        have verified := outcome_verified known program
          (fun fault failed => by cases tried.symm.trans failed)
        rw [tried] at verified
        exact .inr ⟨known, informed, fun settled => absurd settled decided, verified⟩
    | refused known found informed tried answered =>
        have verified := outcome_verified known program (by
          intro fault failed
          cases tried.symm.trans failed
          exact answered)
        rw [tried] at verified
        exact .inr ⟨known, informed, fun settled => absurd settled decided, verified⟩

-- A program that keeps the discipline and calls the setter of a field.
def setsField : Program :=
  ⟨"late", 1, [.loadArgument 0, .loadArgument 0,
    .callSetter (.field ⟨.object, "x", .cls (.builtin .int)⟩), .ret]⟩

theorem sets_field_disciplined : setsField.Disciplined .empty where
  ends := ⟨setsField.instructions.dropLast, rfl, by simp [setsField]⟩
  kinds := by simp [setsField]
  arguments := by
    intro index found
    simp only [setsField, List.mem_cons, loadArgument.injEq, List.not_mem_nil, reduceCtorEq,
      or_false, or_self] at found
    subst found
    decide
  operands := by
    intro before next after split
    have each : ∀ offset : Fin setsField.instructions.length,
        (setsField.instructions[offset].pops : Int) ≤
          height (setsField.instructions.take offset) := by decide
    simpa only [split, Fin.getElem_fin, List.getElem_append_right (Nat.le_refl _), Nat.sub_self,
      List.getElem_cons_zero, List.take_left'] using each ⟨before.length, by simp [split]⟩
  emptied := by
    intro before after split
    have whole : setsField.instructions.dropLast ++ [.ret] = before ++ .ret :: after := split
    rcases split_of_snoc whole with
      ⟨rfl, _⟩ | ⟨middle, within⟩
    · rfl
    · exact absurd (within ▸ List.mem_append_right before (List.mem_cons_self ..))
        (by simp [setsField] : Instruction.ret ∉ setsField.instructions.dropLast)
  conversions := by simp [setsField]

-- A program that converts its argument and leaves it on the stack.
def checks (target : TypeForm) : Program :=
  ⟨"late", 1, [.loadArgument 0, .unboxAny target, .ret]⟩

-- A class that stands for itself.
def circles : World :=
  World.empty.declare (.ofMembers "Loop" [.value "__supertype__" (.cls (.declared 0))])

def failing? : Except CompileFault Code → Option FailureKind
  | .ok _ => none
  | .error fault => some fault.failure.kind

theorem discipline_does_not_decide :
    (setsField.Disciplined .empty ∧
      failing? (loweredTo .empty (World.empty.call World.callLimit) setsField .empty) =
        some .attributeFault) ∧
    failing? (loweredTo circles (circles.call World.callLimit) (checks (.cls (.declared 0)))
      .empty) = some .recursion ∧
    failing? (loweredTo riddles (riddles.call World.callLimit)
      (checks (.value (.object 0 (.declared 0)))) .empty) = some .valueFault :=
  ⟨⟨sets_field_disciplined, by decide +kernel⟩, by decide +kernel, by decide +kernel⟩

end Strategy

end MemberThunks
