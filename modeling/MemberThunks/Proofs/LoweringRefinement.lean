import MemberThunks.Proofs.ConstantNames
import MemberThunks.Proofs.ConversionChecks
import MemberThunks.Proofs.ExactBinding
import MemberThunks.Proofs.StackMachine
import MemberThunks.Thunk.Loading

set_option autoImplicit false

/- Lowering keeps what a program does. At every instruction the slots of the listing mirror
   the stack of the machine, and each constant keeps the meaning that it was added with; so
   the statements of an instruction and the instruction itself have the same effect, and a
   listing ends as the machine does. -/
namespace MemberThunks

namespace Lowering

-- Each value of a stack is in the slot that is numbered by the depth below it.
def Mirrors (slots : Listing.Slots) : List Nat → List Value → Prop
  | [], [] => True
  | slot :: rest, value :: values =>
    slot = rest.length ∧ slots.lookup slot = some value ∧ Mirrors slots rest values
  | _, _ => False

theorem mirrors_put {slots : Listing.Slots} {stack : List Nat} {values : List Value}
    (mirrored : Mirrors slots stack values) {slot : Nat} (above : stack.length ≤ slot)
    (value : Value) : Mirrors (slots.put slot value) stack values := by
  induction stack generalizing values with
  | nil => cases values <;> exact mirrored
  | cons top rest ih =>
      cases values with
      | nil => exact mirrored
      | cons held values =>
          obtain ⟨depth, found, below⟩ := mirrored
          rw [List.length_cons] at above
          have apart : top ≠ slot := by omega
          exact ⟨depth, (Entries.lookup_put_of_ne apart value slots).trans found,
            ih below (by omega)⟩

theorem mirrors_push {slots : Listing.Slots} {stack : List Nat} {values : List Value}
    (mirrored : Mirrors slots stack values) (value : Value) :
    Mirrors (slots.put stack.length value) (stack.length :: stack) (value :: values) :=
  ⟨rfl, Entries.lookup_put_self _ _ _, mirrors_put mirrored (Nat.le_refl _) value⟩

theorem read_of_lookup {slots : Listing.Slots} {slot : Nat} {value : Value}
    (found : slots.lookup slot = some value) : Listing.read slots slot = pure value := by
  rw [Listing.read, found]

theorem mirrors_cons {slots : Listing.Slots} {slot : Nat} {stack : List Nat}
    {values : List Value} (mirrored : Mirrors slots (slot :: stack) values) :
    ∃ value rest, values = value :: rest ∧ slot = stack.length ∧
      slots.lookup slot = some value ∧ Mirrors slots stack rest := by
  cases values with
  | nil => exact False.elim mirrored
  | cons value rest => exact ⟨value, rest, rfl, mirrored⟩

theorem pop_gives {state popped : State} {slot : Nat} (taken : state.pop = .ok (slot, popped)) :
    state.stack = slot :: popped.stack ∧ popped.statements = state.statements ∧
      popped.constants = state.constants := by
  rw [State.pop] at taken
  cases shape : state.stack with
  | nil => simp [shape] at taken
  | cons top rest =>
      rw [shape] at taken
      cases taken
      exact ⟨rfl, rfl, rfl⟩

-- A listing keeps the constants of a table, none of which goes by the name of the listing.
structure Serves (listing : Listing) (constants : Constants) : Prop where
  extendsTable : Constants.Extends listing.constants constants
  apart : listing.name ∉ listing.constants.keys

theorem call_constant {listing : Listing} {constants : Constants} {label : String}
    {constant : Constant} (serves : Serves listing constants)
    (found : constants.lookup label = some constant) (world : World) (caller itself : Caller)
    (arguments : List Value) :
    listing.callConstant world caller itself label arguments =
      constant.call world caller arguments := by
  have kept := serves.extendsTable label constant found
  have differs : label ≠ listing.name := by
    intro same
    exact serves.apart (same ▸ Entries.mem_keys_of_lookup kept)
  rw [Listing.callConstant, if_neg differs, kept]

-- An instruction and its statements do the same, after which the slots mirror the stack.
def Agrees (machine : StackMachine) (instruction : Instruction) (values : List Value)
    (written : Run Listing.Slots) (stack : List Nat) : Prop :=
  ∃ (effect : Run Unit) (nextSlots : Listing.Slots) (nextValues : List Value),
    Mirrors nextSlots stack nextValues ∧
    written = (effect >>= fun _ => pure nextSlots) ∧
    machine.perform instruction values = (StackMachine.act effect >>= fun _ =>
      pure (if instruction.isReturn then none else some nextValues))

-- What lowering one instruction does to the state of lowering.
structure Refines (machine : StackMachine) (instruction : Instruction) (state next : State)
    (emitted : List Statement) : Prop where
  statements : next.statements = state.statements ++ emitted
  numbered : next.constants.Numbered
  grows : Constants.Extends next.constants state.constants
  agrees : ∀ (listing : Listing) (itself : Caller) (slots : Listing.Slots) (values : List Value),
    Serves listing next.constants → Mirrors slots state.stack values →
    Agrees machine instruction values
      (emitted.foldlM (listing.perform machine.world machine.caller itself machine.arguments) slots)
      next.stack

section Step

variable {machine : StackMachine} {state next : State}

theorem load_refines (numbered : state.constants.Numbered) {index : Int} (atLeast : 0 ≤ index)
    (below : index < machine.arguments.length) :
    Refines machine (.loadArgument index) state
      (state.push.write (.load state.nextSlot index.toNat))
      [.load state.nextSlot index.toNat] where
  statements := rfl
  numbered := numbered
  grows := Constants.extends_refl _
  agrees := by
    intro listing itself slots values _ mirrored
    have inside : index.toNat < machine.arguments.length := by omega
    have given := List.getElem?_eq_getElem inside
    refine ⟨pure (), _, _, mirrors_push mirrored machine.arguments[index.toNat], ?_, ?_⟩
    · simp only [List.foldlM_cons, List.foldlM_nil, Listing.perform, Listing.readArgument, given,
        pure_bind, bind_pure]
      rfl
    · simp only [StackMachine.perform, atLeast, if_true, given, StackMachine.act_pure, pure_bind]
      rfl

theorem check_refines (numbered : state.constants.Numbered) {popped : State} {source : Nat}
    (taken : state.pop = .ok (source, popped)) {conversion : Conversion}
    {instruction : Instruction} (checks : ∀ value rest,
      machine.perform instruction (value :: rest) =
        (StackMachine.act (conversion.apply machine.world machine.caller value) >>= fun _ =>
          pure (some (value :: rest))))
    (goesOn : instruction.isReturn = false) :
    ∃ emitted, Refines machine instruction state (popped.check conversion source) emitted := by
  obtain ⟨shape, before, table⟩ := pop_gives taken
  rw [← table] at numbered
  refine ⟨[.check popped.stack.length
    (popped.constants.nextName (Constant.conversionHint conversion)) source], ?_, ?_, ?_, ?_⟩
  · rw [← before]
    rfl
  · exact Constants.add_numbered numbered (Constants.conversion_hint_listed conversion) _
  · rw [← table]
    exact Constants.add_extends numbered _ _
  · intro listing itself slots values serves mirrored
    rw [shape] at mirrored
    obtain ⟨value, rest, rfl, _, held, below⟩ := mirrors_cons mirrored
    refine ⟨conversion.apply machine.world machine.caller value >>= fun _ => pure (), _, _,
      mirrors_push below value, ?_, ?_⟩
    · have called := call_constant serves (Constants.lookup_added popped.constants
        (Constant.conversionHint conversion) (.conversion conversion)) machine.world
        machine.caller itself [value]
      simp only [List.foldlM_cons, List.foldlM_nil, bind_pure, Listing.perform,
        read_of_lookup held, pure_bind, bind_assoc]
      rw [called]
      exact Conversion.apply_then _ _ _ _ _
    · rw [checks, goesOn, StackMachine.act_bind, bind_assoc]
      rfl

theorem erased_refines (numbered : state.constants.Numbered) {popped : State} {source : Nat}
    (taken : state.pop = .ok (source, popped)) {target : TypeForm}
    (erased : machine.known.conversionFor target false = .ok none) :
    Refines machine (.unboxAny target) state popped.push [] := by
  obtain ⟨shape, before, table⟩ := pop_gives taken
  refine ⟨?_, ?_, ?_, ?_⟩
  · rw [List.append_nil]
    exact before
  · rw [← table] at numbered
    exact numbered
  · intro label constant found
    rw [← table] at found
    exact found
  · intro listing itself slots values _ mirrored
    rw [shape] at mirrored
    obtain ⟨value, rest, rfl, depth, held, below⟩ := mirrors_cons mirrored
    subst depth
    refine ⟨pure (), slots, value :: rest, ⟨rfl, held, below⟩, ?_, ?_⟩
    · rfl
    · simp only [StackMachine.perform, erased, Conversion.applyOptional, StackMachine.act_pure,
        pure_bind]
      rfl

theorem write_refines (numbered : state.constants.Numbered) {rest popped : State}
    {target source : Nat} (taken : state.pop = .ok (source, rest))
    (takenBelow : rest.pop = .ok (target, popped)) {hint : String}
    (kind : hint ∈ Constants.hints) {constant : Constant} {statement : Statement}
    {instruction : Instruction} {effect : Value → Value → Run Unit}
    (written : ∀ (listing : Listing) (itself : Caller) (slots : Listing.Slots)
      (object content : Value), Serves listing (popped.constants.add hint constant).2 →
      slots.lookup target = some object → slots.lookup source = some content →
      listing.perform machine.world machine.caller itself machine.arguments slots statement =
        (effect object content >>= fun _ => pure slots))
    (acts : ∀ object content below, machine.perform instruction (content :: object :: below) =
      (StackMachine.act (effect object content) >>= fun _ => pure (some below)))
    (goesOn : instruction.isReturn = false) :
    Refines machine instruction state ((popped.addConstant hint constant).2.write statement)
      [statement] := by
  obtain ⟨shape, before, table⟩ := pop_gives taken
  obtain ⟨shapeBelow, beforeBelow, tableBelow⟩ := pop_gives takenBelow
  rw [← table, ← tableBelow] at numbered
  refine ⟨?_, ?_, ?_, ?_⟩
  · rw [← before, ← beforeBelow]
    rfl
  · exact Constants.add_numbered numbered kind _
  · rw [← table, ← tableBelow]
    exact Constants.add_extends numbered _ _
  · intro listing itself slots values serves mirrored
    rw [shape, shapeBelow] at mirrored
    obtain ⟨content, others, rfl, _, contentHeld, mirrored⟩ := mirrors_cons mirrored
    obtain ⟨object, below, rfl, _, objectHeld, mirrored⟩ := mirrors_cons mirrored
    refine ⟨effect object content, slots, below, mirrored, ?_, ?_⟩
    · simp only [List.foldlM_cons, List.foldlM_nil, bind_pure]
      exact written listing itself slots object content serves objectHeld contentHeld
    · rw [acts, goesOn]
      rfl

theorem return_refines (numbered : state.constants.Numbered) (emptied : state.stack = []) :
    Refines machine .ret state (state.write .finish) [.finish] where
  statements := rfl
  numbered := numbered
  grows := Constants.extends_refl _
  agrees := by
    intro listing itself slots values _ mirrored
    rw [emptied] at mirrored
    cases values with
    | cons value rest => exact False.elim mirrored
    | nil =>
        refine ⟨pure (), slots, [], ?_, rfl, rfl⟩
        rw [State.write, emptied]
        trivial

theorem step_refines (numbered : state.constants.Numbered) {instruction : Instruction}
    (lowered : step machine.known machine.arguments.length state instruction = .ok next) :
    ∃ emitted, Refines machine instruction state next emitted := by
  cases instruction with
  | loadArgument index =>
      rw [step] at lowered
      by_cases inside : 0 ≤ index ∧ index < machine.arguments.length
      · rw [if_pos inside] at lowered
        cases lowered
        exact ⟨_, load_refines numbered inside.1 inside.2⟩
      · rw [if_neg inside] at lowered
        cases lowered
  | castClass target =>
      obtain ⟨⟨source, popped⟩, taken, checked⟩ := ok_of_bind lowered
      cases checked
      exact check_refines numbered taken (fun _ _ => rfl) rfl
  | unboxAny target =>
      obtain ⟨⟨source, popped⟩, taken, checked⟩ := ok_of_bind lowered
      cases found : machine.known.conversionFor target false with
      | error fault => simp [found] at checked
      | ok conversion =>
          simp only [found] at checked
          cases conversion with
          | none =>
              cases checked
              exact ⟨[], erased_refines numbered taken found⟩
          | some conversion =>
              cases checked
              refine check_refines numbered taken ?_ rfl
              intro value rest
              simp only [StackMachine.perform, found]
              rfl
  | storeField member =>
      obtain ⟨⟨source, rest⟩, taken, below⟩ := ok_of_bind lowered
      obtain ⟨⟨target, popped⟩, takenBelow, stored⟩ := ok_of_bind below
      cases stored
      refine ⟨_, write_refines numbered taken takenBelow (by simp [Constants.hints]) ?_
        (fun _ _ _ => rfl) rfl⟩
      intro listing itself slots object content serves objectHeld contentHeld
      simp only [Listing.perform, read_of_lookup objectHeld, read_of_lookup contentHeld,
        pure_bind, call_constant serves (Constants.lookup_added _ _ _), Constant.call, bind_assoc]
  | callSetter member =>
      obtain ⟨⟨source, rest⟩, taken, below⟩ := ok_of_bind lowered
      obtain ⟨⟨target, popped⟩, takenBelow, stored⟩ := ok_of_bind below
      cases member with
      | property details =>
          cases stored
          refine ⟨_, write_refines numbered taken takenBelow (by simp [Constants.hints]) ?_
        (fun _ _ _ => rfl) rfl⟩
          intro listing itself slots object content serves objectHeld contentHeld
          simp only [Listing.perform, read_of_lookup objectHeld, read_of_lookup contentHeld,
            pure_bind, call_constant serves (Constants.lookup_added _ _ _), Constant.call,
            bind_assoc]
      | method details => cases stored
      | field details => cases stored
      | bare declaring name => cases stored
  | ret =>
      rw [step] at lowered
      by_cases emptied : state.stack.isEmpty = true
      · rw [if_pos emptied] at lowered
        cases lowered
        exact ⟨_, return_refines numbered (List.isEmpty_iff.mp emptied)⟩
      · rw [if_neg emptied] at lowered
        cases lowered
  | bare => cases lowered

end Step

theorem serves_earlier {listing : Listing} {later earlier : Constants}
    (serves : Serves listing later) (grows : Constants.Extends later earlier) :
    Serves listing earlier :=
  ⟨Constants.extends_trans serves.extendsTable grows, serves.apart⟩

theorem steps_after_return {world : World} {program : Program} {offset : Nat}
    {state final : State} {instructions : List Instruction}
    (lowered : steps world program offset true state instructions = .ok final) :
    instructions = [] ∧ final = state := by
  cases instructions with
  | nil =>
      cases lowered
      exact ⟨rfl, rfl⟩
  | cons instruction rest => cases lowered

theorem steps_refine (machine : StackMachine) {program : Program}
    (count : program.parameterCount = machine.arguments.length) {instructions : List Instruction}
    {offset : Nat} {state final : State} (numbered : state.constants.Numbered)
    (lowered : steps machine.known program offset false state instructions = .ok final) :
    ∃ emitted, final.statements = state.statements ++ emitted ∧ final.constants.Numbered ∧
      Constants.Extends final.constants state.constants ∧
      ∀ (listing : Listing) (itself : Caller) (slots : Listing.Slots) (values : List Value),
        Serves listing final.constants → Mirrors slots state.stack values →
        StackMachine.act (emitted.foldlM
          (listing.perform machine.world machine.caller itself machine.arguments) slots >>=
            fun _ => pure Value.none) = machine.run instructions values := by
  -- the slots mirror the stack before each instruction; constants added later keep the meaning of
  -- the ones that its statements call
  induction instructions generalizing offset state with
  | nil => cases lowered
  | cons instruction rest ih =>
      simp only [steps, Bool.false_eq_true, if_false, count] at lowered
      cases stepped : step machine.known machine.arguments.length state instruction with
      | error fault => simp [stepped] at lowered
      | ok next =>
          simp only [stepped] at lowered
          obtain ⟨first, refines⟩ := step_refines numbered stepped
          cases last : instruction.isReturn with
          | true =>
              rw [last] at lowered
              obtain ⟨rfl, rfl⟩ := steps_after_return lowered
              refine ⟨first, refines.statements, refines.numbered, refines.grows, ?_⟩
              intro listing itself slots values serves mirrored
              obtain ⟨effect, nextSlots, nextValues, _, written, acted⟩ :=
                refines.agrees listing itself slots values serves mirrored
              rw [written, StackMachine.run, acted, last, bind_assoc, bind_assoc,
                StackMachine.act_bind]
              rfl
          | false =>
              rw [last] at lowered
              obtain ⟨later, statements, named, grows, agrees⟩ := ih refines.numbered lowered
              refine ⟨first ++ later, ?_, named, Constants.extends_trans grows refines.grows, ?_⟩
              · rw [statements, refines.statements, List.append_assoc]
              · intro listing itself slots values serves mirrored
                obtain ⟨effect, nextSlots, nextValues, mirrored, written, acted⟩ :=
                  refines.agrees listing itself slots values (serves_earlier serves grows) mirrored
                rw [List.foldlM_append, written, StackMachine.run, acted, last, bind_assoc,
                  bind_assoc, bind_assoc, StackMachine.act_bind]
                simp only [pure_bind]
                congr 1
                funext _
                exact agrees listing itself nextSlots nextValues serves mirrored

end Lowering

namespace Listing

theorem run_from_plain (listing : Listing) (world : World) (caller itself : Caller)
    (arguments : List Value) (line : Nat) (slots : Slots) (statements : List Statement) :
    LocatedRun.plain (listing.runFrom world caller itself arguments line slots statements) =
      (statements.foldlM (listing.perform world caller itself arguments) slots >>=
        fun _ => pure Value.none) := by
  induction statements generalizing line slots with
  | nil => rfl
  | cons statement rest ih =>
      rw [runFrom, List.foldlM_cons, bind_assoc, LocatedRun.plain_bind,
        LocatedRun.plain_on_line]
      congr 1
      funext next
      exact ih (line + 1) next

theorem parameters_distinct (listing : Listing) : listing.parameters.Nodup := by
  apply List.pairwise_map.mpr
  apply List.nodup_range.imp
  intro first second apart same
  exact apart (Nat.repr_injective (String.append_right_inj _ |>.mp same))

theorem call_within_plain {listing : Listing} {arguments : List Value}
    (filled : arguments.length = listing.parameterCount) (world : World) (caller : Caller)
    (depth : Nat) : ∃ itself : Caller,
      LocatedRun.plain (listing.callWithin world caller (depth + 1) arguments []) =
        (listing.statements.foldlM (listing.perform world caller itself arguments) [] >>=
          fun _ => pure Value.none) := by
  have matched : arguments.length = listing.parameters.length := by
    rw [filled, parameters, List.length_map, List.length_range]
  have bound : Binding.bind listing.formals arguments [] =
      .ok (listing.parameters.zip arguments) :=
    Binding.bind_named listing.parameters_distinct matched
  rw [callWithin, bound]
  simp only [List.map_snd_zip (Nat.le_of_eq matched)]
  exact ⟨_, run_from_plain _ _ _ _ _ _ _ _⟩

end Listing

namespace Program

theorem lower_gives {known : World} {program : Program} {listing : Listing}
    (lowered : program.lower known = .ok listing) :
    ∃ final, Lowering.steps known program 0 false .empty program.instructions = .ok final ∧
      listing = ⟨Identifier.squash program.name, program.parameterCount, final.statements,
        final.constants⟩ := by
  obtain ⟨final, stepped, made⟩ := ok_of_bind lowered
  exact ⟨final, stepped, (Except.ok.inj made).symm⟩

theorem lower_numbered {known : World} {program : Program} {listing : Listing}
    (lowered : program.lower known = .ok listing) : listing.constants.Numbered := by
  obtain ⟨final, stepped, rfl⟩ := lower_gives lowered
  -- the constants do not hang on what the program runs with
  have count : program.parameterCount =
      (List.replicate program.parameterCount Value.none).length := List.length_replicate.symm
  obtain ⟨_, _, numbered, _, _⟩ := Lowering.steps_refine
    ⟨known, known, known.call 0, List.replicate program.parameterCount .none⟩ count
    Constants.numbered_empty stepped
  exact numbered

theorem call_lowered {known : World} {program : Program} {listing : Listing}
    (lowered : program.lower known = .ok listing)
    (apart : listing.name ∉ listing.constants.keys) {arguments : List Value}
    (filled : arguments.length = program.parameterCount) (world : World) :
    StackMachine.act (listing.call world arguments).plain =
      StackMachine.run ⟨known, world, world.call World.callLimit, arguments⟩
        program.instructions [] := by
  obtain ⟨final, stepped, made⟩ := lower_gives lowered
  have takes : listing.parameterCount = program.parameterCount := by rw [made]
  have keeps : listing.constants = final.constants := by rw [made]
  have written : listing.statements = final.statements := by rw [made]
  obtain ⟨emitted, statements, _, _, agrees⟩ := Lowering.steps_refine
    ⟨known, world, world.call World.callLimit, arguments⟩ filled.symm
    Constants.numbered_empty stepped
  have serves : Lowering.Serves listing final.constants :=
    ⟨keeps ▸ Constants.extends_refl _, apart⟩
  obtain ⟨itself, called⟩ := Listing.call_within_plain (filled.trans takes.symm) world
    (world.call World.callLimit) 999
  have same := agrees listing itself [] [] serves trivial
  rw [← same, ← List.nil_append emitted]
  exact congrArg StackMachine.act (statements ▸ written ▸ called)

-- A loaded listing gives what the machine gives: the same value or failure, and from every
-- store the same store after it, in which the trace of calls is.
theorem loaded_runs_as_machine {known : World} {program : Program} {listing : Listing}
    {fileName : String} {thunk : Thunk} (lowered : program.lower known = .ok listing)
    (loaded : (Code.listing listing).load fileName = .ok thunk)
    (apart : listing.name ∉ listing.constants.keys) {arguments : List Value}
    (filled : arguments.length = program.parameterCount) (world : World) :
    StackMachine.act (thunk.call world arguments).plain =
      StackMachine.run ⟨known, world, world.call World.callLimit, arguments⟩
        program.instructions [] := by
  obtain ⟨_, _, made⟩ := ok_of_bind loaded
  cases made
  exact call_lowered lowered apart filled world

-- Two writes whose operands are on the stack together, with a check that is erased.
def twoWrites : Program :=
  ⟨"two writes", 2, [.loadArgument 1, .loadArgument 0, .unboxAny (.cls .object), .loadArgument 1,
    .unboxAny (.cls (.builtin .int)), .storeField (.field ⟨.object, "x", .cls (.builtin .int)⟩),
    .castClass (.cls (.builtin .int)), .loadArgument 0,
    .callSetter (.property ⟨.builtin .int, "y", .none, none, none⟩), .ret]⟩

def twoWritesListing : Listing :=
  ⟨"two_writes", 2, [.load 0 1, .load 1 0, .load 2 1, .check 2 "unbox_0" 2,
    .store "store_1" 1 "x" 2, .check 0 "cast_2" 0, .load 1 0, .set "setter_3" 0 1, .finish],
    [("unbox_0", .conversion (.unbox (.cls (.builtin .int)) false)), ("store_1", .directSet),
      ("cast_2", .conversion (.cast (.cls (.builtin .int)) false)),
      ("setter_3", .setter ⟨.text "y", none⟩)]⟩

theorem two_writes_run_as_machine :
    twoWrites.lower .empty = .ok twoWritesListing ∧
    (Code.listing twoWritesListing).load "writes.py" =
      .ok ⟨.listing twoWritesListing, "writes.py"⟩ ∧
    twoWritesListing.name ∉ twoWritesListing.constants.keys ∧
    [Value.int 1, Value.int 2].length = twoWrites.parameterCount ∧
    StackMachine.act (Thunk.call ⟨.listing twoWritesListing, "writes.py"⟩ .empty
      [.int 1, .int 2]).plain =
        StackMachine.run ⟨.empty, .empty, World.empty.call World.callLimit, [.int 1, .int 2]⟩
          twoWrites.instructions [] := by
  have lowered : twoWrites.lower .empty = .ok twoWritesListing := rfl
  have loaded : (Code.listing twoWritesListing).load "writes.py" =
      .ok ⟨.listing twoWritesListing, "writes.py"⟩ := rfl
  have apart : twoWritesListing.name ∉ twoWritesListing.constants.keys := by decide
  exact ⟨lowered, loaded, apart, rfl, loaded_runs_as_machine lowered loaded apart rfl .empty⟩

end Program

end MemberThunks
