import Mathlib.Data.List.Forall2
import Mathlib.Data.List.Induction
import Mathlib.Data.List.Nodup
import MemberThunks.Proofs.ProgramNames

set_option autoImplicit false

/- Slots and constants. However long a program is, lowering keeps its slots in order: the stack
   holds the slots from the first on, each assigned by a line that has been written, and a line
   reads only what is there by then. Every constant of the table is called by one line, which is
   the line of the instruction that the constant was made for. So a listing that is called fails
   for its arguments, or in one of its constants, or in a call of itself, but never for a slot or
   a name that is not there. -/
namespace MemberThunks

namespace Statement

def argument? : Statement → Option Nat
  | load _ index => some index
  | check .. | store .. | set .. | finish => none

def assigned? : Statement → Option Nat
  | load slot _ | check slot _ _ => some slot
  | store .. | set .. | finish => none

def slotsRead : Statement → List Nat
  | load .. | finish => []
  | check _ _ source => [source]
  | store _ target _ source | set _ target source => [target, source]

-- The slots that some statements assign.
def assigned (statements : List Statement) : List Nat := statements.filterMap assigned?

theorem assigned_snoc (statements : List Statement) (statement : Statement) :
    assigned (statements ++ [statement]) =
      assigned statements ++ statement.assigned?.toList := by
  rw [assigned, List.filterMap_append, assigned]
  cases assigns : statement.assigned? <;> simp [assigns]

-- A statement reads arguments that there are, slots that earlier statements assign, and
-- constants of a table.
structure InScope (count : Nat) (labels : List String) (earlier : List Statement)
    (statement : Statement) : Prop where
  argument : ∀ index, statement.argument? = some index → index < count
  slots : ∀ slot ∈ statement.slotsRead, slot ∈ assigned earlier
  constant : ∀ label, statement.constant? = some label → label ∈ labels

theorem in_scope_mono {count : Nat} {labels more : List String} {earlier : List Statement}
    {statement : Statement} (inScope : statement.InScope count labels earlier)
    (among : ∀ label ∈ labels, label ∈ more) : statement.InScope count more earlier where
  argument := inScope.argument
  slots := inScope.slots
  constant label calls := among label (inScope.constant label calls)

end Statement

namespace Lowering

-- The prefixes of programs that are lowered without a fault, and the states they lead to.
inductive Reached (known : World) (count : Nat) : List Instruction → State → Prop where
  | start : Reached known count [] .empty
  | next {before : List Instruction} {instruction : Instruction} {state after : State}
      (reached : Reached known count before state) (unreturned : .ret ∉ before)
      (stepped : step known count state instruction = .ok after) :
      Reached known count (before ++ [instruction]) after

-- Whether an instruction is written down. A conversion that accepts every value is left out.
def writes (known : World) : Instruction → Bool
  | .unboxAny target =>
    match known.conversionFor target false with
    | .ok none => false
    | _ => true
  | _ => true

-- The statement of an instruction, with the constant that the instruction was given.
inductive Line (known : World) (constants : Constants) : Instruction → Statement → Prop where
  | load (index : Int) (slot : Nat) : Line known constants (.loadArgument index)
      (.load slot index.toNat)
  | cast {target : TypeForm} {label : String} (slot source : Nat)
      (bound : constants.lookup label = some (.conversion (.cast target false))) :
      Line known constants (.castClass target) (.check slot label source)
  | unbox {target : TypeForm} {conversion : Conversion} {label : String} (slot source : Nat)
      (converts : known.conversionFor target false = .ok (some conversion))
      (bound : constants.lookup label = some (.conversion conversion)) :
      Line known constants (.unboxAny target) (.check slot label source)
  | store {member : Member} {label : String} (target source : Nat)
      (bound : constants.lookup label = some .directSet) :
      Line known constants (.storeField member) (.store label target member.name source)
  | set {details : PropertyMember} {label : String} (target source : Nat)
      (bound : constants.lookup label = some (.setter (.ofProperty details))) :
      Line known constants (.callSetter (.property details)) (.set label target source)
  | finish : Line known constants .ret .finish

-- A stack of all slots below its height, each of which is assigned.
structure Stacked (stack : List Nat) (statements : List Statement) : Prop where
  ordered : stack.reverse = List.range stack.length
  filled : ∀ slot ∈ stack, slot ∈ Statement.assigned statements

-- The table is as it was, or has one more constant, which is the one that a statement calls.
structure Tabled (before after : Constants) (statement : Statement) : Prop where
  keys : after.keys = before.keys ++ statement.constant?.toList
  fresh : ∀ label, statement.constant? = some label → label ∉ before.keys
  numbered : after.Numbered
  grows : Constants.Extends after before

-- The discipline of what has been lowered. The slots on the stack are those below its height,
-- which is the one that the instructions declare; the lines stand for the instructions one by
-- one; and the constants are those that the lines call, in their order.
structure Kept (known : World) (count : Nat) (before : List Instruction) (state : State) :
    Prop where
  depth : (state.stack.length : Int) = Instruction.height before
  stacked : Stacked state.stack state.statements
  inScope : ∀ earlier statement later, state.statements = earlier ++ statement :: later →
    statement.InScope count state.constants.keys earlier
  lines : List.Forall₂ (Line known state.constants) (before.filter (writes known))
    state.statements
  called : state.statements.filterMap Statement.constant? = state.constants.keys
  distinct : state.constants.keys.Nodup
  numbered : state.constants.Numbered

-- What writing down an instruction does to the state.
structure Written (known : World) (count : Nat) (instruction : Instruction) (state next : State)
    (statement : Statement) : Prop where
  statements : next.statements = state.statements ++ [statement]
  stacked : Stacked next.stack next.statements
  tabled : Tabled state.constants next.constants statement
  inScope : statement.InScope count next.constants.keys state.statements
  line : Line known next.constants instruction statement

section Parts

variable {known : World} {stack : List Nat} {statements : List Statement} {statement : Statement}

theorem stacked_push (stacked : Stacked stack statements)
    (assigns : statement.assigned? = some stack.length) :
    Stacked (stack.length :: stack) (statements ++ [statement]) where
  ordered := by
    rw [List.reverse_cons, stacked.ordered, List.length_cons, List.range_succ]
  filled := by
    intro slot held
    rw [Statement.assigned_snoc, assigns, List.mem_append]
    rcases List.mem_cons.mp held with rfl | below
    · exact .inr (List.mem_singleton.mpr rfl)
    · exact .inl (stacked.filled slot below)

theorem stacked_write (stacked : Stacked stack statements) (statement : Statement) :
    Stacked stack (statements ++ [statement]) where
  ordered := stacked.ordered
  filled := by
    intro slot held
    rw [Statement.assigned_snoc]
    exact List.mem_append_left _ (stacked.filled slot held)

theorem stacked_pop {slot : Nat} (stacked : Stacked (slot :: stack) statements) :
    slot = stack.length ∧ slot ∈ Statement.assigned statements ∧ Stacked stack statements := by
  have ordered := stacked.ordered
  rw [List.reverse_cons, List.length_cons, List.range_succ] at ordered
  obtain ⟨below, top⟩ := List.append_inj' ordered rfl
  exact ⟨(List.cons.inj top).1, stacked.filled slot List.mem_cons_self, below, fun other held =>
    stacked.filled other (List.mem_cons_of_mem slot held)⟩

theorem tabled_same {constants : Constants} (numbered : constants.Numbered)
    (silent : statement.constant? = none) : Tabled constants constants statement where
  keys := by rw [silent, Option.toList_none, List.append_nil]
  fresh label calls := by cases silent.symm.trans calls
  numbered := numbered
  grows := Constants.extends_refl constants

theorem tabled_add {constants : Constants} (numbered : constants.Numbered) {hint : String}
    (kind : hint ∈ Constants.hints) (constant : Constant)
    (calls : statement.constant? = some (constants.nextName hint)) :
    Tabled constants (constants.add hint constant).2 statement where
  keys := by
    rw [calls, Constants.add_appends numbered, Entries.keys, List.map_append]
    rfl
  fresh label called := by
    cases calls.symm.trans called
    exact Constants.next_name_fresh numbered hint
  numbered := Constants.add_numbered numbered kind constant
  grows := Constants.add_extends numbered hint constant

theorem line_grows {later earlier : Constants} (grows : Constants.Extends later earlier)
    {instruction : Instruction} (line : Line known earlier instruction statement) :
    Line known later instruction statement := by
  cases line with
  | load index slot => exact .load index slot
  | cast slot source bound => exact .cast slot source (grows _ _ bound)
  | unbox slot source converts bound => exact .unbox slot source converts (grows _ _ bound)
  | store target source bound => exact .store target source (grows _ _ bound)
  | set target source bound => exact .set target source (grows _ _ bound)
  | finish => exact .finish

theorem writes_of_line {constants : Constants} {instruction : Instruction}
    (line : Line known constants instruction statement) : writes known instruction = true := by
  cases line with
  | unbox slot source converts bound => rw [writes, converts]
  | _ => rfl

end Parts

section Step

variable {known : World} {count : Nat} {state next popped : State}

theorem load_written (stacked : Stacked state.stack state.statements)
    (numbered : state.constants.Numbered) {index : Int} (atLeast : 0 ≤ index)
    (below : index < count) :
    Written known count (.loadArgument index) state
      (state.push.write (.load state.nextSlot index.toNat)) (.load state.nextSlot index.toNat) where
  statements := rfl
  stacked := stacked_push stacked rfl
  tabled := tabled_same numbered rfl
  inScope := {
    argument := fun given reads => by
      cases reads
      omega
    slots := fun _ reads => absurd reads List.not_mem_nil
    constant := fun _ calls => by cases calls }
  line := .load index state.nextSlot

theorem check_written (stacked : Stacked state.stack state.statements)
    (numbered : state.constants.Numbered) {source : Nat}
    (taken : state.pop = .ok (source, popped)) {instruction : Instruction}
    {conversion : Conversion} (stands : ∀ constants label slot,
      constants.lookup label = some (.conversion conversion) →
        Line known constants instruction (.check slot label source)) :
    Written known count instruction state (popped.check conversion source)
      (.check popped.nextSlot (popped.constants.nextName (Constant.conversionHint conversion))
        source) := by
  obtain ⟨shape, before, table⟩ := pop_gives taken
  obtain ⟨depth, held, below⟩ := stacked_pop (shape ▸ stacked)
  rw [← before] at held below
  rw [← table] at numbered
  have tabled : Tabled popped.constants _ (.check popped.nextSlot _ source) :=
    tabled_add numbered (Constants.conversion_hint_listed conversion) (.conversion conversion) rfl
  refine ⟨?_, stacked_push below rfl, table ▸ tabled, ⟨?_, ?_, ?_⟩, stands _ _ _ ?_⟩
  · rw [← before]
    rfl
  · intro index reads
    cases reads
  · intro slot reads
    rw [← before, List.mem_singleton.mp reads]
    exact held
  · intro label calls
    cases calls
    exact Entries.mem_keys_of_lookup (Constants.lookup_added _ _ _)
  · exact Constants.lookup_added _ _ _

-- Stores and setters take the two slots on top and leave none.
theorem put_written (stacked : Stacked state.stack state.statements)
    (numbered : state.constants.Numbered) {rest : State} {target source : Nat}
    (taken : state.pop = .ok (source, rest)) (takenBelow : rest.pop = .ok (target, popped))
    {instruction : Instruction} {hint : String} (kind : hint ∈ Constants.hints)
    {constant : Constant} {statement : Statement} (silent : statement.argument? = none)
    (reads : statement.slotsRead = [target, source])
    (calls : statement.constant? = some (popped.constants.nextName hint))
    (line : Line known (popped.constants.add hint constant).2 instruction statement) :
    Written known count instruction state
      ((popped.addConstant hint constant).2.write statement) statement := by
  obtain ⟨shape, before, table⟩ := pop_gives taken
  obtain ⟨shapeBelow, beforeBelow, tableBelow⟩ := pop_gives takenBelow
  obtain ⟨_, sourceHeld, stacked⟩ := stacked_pop (shape ▸ stacked)
  obtain ⟨_, targetHeld, stacked⟩ := stacked_pop (shapeBelow ▸ stacked)
  rw [← table, ← tableBelow] at numbered
  rw [← before, ← beforeBelow] at stacked
  have tabled := tabled_add numbered kind constant calls
  refine ⟨?_, stacked_write stacked statement, ?_, ⟨?_, ?_, ?_⟩, line⟩
  · rw [← before, ← beforeBelow]
    rfl
  · rw [← table, ← tableBelow]
    exact tabled
  · intro index given
    cases silent.symm.trans given
  · intro slot among
    rw [reads, List.mem_cons, List.mem_singleton] at among
    rcases among with rfl | rfl
    · exact targetHeld
    · exact sourceHeld
  · intro label called
    cases calls.symm.trans called
    exact Entries.mem_keys_of_lookup (Constants.lookup_added popped.constants hint constant)

theorem return_written (stacked : Stacked state.stack state.statements)
    (numbered : state.constants.Numbered) :
    Written known count .ret state (state.write .finish) .finish where
  statements := rfl
  stacked := stacked_write stacked .finish
  tabled := tabled_same numbered rfl
  inScope := {
    argument := fun _ reads => by cases reads
    slots := fun _ reads => absurd reads List.not_mem_nil
    constant := fun _ calls => by cases calls }
  line := .finish

-- Taking a slot off and putting one on gives the same slot.
theorem erased_same (stacked : Stacked state.stack state.statements) {source : Nat}
    (taken : state.pop = .ok (source, popped)) : popped.push = state := by
  obtain ⟨shape, before, table⟩ := pop_gives taken
  obtain ⟨depth, _, _⟩ := stacked_pop (shape ▸ stacked)
  cases state with
  | mk stack statements constants =>
      cases popped with
      | mk rest others table =>
          subst shape before table depth
          rfl

-- Lowering an instruction writes its line, or changes nothing.
theorem step_written (stacked : Stacked state.stack state.statements)
    (numbered : state.constants.Numbered) {instruction : Instruction}
    (stepped : step known count state instruction = .ok next) :
    (∃ statement, Written known count instruction state next statement) ∨
      (writes known instruction = false ∧ next = state) := by
  cases instruction with
  | loadArgument index =>
      rw [step] at stepped
      split at stepped
      · rename_i inside
        cases stepped
        exact .inl ⟨_, load_written stacked numbered inside.1 inside.2⟩
      · cases stepped
  | castClass target =>
      obtain ⟨⟨source, popped⟩, taken, checked⟩ := ok_of_bind stepped
      cases checked
      exact .inl ⟨_, check_written stacked numbered taken fun _ _ slot bound =>
        .cast slot source bound⟩
  | unboxAny target =>
      obtain ⟨⟨source, popped⟩, taken, checked⟩ := ok_of_bind stepped
      cases found : known.conversionFor target false with
      | error fault => simp [found] at checked
      | ok conversion =>
          simp only [found] at checked
          cases conversion with
          | none =>
              cases checked
              exact .inr ⟨by rw [writes, found], erased_same stacked taken⟩
          | some conversion =>
              cases checked
              exact .inl ⟨_, check_written stacked numbered taken fun _ _ slot bound =>
                .unbox slot source found bound⟩
  | storeField member =>
      obtain ⟨⟨source, rest⟩, taken, below⟩ := ok_of_bind stepped
      obtain ⟨⟨target, popped⟩, takenBelow, stored⟩ := ok_of_bind below
      cases stored
      exact .inl ⟨_, put_written stacked numbered taken takenBelow (by simp [Constants.hints]) rfl
        rfl rfl (.store target source (Constants.lookup_added _ _ _))⟩
  | callSetter member =>
      obtain ⟨⟨source, rest⟩, taken, below⟩ := ok_of_bind stepped
      obtain ⟨⟨target, popped⟩, takenBelow, stored⟩ := ok_of_bind below
      cases member with
      | property details =>
          cases stored
          exact .inl ⟨_, put_written stacked numbered taken takenBelow (by simp [Constants.hints])
            rfl rfl rfl (.set target source (Constants.lookup_added _ _ _))⟩
      | method details => cases stored
      | field details => cases stored
      | bare declaring name => cases stored
  | ret =>
      rw [step] at stepped
      split at stepped
      · cases stepped
        exact .inl ⟨_, return_written stacked numbered⟩
      · cases stepped
  | bare => cases stepped

end Step

section Prefixes

variable {known : World} {count : Nat} {before : List Instruction} {state next : State}

theorem kept_start : Kept known count [] .empty where
  depth := rfl
  stacked := ⟨rfl, fun _ held => absurd held List.not_mem_nil⟩
  inScope := by
    intro earlier statement later split
    cases earlier <;> cases split
  lines := .nil
  called := rfl
  distinct := List.nodup_nil
  numbered := Constants.numbered_empty

theorem kept_written (kept : Kept known count before state) {instruction : Instruction}
    {statement : Statement} (written : Written known count instruction state next statement)
    (depth : (next.stack.length : Int) = Instruction.height (before ++ [instruction])) :
    Kept known count (before ++ [instruction]) next where
  depth := depth
  stacked := written.stacked
  inScope := by
    intro earlier other later split
    rw [written.statements] at split
    rcases split_of_snoc split with ⟨rfl, rfl⟩ | ⟨middle, within⟩
    · exact written.inScope
    · refine Statement.in_scope_mono (kept.inScope earlier other middle within)
        fun label listed => ?_
      rw [written.tabled.keys]
      exact List.mem_append_left _ listed
  lines := by
    rw [List.filter_append, List.filter_cons, writes_of_line written.line, written.statements]
    exact List.rel_append (kept.lines.imp fun _ _ => line_grows written.tabled.grows)
      (.cons written.line .nil)
  called := by
    rw [written.statements, List.filterMap_append, kept.called, written.tabled.keys]
    cases calls : statement.constant? <;> simp [calls]
  distinct := by
    rw [written.tabled.keys, List.nodup_append]
    refine ⟨kept.distinct, ?_, fun label listed other called same => ?_⟩
    · cases statement.constant? <;> simp
    · exact written.tabled.fresh other (Option.mem_toList.mp called) (same ▸ listed)
  numbered := written.tabled.numbered

theorem kept_erased (kept : Kept known count before state) {instruction : Instruction}
    (silent : writes known instruction = false)
    (depth : (state.stack.length : Int) = Instruction.height (before ++ [instruction])) :
    Kept known count (before ++ [instruction]) state where
  depth := depth
  stacked := kept.stacked
  inScope := kept.inScope
  lines := by
    rw [List.filter_append, List.filter_cons, silent]
    exact (List.append_nil _).symm ▸ kept.lines
  called := kept.called
  distinct := kept.distinct
  numbered := kept.numbered

theorem kept_of_reached (reached : Reached known count before state) :
    Kept known count before state := by
  induction reached with
  | start => exact kept_start
  | next reached unreturned stepped kept =>
      rename_i before instruction state after
      have verified :
          Verified known count before instruction (step known count state instruction) :=
        step_verified unreturned kept.depth instruction
      rw [stepped] at verified
      cases verified with
      | lowered _ _ depth =>
          rcases step_written kept.stacked kept.numbered stepped with ⟨_, written⟩ | ⟨silent, rfl⟩
          · exact kept_written kept written depth
          · exact kept_erased kept silent depth

-- Each constant is called by one statement.
theorem called_once (kept : Kept known count before state) {label : String}
    (listed : label ∈ state.constants.keys) :
    state.statements.countP (fun statement => statement.constant? == some label) = 1 := by
  have once := List.count_eq_one_of_mem kept.distinct listed
  rwa [← kept.called, List.count_filterMap] at once

-- Instructions either lead to a state from which whatever follows is lowered, or to a fault that
-- does not hang on what follows.
theorem reached_or_refused (known : World) (program : Program) (before : List Instruction) :
    (∃ state, Reached known program.parameterCount before state ∧
      ∀ rest, steps known program 0 false .empty (before ++ rest) =
        steps known program before.length (before.any Instruction.isReturn) state rest) ∨
    ∃ fault, ∀ rest, steps known program 0 false .empty (before ++ rest) = .error fault := by
  induction before using List.reverseRecOn with
  | nil => exact .inl ⟨.empty, .start, fun _ => rfl⟩
  | append_singleton before instruction ih =>
      rcases ih with ⟨state, reached, onward⟩ | ⟨fault, refused⟩
      · cases returned : before.any Instruction.isReturn with
        | true =>
            refine .inr ⟨faultAt known program before.length instruction (.stream .afterReturn),
              fun rest => ?_⟩
            rw [List.append_assoc, List.singleton_append, onward, returned]
            rfl
        | false =>
            have unreturned : .ret ∉ before := by
              intro among
              have found : before.any Instruction.isReturn = true :=
                List.any_eq_true.mpr ⟨.ret, among, rfl⟩
              cases returned.symm.trans found
            cases stepped : step known program.parameterCount state instruction with
            | error fault =>
                refine .inr ⟨faultAt known program before.length instruction fault,
                  fun rest => ?_⟩
                rw [List.append_assoc, List.singleton_append, onward, returned]
                simp [steps, stepped]
            | ok next =>
                refine .inl ⟨next, .next reached unreturned stepped, fun rest => ?_⟩
                rw [List.append_assoc, List.singleton_append, onward, returned, List.any_append,
                  returned, List.length_append]
                simp [steps, stepped]
      · refine .inr ⟨fault, fun rest => ?_⟩
        rw [List.append_assoc]
        exact refused _

end Prefixes

end Lowering

theorem Program.lower_reaches {known : World} {program : Program} {listing : Listing}
    (lowered : program.lower known = .ok listing) :
    ∃ state, Lowering.Reached known program.parameterCount program.instructions state ∧
      listing = ⟨Identifier.squash program.name, program.parameterCount, state.statements,
        state.constants⟩ := by
  obtain ⟨final, stepped, made⟩ := lower_gives lowered
  rw [← List.append_nil program.instructions] at stepped
  rcases Lowering.reached_or_refused known program program.instructions with
    ⟨state, reached, onward⟩ | ⟨fault, refused⟩
  · rw [onward, Lowering.steps] at stepped
    split at stepped
    · cases stepped
      exact ⟨final, reached, made⟩
    · cases stepped
  · cases (refused []).symm.trans stepped

namespace Listing

-- Every statement reads what is there by then.
def InScope (listing : Listing) : Prop :=
  ∀ earlier statement later, listing.statements = earlier ++ statement :: later →
    statement.InScope listing.parameterCount listing.constants.keys earlier

-- What a statement gives to its constant, by what the slots hold.
def operands (held : Nat → Value) : Statement → List Value
  | .check _ _ source => [held source]
  | .store _ target field source => [held target, .text field, held source]
  | .set _ target source => [held target, held source]
  | .load .. | .finish => []

-- How a call of a listing fails: calls nest too deep, the arguments do not fit, a constant of the
-- table raises, or, where a constant has the name of the listing, a call of the listing itself
-- does.
inductive Blames (listing : Listing) (world : World) (caller : Caller) : Nat → Located → Prop where
  | tooDeep : Blames listing world caller 0 ⟨some firstLine, .tooDeep⟩
  | misfit {depth : Nat} {arguments : List Value} {keywords : Entries String Value}
      {fault : BindingFault} (unbound : Binding.bind listing.formals arguments keywords =
        .error fault) :
      Blames listing world caller (depth + 1) ⟨none, .binding listing.name fault⟩
  | constant {depth : Nat} {earlier later : List Statement} {statement : Statement}
      {label : String} {constant : Constant} {held : Nat → Value} {raised : Raised}
      (written : listing.statements = earlier ++ statement :: later)
      (calls : statement.constant? = some label) (apart : label ≠ listing.name)
      (bound : listing.constants.lookup label = some constant)
      (raises : Raises (constant.call world caller (operands held statement)) raised) :
      Blames listing world caller (depth + 1) ⟨some (firstLine + earlier.length), raised⟩
  | itself {depth : Nat} {earlier later : List Statement} {statement : Statement}
      {line : Option Nat} {raised : Raised}
      (written : listing.statements = earlier ++ statement :: later)
      (calls : statement.constant? = some listing.name)
      (inner : Blames listing world caller depth ⟨line, raised⟩) :
      Blames listing world caller (depth + 1) ⟨some (firstLine + earlier.length), raised⟩

-- Every slot that some statements assign has a value.
def Filled (slots : Slots) (earlier : List Statement) : Prop :=
  ∀ slot ∈ Statement.assigned earlier, ∃ value, slots.lookup slot = some value

theorem filled_put {slots : Slots} {earlier : List Statement} (filled : Filled slots earlier)
    {statement : Statement} {slot : Nat} (assigns : statement.assigned? = some slot)
    (value : Value) : Filled (slots.put slot value) (earlier ++ [statement]) := by
  intro other among
  by_cases same : other = slot
  · exact ⟨value, same ▸ Entries.lookup_put_self slot value slots⟩
  · rw [Statement.assigned_snoc, assigns, List.mem_append] at among
    rcases among with before | latest
    · obtain ⟨old, found⟩ := filled other before
      exact ⟨old, (Entries.lookup_put_of_ne same value slots).trans found⟩
    · exact absurd (List.mem_singleton.mp latest) same

theorem filled_write {slots : Slots} {earlier : List Statement} (filled : Filled slots earlier)
    {statement : Statement} (silent : statement.assigned? = none) :
    Filled slots (earlier ++ [statement]) := by
  intro slot among
  rw [Statement.assigned_snoc, silent, Option.toList_none, List.append_nil] at among
  exact filled slot among

section Runs

variable {listing : Listing} {world : World} {caller itself : Caller} {depth : Nat}
  {arguments : List Value} {slots : Slots} {earlier : List Statement} {statement : Statement}

theorem both_found {count : Nat} {labels : List String}
    (inScope : statement.InScope count labels earlier) (filled : Filled slots earlier)
    {target source : Nat} (reads : statement.slotsRead = [target, source]) :
    (∃ object, slots.lookup target = some object) ∧
      ∃ value, slots.lookup source = some value := by
  constructor
  · exact filled target (inScope.slots target (by simp [reads]))
  · exact filled source (inScope.slots source (by simp [reads]))

-- A statement in scope finds all it reads. It goes on at once, or as soon as its constant is done.
theorem perform_in_scope (world : World) (caller itself : Caller)
    (inScope : statement.InScope arguments.length listing.constants.keys earlier)
    (filled : Filled slots earlier) :
    (∃ next, listing.perform world caller itself arguments slots statement = pure next ∧
      Filled next (earlier ++ [statement])) ∨
    ∃ (label : String) (held : Nat → Value) (keep : Value → Slots),
      statement.constant? = some label ∧
      (∀ result, Filled (keep result) (earlier ++ [statement])) ∧
      listing.perform world caller itself arguments slots statement =
        keep <$> listing.callConstant world caller itself label (operands held statement) := by
  cases statement with
  | load slot index =>
      have inside : index < arguments.length := inScope.argument index rfl
      have given := List.getElem?_eq_getElem inside
      refine .inl ⟨slots.put slot arguments[index], ?_, filled_put filled rfl _⟩
      rw [perform, readArgument, given, pure_bind]
  | check slot label source =>
      obtain ⟨value, found⟩ := filled source (inScope.slots source (by simp [Statement.slotsRead]))
      refine .inr ⟨label, fun _ => value, slots.put slot, rfl, filled_put filled rfl, ?_⟩
      rw [perform, Lowering.read_of_lookup found, pure_bind, operands, map_eq_pure_bind]
  | store label target field source =>
      obtain ⟨⟨object, objectFound⟩, value, valueFound⟩ := both_found inScope filled rfl
      refine .inr ⟨label, fun slot => (slots.lookup slot).getD .none, fun _ => slots, rfl,
        fun _ => filled_write filled rfl, ?_⟩
      rw [perform, Lowering.read_of_lookup objectFound, Lowering.read_of_lookup valueFound,
        pure_bind, pure_bind, operands, objectFound, valueFound, map_eq_pure_bind]
      rfl
  | set label target source =>
      obtain ⟨⟨object, objectFound⟩, value, valueFound⟩ := both_found inScope filled rfl
      refine .inr ⟨label, fun slot => (slots.lookup slot).getD .none, fun _ => slots, rfl,
        fun _ => filled_write filled rfl, ?_⟩
      rw [perform, Lowering.read_of_lookup objectFound, Lowering.read_of_lookup valueFound,
        pure_bind, pure_bind, operands, objectFound, valueFound, map_eq_pure_bind]
      rfl
  | finish => exact .inl ⟨slots, rfl, filled_write filled rfl⟩

-- The calls of the listing itself that nest in a call are blamed one level below.
variable (nested : ∀ given raised, Raises (itself .none given []) raised →
  ∃ line, listing.Blames world caller depth ⟨line, raised⟩)

include nested in
theorem constant_blamed {later : List Statement} {label : String} {held : Nat → Value}
    {raised : Raised} (written : listing.statements = earlier ++ statement :: later)
    (calls : statement.constant? = some label) (listed : label ∈ listing.constants.keys)
    (raises : Raises
      (listing.callConstant world caller itself label (operands held statement)) raised) :
    listing.Blames world caller (depth + 1) ⟨some (firstLine + earlier.length), raised⟩ := by
  rw [callConstant] at raises
  split at raises
  · rename_i same
    obtain ⟨line, inner⟩ := nested _ _ raises
    exact .itself written (same ▸ calls) inner
  · rename_i apart
    obtain ⟨constant, bound⟩ := Option.isSome_iff_exists.mp (Binding.lookup_isSome_of_mem listed)
    rw [bound] at raises
    exact .constant written calls apart bound raises

include nested in
theorem run_blamed (inScope : listing.InScope)
    (count : arguments.length = listing.parameterCount) {rest : List Statement} {located : Located}
    (written : listing.statements = earlier ++ rest) (filled : Filled slots earlier)
    (raises : Raises (listing.runFrom world caller itself arguments (firstLine + earlier.length)
      slots rest) located) : listing.Blames world caller (depth + 1) located := by
  -- the statements before a line have filled every slot that it reads
  induction rest generalizing earlier slots with
  | nil => exact absurd raises raises_pure
  | cons statement rest ih =>
      have scope := count ▸ inScope earlier statement rest written
      have onward : listing.statements = (earlier ++ [statement]) ++ rest := by
        rw [written, List.append_assoc, List.singleton_append]
      have line : firstLine + earlier.length + 1 =
          firstLine + (earlier ++ [statement]).length := by
        rw [List.length_append, List.length_singleton, Nat.add_assoc]
      rw [runFrom, line] at raises
      rcases perform_in_scope world caller itself scope filled with
        ⟨next, performed, filled⟩ | ⟨label, held, keep, calls, filled, performed⟩
      · rw [performed] at raises
        exact ih onward filled raises
      · rw [performed] at raises
        rcases raises_bind raises with failed | ⟨next, yields, raises⟩
        · obtain ⟨raised, inner, rfl⟩ := raises_adapt failed
          exact constant_blamed nested written calls (scope.constant label calls)
            (raises_map inner)
        · obtain ⟨result, _, rfl⟩ := yields_map (yields_adapt yields)
          exact ih onward (filled result) raises

theorem bound_length {formals : List Formal} {arguments : List Value}
    {keywords bound : Entries String Value}
    (fits : Binding.bind formals arguments keywords = .ok bound) :
    bound.length = formals.length := by
  obtain ⟨taken, _, counted⟩ := ok_of_bind fits
  obtain ⟨_, _, complete⟩ := ok_of_bind counted
  obtain ⟨_, _, filled⟩ := ok_of_bind complete
  cases filled
  exact List.length_map _

theorem call_blamed (inScope : listing.InScope) {keywords : Entries String Value}
    {located : Located}
    (raises : Raises (listing.callWithin world caller depth arguments keywords) located) :
    listing.Blames world caller depth located := by
  induction depth generalizing arguments keywords located with
  | zero =>
      rw [raises_throw raises]
      exact .tooDeep
  | succ depth ih =>
      rw [callWithin] at raises
      cases fits : Binding.bind listing.formals arguments keywords with
      | error fault =>
          rw [fits] at raises
          rw [raises_throw raises]
          exact .misfit fits
      | ok bound =>
          rw [fits] at raises
          have count : (bound.map (·.2)).length = listing.parameterCount := by
            rw [List.length_map, bound_length fits, formals, List.length_map, parameters,
              List.length_map, List.length_range]
          have unassigned : Filled [] [] := fun _ assigned => absurd assigned List.not_mem_nil
          refine run_blamed ?_ inScope count rfl unassigned raises
          intro given raised fails
          obtain ⟨inner, failed, rfl⟩ := raises_adapt fails
          exact ⟨inner.line, ih failed⟩

-- What is no fault of a call is raised by a constant.
theorem constant_of_blamed {located : Located} (blamed : listing.Blames world caller depth located)
    (shallow : located.raised ≠ .tooDeep)
    (fits : ∀ fault, located.raised ≠ .binding listing.name fault) :
    ∃ label constant given, listing.constants.lookup label = some constant ∧
      Raises (constant.call world caller given) located.raised := by
  induction blamed with
  | tooDeep => exact absurd rfl shallow
  | misfit unbound => exact absurd rfl (fits _)
  | constant written calls apart bound raises => exact ⟨_, _, _, bound, raises⟩
  | itself written calls inner ih => exact ih shallow fits

end Runs

end Listing

theorem Program.lower_in_scope {known : World} {program : Program} {listing : Listing}
    (lowered : program.lower known = .ok listing) : listing.InScope := by
  obtain ⟨state, reached, rfl⟩ := lower_reaches lowered
  exact (Lowering.kept_of_reached reached).inScope

-- Lowering keeps the discipline of slots and constants at every prefix that it comes through,
-- whatever follows it. So a call of what it accepts finds every slot and every name: an error that
-- tells of one that is not there is an error of a constant.
theorem Program.lowering_keeps_slots (known : World) (program : Program) :
    (∀ before,
      (∃ state, Lowering.Reached known program.parameterCount before state ∧
        ∀ rest, Lowering.steps known program 0 false .empty (before ++ rest) =
          Lowering.steps known program before.length (before.any Instruction.isReturn) state
            rest) ∨
      ∃ fault, ∀ rest, Lowering.steps known program 0 false .empty (before ++ rest) =
        .error fault) ∧
    (∀ before state, Lowering.Reached known program.parameterCount before state →
      Lowering.Kept known program.parameterCount before state ∧
      ∀ label ∈ state.constants.keys,
        state.statements.countP (fun statement => statement.constant? == some label) = 1) ∧
    ∀ listing, program.lower known = .ok listing →
      (∃ state, Lowering.Reached known program.parameterCount program.instructions state ∧
        listing = ⟨Identifier.squash program.name, program.parameterCount, state.statements,
          state.constants⟩) ∧
      ∀ (world : World) (caller : Caller) (depth : Nat) (arguments : List Value)
        (keywords : Entries String Value) (located : Located),
        Raises (listing.callWithin world caller depth arguments keywords) located →
        listing.Blames world caller depth located ∧
        ((∃ slot, located.raised = .unassigned slot) ∨
            (∃ name, located.raised = .unknownName name) →
          ∃ label constant given, listing.constants.lookup label = some constant ∧
            Raises (constant.call world caller given) located.raised) := by
  refine ⟨Lowering.reached_or_refused known program, ?_, ?_⟩
  · intro before state reached
    have kept := Lowering.kept_of_reached reached
    exact ⟨kept, fun label listed => Lowering.called_once kept listed⟩
  · intro listing lowered
    refine ⟨lower_reaches lowered, ?_⟩
    intro world caller depth arguments keywords located raises
    have blamed := Listing.call_blamed (lower_in_scope lowered) raises
    refine ⟨blamed, fun absent => Listing.constant_of_blamed blamed ?_ ?_⟩
    · rintro deep
      rcases absent with ⟨slot, same⟩ | ⟨name, same⟩ <;> cases deep.symm.trans same
    · intro fault misfit
      rcases absent with ⟨slot, same⟩ | ⟨name, same⟩ <;> cases misfit.symm.trans same

-- Both writes are kept apart; the first one has a target that takes no field.
theorem Program.two_writes_keep_slots :
    twoWrites.lower .empty = .ok twoWritesListing ∧
    (∃ state, Lowering.Reached .empty 2 twoWrites.instructions state ∧
      Lowering.Kept .empty 2 twoWrites.instructions state ∧
      state.statements = twoWritesListing.statements) ∧
    ∃ located, Raises (twoWritesListing.call .empty [.int 1, .int 2]) located ∧
      twoWritesListing.Blames .empty (World.empty.call World.callLimit) World.callLimit
        located := by
  obtain ⟨_, kept, calls⟩ := lowering_keeps_slots .empty twoWrites
  have lowered : twoWrites.lower .empty = .ok twoWritesListing := rfl
  obtain ⟨⟨state, reached, written⟩, blames⟩ := calls twoWritesListing lowered
  have fails : Raises (twoWritesListing.call .empty [.int 1, .int 2])
      ⟨some 6, .noAttribute "int" "x"⟩ := ⟨.empty, .empty, rfl⟩
  refine ⟨lowered, ⟨state, reached, (kept _ state reached).1, ?_⟩, _, fails, ?_⟩
  · exact (congrArg Listing.statements written).symm
  · exact (blames _ _ _ _ _ _ fails).1

end MemberThunks
