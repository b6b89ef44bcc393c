import MemberThunks.Proofs.LoweringRefinement
import MemberThunks.Proofs.MethodBuild
import MemberThunks.Proofs.SquashedNames
import MemberThunks.Proofs.WellFormedPrograms

set_option autoImplicit false

/- The name of a program. Lowering looks at it for the faults that it tells, and for the name of
   the listing; so programs that differ in their names are lowered alike. But the listing is loaded
   from its text, under its name, beside its constants: a name that cannot be loaded has no thunk,
   and one that a constant goes by hides the constant. All other names are labels. -/
namespace MemberThunks

namespace Listing

def called (listing : Listing) (name : String) : Listing := { listing with name := name }

end Listing

namespace Program

def called (program : Program) (name : String) : Program := { program with name := name }

end Program

namespace LowerFault

-- What is wrong with a program under another name.
def called (name : String) : LowerFault → LowerFault
  | step fault offset found _ => step fault offset found name
  | noReturn _ => noReturn name
  | undecided question => undecided question

variable (name : String) (fault : LowerFault)

theorem question_called : (fault.called name).question? = fault.question? := by
  cases fault with
  | step fault offset found program => cases fault <;> rfl
  | noReturn program => rfl
  | undecided question => rfl

theorem failure_called : (fault.called name).failure.kind = fault.failure.kind ∧
    (fault.called name).failure.message = fault.failure.message := by
  cases fault with
  | step fault offset found program =>
      cases fault with
      | stream fault => exact ⟨rfl, rfl⟩
      | unsupported fault => cases fault <;> exact ⟨rfl, rfl⟩
      | noSetter kind => exact ⟨rfl, rfl⟩
  | noReturn program => exact ⟨rfl, rfl⟩
  | undecided question => exact ⟨rfl, rfl⟩

end LowerFault

namespace Lowering

section Names

variable (world : World) (program : Program) (name : String)

theorem fault_called (offset : Nat) (found : Instruction) (fault : StepFault) :
    faultAt world (program.called name) offset found fault =
      (faultAt world program offset found fault).called name := by
  cases fault with
  | stream fault =>
      rw [faultAt, faultAt]
      split <;> rfl
  | unsupported fault => rfl
  | noSetter kind => rfl

theorem steps_called (offset : Nat) (returned : Bool) (state : State)
    (instructions : List Instruction) :
    steps world (program.called name) offset returned state instructions =
      (steps world program offset returned state instructions).mapError
        (LowerFault.called name) := by
  induction instructions generalizing offset returned state with
  | nil => cases returned <;> rfl
  | cons instruction rest ih =>
      rw [steps, steps]
      cases returned with
      | true => exact congrArg Except.error (fault_called world program name _ _ _)
      | false =>
          have count : (program.called name).parameterCount = program.parameterCount := rfl
          simp only [Bool.false_eq_true, if_false, count]
          cases step world program.parameterCount state instruction with
          | error fault => exact congrArg Except.error (fault_called world program name _ _ _)
          | ok next => exact ih _ _ _

end Names

end Lowering

theorem Program.lower_called (world : World) (program : Program) (name : String) :
    (program.called name).lower world =
      ((program.lower world).mapError (LowerFault.called name)).map fun listing =>
        listing.called (Identifier.squash name) := by
  rw [lower, lower]
  change (Lowering.steps world (program.called name) 0 false .empty program.instructions >>=
    fun _ => _) = _
  rw [Lowering.steps_called]
  cases Lowering.steps world program 0 false .empty program.instructions <;> rfl

namespace Statement

-- The constant that a statement calls.
def constant? : Statement → Option String
  | check _ label _ | store label _ _ _ | set label _ _ => some label
  | load _ _ | finish => none

end Statement

namespace Lowering

-- Every constant that has been written is in the table.
def State.Closed (state : State) : Prop :=
  ∀ statement ∈ state.statements, ∀ label, statement.constant? = some label →
    label ∈ state.constants.keys

section Closed

variable {state next popped : State}

theorem closed_write (closed : state.Closed) {statement : Statement}
    (listed : ∀ label, statement.constant? = some label → label ∈ state.constants.keys) :
    (state.write statement).Closed := by
  intro other among label called
  rcases List.mem_append.mp among with earlier | latest
  · exact closed other earlier label called
  · rw [List.mem_singleton] at latest
    exact listed label (latest ▸ called)

-- A statement that calls no constant.
theorem closed_write_silent (closed : state.Closed) {statement : Statement}
    (silent : statement.constant? = none) : (state.write statement).Closed := by
  refine closed_write closed fun label called => ?_
  rw [silent] at called
  cases called

theorem closed_pop {slot : Nat} (closed : state.Closed) (taken : state.pop = .ok (slot, popped)) :
    popped.Closed := by
  obtain ⟨_, statements, constants⟩ := pop_gives taken
  intro statement among label called
  rw [constants]
  exact closed statement (statements ▸ among) label called

-- A constant is added, and then written.
theorem closed_add (closed : state.Closed) {hint : String} {constant : Constant}
    {statement : Statement}
    (calls : statement.constant? = some (state.constants.nextName hint)) :
    ((state.addConstant hint constant).2.write statement).Closed := by
  have grown : ∀ label, label ∈ state.constants.keys →
      label ∈ (state.addConstant hint constant).2.constants.keys := by
    intro label listed
    obtain ⟨old, found⟩ := Option.isSome_iff_exists.mp (Binding.lookup_isSome_of_mem listed)
    by_cases same : label = state.constants.nextName hint
    · exact same ▸ Entries.mem_keys_of_lookup (Constants.lookup_added _ hint constant)
    · exact Entries.mem_keys_of_lookup ((Entries.lookup_put_of_ne same constant _).trans found)
  refine closed_write ?_ ?_
  · exact fun other among label called => grown label (closed other among label called)
  · intro label called
    cases calls.symm.trans called
    exact Entries.mem_keys_of_lookup (Constants.lookup_added _ _ _)

theorem step_closed {known : World} {count : Nat} {instruction : Instruction}
    (closed : state.Closed) (lowered : step known count state instruction = .ok next) :
    next.Closed := by
  cases instruction with
  | loadArgument index =>
      rw [step] at lowered
      split at lowered
      · cases lowered
        exact closed_write_silent closed rfl
      · cases lowered
  | castClass target =>
      obtain ⟨⟨source, popped⟩, taken, checked⟩ := ok_of_bind lowered
      cases checked
      exact closed_add (closed_pop closed taken) rfl
  | unboxAny target =>
      obtain ⟨⟨source, popped⟩, taken, checked⟩ := ok_of_bind lowered
      cases found : known.conversionFor target false with
      | error fault => simp [found] at checked
      | ok conversion =>
          simp only [found] at checked
          cases conversion with
          | none =>
              cases checked
              have kept : popped.Closed := closed_pop closed taken
              exact kept
          | some conversion =>
              cases checked
              exact closed_add (closed_pop closed taken) rfl
  | storeField member =>
      obtain ⟨⟨source, rest⟩, taken, below⟩ := ok_of_bind lowered
      obtain ⟨⟨target, popped⟩, takenBelow, stored⟩ := ok_of_bind below
      cases stored
      exact closed_add (closed_pop (closed_pop closed taken) takenBelow) rfl
  | callSetter member =>
      obtain ⟨⟨source, rest⟩, taken, below⟩ := ok_of_bind lowered
      obtain ⟨⟨target, popped⟩, takenBelow, stored⟩ := ok_of_bind below
      cases member with
      | property details =>
          cases stored
          exact closed_add (closed_pop (closed_pop closed taken) takenBelow) rfl
      | method details => cases stored
      | field details => cases stored
      | bare declaring name => cases stored
  | ret =>
      rw [step] at lowered
      split at lowered
      · cases lowered
        exact closed_write_silent closed rfl
      · cases lowered
  | bare => cases lowered

theorem steps_closed {known : World} {program : Program} {instructions : List Instruction}
    {offset : Nat} {returned : Bool} {final : State} (closed : state.Closed)
    (lowered : steps known program offset returned state instructions = .ok final) :
    final.Closed := by
  induction instructions generalizing offset returned state with
  | nil =>
      cases returned with
      | true =>
          cases lowered
          exact closed
      | false => cases lowered
  | cons instruction rest ih =>
      rw [steps] at lowered
      split at lowered
      · cases lowered
      · cases stepped : step known program.parameterCount state instruction with
        | error fault => simp [stepped] at lowered
        | ok next =>
            simp only [stepped] at lowered
            exact ih (step_closed closed stepped) lowered

end Closed

end Lowering

theorem Program.lower_closed {known : World} {program : Program} {listing : Listing}
    (lowered : program.lower known = .ok listing) :
    ∀ statement ∈ listing.statements, ∀ label, statement.constant? = some label →
      label ∈ listing.constants.keys := by
  obtain ⟨final, stepped, rfl⟩ := lower_gives lowered
  have unwritten : Lowering.State.empty.Closed := fun _ among => absurd among List.not_mem_nil
  exact Lowering.steps_closed unwritten stepped

namespace Listing

-- A listing all of whose statements call constants of its own, and two names that none of the
-- constants has.
structure Labelled (listing : Listing) (name : String) : Prop where
  closed : ∀ statement ∈ listing.statements, ∀ label, statement.constant? = some label →
    label ∈ listing.constants.keys
  apart : listing.name ∉ listing.constants.keys
  alsoApart : name ∉ listing.constants.keys

section Calls

variable {listing : Listing} {name : String} (world : World) (caller itself other : Caller)

theorem constant_called {label : String} (listed : label ∈ listing.constants.keys)
    (apart : listing.name ∉ listing.constants.keys) (alsoApart : name ∉ listing.constants.keys)
    (arguments : List Value) :
    (listing.called name).callConstant world caller other label arguments =
      listing.callConstant world caller itself label arguments := by
  have differs : label ≠ listing.name := fun same => apart (same ▸ listed)
  have alsoDiffers : label ≠ (listing.called name).name := by
    intro same
    exact alsoApart ((show label = name from same) ▸ listed)
  rw [callConstant, callConstant, if_neg differs, if_neg alsoDiffers]
  rfl

theorem perform_called (labelled : listing.Labelled name) {statement : Statement}
    (among : statement ∈ listing.statements) (arguments : List Value) (slots : Slots) :
    (listing.called name).perform world caller other arguments slots statement =
      listing.perform world caller itself arguments slots statement := by
  have same : ∀ label, statement.constant? = some label → ∀ given,
      (listing.called name).callConstant world caller other label given =
        listing.callConstant world caller itself label given := by
    intro label calls given
    exact constant_called world caller itself other (labelled.closed statement among label calls)
      labelled.apart labelled.alsoApart given
  cases statement with
  | load slot index => rfl
  | check slot label source => simp only [perform, same label rfl]
  | store label target field source => simp only [perform, same label rfl]
  | set label target source => simp only [perform, same label rfl]
  | finish => rfl

theorem run_called (labelled : listing.Labelled name) (arguments : List Value) (line : Nat)
    (slots : Slots) {statements : List Statement}
    (among : ∀ statement ∈ statements, statement ∈ listing.statements) :
    (listing.called name).runFrom world caller other arguments line slots statements =
      listing.runFrom world caller itself arguments line slots statements := by
  induction statements generalizing line slots with
  | nil => rfl
  | cons statement rest ih =>
      obtain ⟨first, later⟩ := List.forall_mem_cons.mp among
      rw [runFrom, runFrom, perform_called world caller itself other labelled first]
      congr 1
      funext next
      exact ih (line + 1) next later

end Calls

theorem call_called {listing : Listing} {name : String} (labelled : listing.Labelled name)
    {arguments : List Value} (filled : arguments.length = listing.parameterCount)
    (world : World) : (listing.called name).call world arguments = listing.call world arguments := by
  have matched : arguments.length = listing.parameters.length := by
    rw [filled, parameters, List.length_map, List.length_range]
  have bound : Binding.bind listing.formals arguments [] =
      .ok (listing.parameters.zip arguments) :=
    Binding.bind_named listing.parameters_distinct matched
  have alsoBound : Binding.bind (listing.called name).formals arguments [] =
      .ok (listing.parameters.zip arguments) := bound
  rw [call, call, World.callLimit, callWithin, callWithin, bound, alsoBound]
  exact run_called _ _ _ _ labelled _ _ _ fun _ among => among

theorem call_miscounted (listing : Listing) {arguments : List Value}
    (missed : arguments.length ≠ listing.parameterCount) : ∃ fault : BindingFault,
      ∀ (name : String) (world : World) (store : Store),
        ((listing.called name).call world arguments).execute store =
          (.error ⟨none, .binding name fault⟩, store) := by
  have unmatched : arguments.length ≠ listing.parameters.length := by
    rwa [parameters, List.length_map, List.length_range]
  obtain ⟨fault, bound⟩ := Binding.bind_miscounted listing.parameters_distinct unmatched
  refine ⟨fault, fun name world store => ?_⟩
  rw [call, World.callLimit, callWithin,
    show Binding.bind (listing.called name).formals arguments [] = .error fault from bound]
  rfl

end Listing

namespace Code

def called (name : String) : Code → Code
  | listing lowered => listing (lowered.called (Identifier.squash name))
  | tree lambda => tree lambda

end Code

namespace CompileFault

-- What objects raise that are asked on the way does not tell the name.
def called (name : String) : CompileFault → CompileFault
  | lower fault => lower (fault.called name)
  | other => other

theorem failure_called (name : String) (fault : CompileFault) :
    (fault.called name).failure.kind = fault.failure.kind ∧
      (fault.called name).failure.message = fault.failure.message := by
  cases fault with
  | lower fault => exact fault.failure_called name
  | _ => exact ⟨rfl, rfl⟩

end CompileFault

-- Calls of two thunks that take a number of arguments. With an argument for each parameter they
-- are one and the same; with any other number they fail alike, but for the name that is told.
structure Thunk.CalledAlike (first second : Thunk) (count : Nat) (arguments : List Value) :
    Prop where
  filled : arguments.length = count → ∀ world : World,
    second.call world arguments = first.call world arguments
  miscounted : arguments.length ≠ count → ∃ fault : BindingFault,
    ∀ (world : World) (store : Store),
      (first.call world arguments).execute store =
        (.error ⟨none, .binding first.code.name fault⟩, store) ∧
      (second.call world arguments).execute store =
        (.error ⟨none, .binding second.code.name fault⟩, store)

theorem Listing.thunks_called {listing : Listing} {name : String}
    (labelled : listing.Labelled name) (fileName other : String) (arguments : List Value) :
    Thunk.CalledAlike ⟨.listing listing, fileName⟩ ⟨.listing (listing.called name), other⟩
      listing.parameterCount arguments where
  filled filled world := call_called labelled filled world
  miscounted missed := by
    obtain ⟨fault, fails⟩ := listing.call_miscounted missed
    exact ⟨fault, fun world store => ⟨fails listing.name world store, fails name world store⟩⟩

namespace Strategy

section Names

variable (world : World) (caller : Caller) (program : Program) (name : String) (store : Store)

-- Lowering a program under another name asks the same, and ends the same but for the name.
theorem lowered_called : (lowered world caller (program.called name)).run.run store =
    ((((lowered world caller program).run.run store).1.mapError (CompileFault.called name)).map
      (Code.called name), ((lowered world caller program).run.run store).2) := by
  have abreast : Making.Abreast world .lower .lower (fun known => program.lower known)
      (fun known => (program.called name).lower known) _ _ :=
    Making.settling_abreast world caller LowerFault.question? LowerFault.question? .lower .lower
      (fun known _ listing made => ⟨_, by rw [Program.lower_called, made]; rfl⟩)
      (fun known _ fault refused => ⟨_, by rw [Program.lower_called, refused]; rfl,
        fault.question_called name⟩) store
  rw [lowered, lowered, run_map, run_map]
  generalize (Making.settling world caller LowerFault.question? .lower fun known =>
    program.lower known).run.run store = ended at abreast ⊢
  generalize (Making.settling world caller LowerFault.question? .lower fun known =>
    (program.called name).lower known).run.run store = followed at abreast ⊢
  cases abreast with
  | stopped raised after => rfl
  | made known informed tried followed after =>
      rw [Program.lower_called, tried] at followed
      cases followed
      rfl
  | refused known informed tried followed after =>
      rw [Program.lower_called, tried] at followed
      cases followed
      rfl

theorem lowered_to_called {listing : Listing}
    (accepted : loweredTo world caller program store = .ok (.listing listing)) :
    loweredTo world caller (program.called name) store =
      .ok (.listing (listing.called (Identifier.squash name))) := by
  rw [loweredTo] at accepted
  rw [loweredTo, lowered_called, accepted]
  rfl

-- The thunk that a program is made into, or what is wrong with it.
def delegated (registry : Registry) (options : Options) (label : Option String) :
    Except CompileFault Thunk :=
  loweredTo world caller program store >>= fun code =>
    (install registry options label code).1.mapError CompileFault.load

end Names

section Delegates

variable {world : World} {caller : Caller} {program : Program} {store : Store} {listing : Listing}
  {registry : Registry} {options : Options} {label : Option String}

theorem accepted_gives
    (accepted : loweredTo world caller program store = .ok (.listing listing)) :
    ∃ known, world.Informed known ∧ program.lower known = .ok listing := by
  cases ran : (lowered world caller program).run.run store with
  | mk outcome after =>
      rw [loweredTo, ran] at accepted
      cases accepted
      obtain ⟨made, settled, same⟩ := ok_of_run_map ran
      cases same
      obtain ⟨known, informed, tried⟩ := Making.made_of_settling settled
      exact ⟨known, informed, tried⟩

theorem delegated_gives {thunk : Thunk}
    (accepted : loweredTo world caller program store = .ok (.listing listing))
    (made : delegated world caller program store registry options label = .ok thunk) :
    thunk = ⟨.listing listing, options.fileName listing.name registry.serial⟩ := by
  rw [delegated, accepted] at made
  change (install registry options label (.listing listing)).1.mapError CompileFault.load = _
    at made
  rw [installed_is_loaded, Code.load] at made
  cases checked : Loading.check (.listing listing)
      (options.fileName (Code.listing listing).name registry.serial) with
  | error fault =>
      rw [checked] at made
      cases made
  | ok done =>
      rw [checked] at made
      cases made
      rfl

-- A program that is lowered has a thunk if its name can be loaded.
theorem delegated_iff {text : String} (named : listing.name = Identifier.squash text)
    (accepted : loweredTo world caller program store = .ok (.listing listing)) :
    (∃ thunk, delegated world caller program store registry options label = .ok thunk) ↔
      Char.ofNat 0 ∉ options.namePrefix.toList ∧ Identifier.Loadable (Identifier.squash text) := by
  have checks := Loading.check_listing_iff listing
    (options.fileName listing.name registry.serial)
  rw [named, options.nul_in_file_name text registry.serial, ← named] at checks
  rw [← named, ← checks, delegated, accepted]
  change (∃ thunk, (install registry options label (.listing listing)).1.mapError
    CompileFault.load = .ok thunk) ↔ _
  rw [installed_is_loaded, Code.load]
  change (∃ thunk, (Loading.check (.listing listing) (options.fileName listing.name
    registry.serial) >>= fun _ => _).mapError CompileFault.load = .ok thunk) ↔ _
  cases Loading.check (.listing listing) (options.fileName listing.name registry.serial) with
  | error fault =>
      constructor
      · rintro ⟨thunk, made⟩
        cases made
      · intro checked
        cases checked
  | ok done => exact ⟨fun _ => rfl, fun _ => ⟨_, rfl⟩⟩

end Delegates

-- The name of a program is a label, as long as it can be loaded and no constant goes by it: programs
-- that differ in their names are accepted or refused alike, and their thunks do the same.
theorem name_is_label (world : World) (caller : Caller) (program : Program) (name : String)
    (store : Store) :
    (lowered world caller (program.called name)).run.run store =
      ((((lowered world caller program).run.run store).1.mapError (CompileFault.called name)).map
        (Code.called name), ((lowered world caller program).run.run store).2) ∧
    (∀ fault : CompileFault, (fault.called name).failure.kind = fault.failure.kind ∧
      (fault.called name).failure.message = fault.failure.message) ∧
    ∀ listing, loweredTo world caller program store = .ok (.listing listing) →
      listing.constants.Numbered ∧
      (∀ (registry : Registry) (options : Options) (label : Option String),
        (∃ thunk, delegated world caller (program.called name) store registry options label =
            .ok thunk) ↔
          Char.ofNat 0 ∉ options.namePrefix.toList ∧
            Identifier.Loadable (Identifier.squash name)) ∧
      ∀ (registry next : Registry) (options others : Options) (label mark : Option String)
        (first second : Thunk),
        delegated world caller program store registry options label = .ok first →
        delegated world caller (program.called name) store next others mark = .ok second →
        Identifier.squash program.name ∉ listing.constants.keys →
        Identifier.squash name ∉ listing.constants.keys →
        ∀ arguments, first.CalledAlike second program.parameterCount arguments := by
  refine ⟨lowered_called world caller program name store, CompileFault.failure_called name, ?_⟩
  intro listing accepted
  have alsoAccepted := lowered_to_called world caller program name store accepted
  obtain ⟨known, _, made⟩ := accepted_gives accepted
  refine ⟨Program.lower_numbered made, fun registry options label =>
    delegated_iff rfl alsoAccepted, ?_⟩
  intro registry next options others label mark first second built alsoBuilt apart alsoApart
    arguments
  rw [delegated_gives accepted built, delegated_gives alsoAccepted alsoBuilt]
  have closed := Program.lower_closed made
  obtain ⟨final, _, rfl⟩ := Program.lower_gives made
  exact Listing.thunks_called ⟨closed, apart, alsoApart⟩ _ _ arguments

-- The thunk of a program that runs in the empty world.
def plainThunk (program : Program) : Except CompileFault Thunk :=
  delegated .empty (World.empty.call World.callLimit) program .empty .empty .standard none

theorem two_writes_accepted : loweredTo .empty (World.empty.call World.callLimit)
    Program.twoWrites .empty = .ok (.listing Program.twoWritesListing) := by
  have lowered : Program.twoWrites.lower .empty = .ok Program.twoWritesListing := rfl
  rw [loweredTo, Strategy.lowered, run_map, Making.settling_first lowered]
  rfl

theorem two_writes_under_other_name :
    loweredTo .empty (World.empty.call World.callLimit) Program.twoWrites .empty =
      .ok (.listing Program.twoWritesListing) ∧
    Identifier.squash Program.twoWrites.name ∉ Program.twoWritesListing.constants.keys ∧
    Identifier.squash "1st and 2nd!" ∉ Program.twoWritesListing.constants.keys ∧
    ∃ first second, plainThunk Program.twoWrites = .ok first ∧
      plainThunk (Program.twoWrites.called "1st and 2nd!") = .ok second ∧
      first.CalledAlike second 2 [.int 1, .int 2] ∧ first.CalledAlike second 2 [] := by
  have apart : Identifier.squash Program.twoWrites.name ∉
      Program.twoWritesListing.constants.keys := by decide
  have alsoApart : Identifier.squash "1st and 2nd!" ∉
      Program.twoWritesListing.constants.keys := by decide
  have unmarked : Char.ofNat 0 ∉ Options.standard.namePrefix.toList := by decide
  obtain ⟨_, _, own⟩ := name_is_label .empty (World.empty.call World.callLimit)
    Program.twoWrites Program.twoWrites.name .empty
  obtain ⟨_, _, other⟩ := name_is_label .empty (World.empty.call World.callLimit)
    Program.twoWrites "1st and 2nd!" .empty
  obtain ⟨_, loads, _⟩ := own _ two_writes_accepted
  obtain ⟨_, alsoLoads, calls⟩ := other _ two_writes_accepted
  obtain ⟨first, built⟩ := (loads .empty .standard none).mpr
    ⟨unmarked, Identifier.loadable_plain (Identifier.plain_of_all (by decide)) (by decide)
      (by decide)⟩
  obtain ⟨second, alsoBuilt⟩ := (alsoLoads .empty .standard none).mpr
    ⟨unmarked, Identifier.loadable_plain (Identifier.plain_of_all (by decide)) (by decide)
      (by decide)⟩
  have alike := calls .empty .empty .standard .standard none none first second built alsoBuilt
    apart alsoApart
  exact ⟨two_writes_accepted, apart, alsoApart, first, second, built, alsoBuilt, alike _, alike _⟩

-- A class whose objects have a field stored into them, under a name.
def racks : World := World.empty.declare (.ofMembers "Rack" [])

def fills (name : String) : Program :=
  ⟨name, 2, [.loadArgument 0, .castClass (.cls (.declared 0)), .loadArgument 1,
    .storeField (.field ⟨.declared 0, "m", .cls (.builtin .int)⟩), .ret]⟩

-- How filling a rack fails, if it fails.
def fillFailure (name : String) : Option FailureKind :=
  match delegated racks (racks.call World.callLimit) (fills name) .empty .empty .standard
    none with
  | .error fault => some fault.failure.kind
  | .ok thunk =>
    match ((thunk.call racks [.object 0 (.declared 0), .int 5]).plain.execute .empty).1 with
    | .ok _ => none
    | .error raised => some raised.failure.kind

-- A word of the language and a name that is read as another one are accepted and cannot be loaded;
-- and a thunk that goes by the name of its first constant calls itself in the place of the check.
theorem names_are_no_labels :
    (∀ name, ∃ listing, (fills name).lower racks = .ok listing) ∧
    fillFailure "fill" = none ∧ fillFailure "class" = some .malformed ∧
    fillFailure "nº" = some .keyFault ∧ fillFailure "cast_0" = some .typeFault :=
  ⟨fun _ => ⟨_, rfl⟩, by decide +kernel, by decide +kernel, by decide +kernel,
    by decide +kernel⟩

end Strategy

end MemberThunks
