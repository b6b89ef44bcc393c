import MemberThunks.Proofs.CheckedWrites
import MemberThunks.Proofs.FieldReads
import MemberThunks.Proofs.FieldStorage
import MemberThunks.Proofs.SteadyChecks

set_option autoImplicit false

/- The thunks of fields of one name meet in one place of the target, whichever classes declare the
   fields: what one of them writes the other reads, the last write wins, what is read can be written
   back, and nothing else changes. All this is up to what the checks ask, which is nothing of a
   value or of a target whose class leaves the questions to the language. -/
namespace MemberThunks

namespace World

-- A target that is an instance of a class by its own class, and that the check calls nothing of:
-- only an abstract class asks what it is given for its class then.
structure Vouched (world : World) (store : Store) (target : Value) (declaring : ClassRef) :
    Prop where
  askable : Askable declaring
  counts : world.instanceBy store (store.current target) declaring = true
  unasked : IsAbstract declaring → world.Candid store target

section Vouched

variable {world : World} {store other : Store} {target : Value} {declaring : ClassRef}

theorem known_by_class (call : Caller) (askable : Askable declaring)
    (concrete : ¬ IsAbstract declaring)
    (counts : world.instanceBy store target declaring = true) :
    world.isInstance call target declaring = pure true := by
  unfold isInstance
  split
  · cases askable
  · cases askable
  · exact absurd trivial concrete
  · rename_i name _
    rw [instanceBy] at counts
    cases telling : tellingMethod? name with
    | some method => exact congrArg pure (by simpa [telling] using counts)
    | none => exact congrArg pure (by simpa [telling] using counts)
  · rename_i plain untelling
    rw [instanceBy] at counts
    · rw [if_pos counts]
    · exact plain
    · exact untelling

theorem vouched_steady (call : Caller) (vouched : world.Vouched store target declaring) :
    world.Steady store (world.isInstance call (store.current target) declaring) true := by
  by_cases asks : IsAbstract declaring
  · have steady : world.Steady store (world.isInstance call (store.current target) declaring)
        (world.instanceBy store (store.current target) declaring) :=
      instance_steady (candid_current (vouched.unasked asks)) (store.current_current target)
        vouched.askable
    rwa [vouched.counts] at steady
  · rw [known_by_class call vouched.askable asks vouched.counts]
    exact steady_pure true

theorem instance_by_agrees (agrees : world.Agrees store other) (value : Value)
    (declaring : ClassRef) :
    world.instanceBy other value declaring = world.instanceBy store value declaring := by
  unfold instanceBy
  split
  · rw [agrees.verdicts]
  · rfl
  · rfl

theorem vouched_agrees (agrees : world.Agrees store other)
    (vouched : world.Vouched store target declaring) : world.Vouched other target declaring := by
  refine ⟨vouched.askable, ?_,
    fun asks => candid_of_classes agrees.classes (vouched.unasked asks)⟩
  rw [Store.current_of_classes agrees.classes, instance_by_agrees agrees]
  exact vouched.counts

theorem vouched_narrows (call : Caller) (vouched : world.Vouched store target declaring) :
    ∃ after, ((Conversion.cast (.cls declaring) false).apply world call target).execute store =
      (.ok target, after) ∧ world.Unmoved store after := by
  obtain ⟨after, ran, unmoved⟩ :=
    vouched_steady call vouched store (world.agrees_refl store)
  refine ⟨after, ?_, unmoved⟩
  have asked : ((store.current target).isNone &&
      (Conversion.cast (.cls declaring) false).nullable) = false := by
    simp [Conversion.nullable]
  rw [Conversion.apply_asks asked, Conversion.accepts, isInstanceOf, Run.execute_bind_ok ran]
  rfl

end Vouched

end World

namespace Reading

-- A read of a field gives what the place of the name holds.
theorem fetch_holds {world : World} {field : FieldMember} {target value : Value}
    {store : Store} {place : Place} (caller : Caller)
    (vouched : world.Vouched store target field.declaring)
    (unguarded : world.isUnguarded (store.current target).typeOf field.name = true)
    (kept : world.placeOf? (store.current target) field.name = some place)
    (held : store.heldAt? field.name place = some value) :
    ∃ after, (fetch world caller field target).execute store = (.ok value, after) ∧
      world.Unmoved store after := by
  obtain ⟨after, narrowed, unmoved⟩ := World.vouched_narrows caller vouched
  have same := Store.current_of_alike unmoved.alike target
  rw [← same] at unguarded kept
  have still : after.heldAt? field.name place = some value := by
    rw [Store.held_of_alike unmoved.alike, held]
  refine ⟨after, ?_, unmoved⟩
  rw [fetch, Run.execute_bind_ok narrowed]
  exact World.direct_get_holds caller unguarded kept still

end Reading

namespace Writing

-- The checks of a write.
def checks (world : World) (caller : Caller) (member : Member) (conversion : Option Conversion)
    (target value : Value) : Run Unit := do
  let _ ← (Conversion.cast (.cls member.declaring) false).apply world caller target
  let _ ← Conversion.applyOptional world caller conversion value

section Checks

variable {world : World} {caller : Caller} {member : Member} {conversion : Option Conversion}
  {target value : Value} {store after : Store}

theorem checked_after_checks : checked world caller member conversion target value =
    (checks world caller member conversion target value >>= fun _ =>
      storing world caller target value member >>= fun _ => pure Value.none) := by
  simp only [checked, checks, bind_assoc, pure_bind]

-- Checks that ask nothing of the program leave the store as it was.
theorem checks_quiet (vouched : world.Vouched store target member.declaring)
    (candid : world.Candid store value) {outcome : Except Raised Unit}
    (ran : (checks world caller member conversion target value).execute store =
      (outcome, after)) : world.Unmoved store after := by
  obtain ⟨between, narrowed, unmoved⟩ := World.vouched_narrows caller vouched
  rw [checks, Run.execute_bind_ok narrowed] at ran
  cases converting : (Conversion.applyOptional world caller conversion value).execute between with
  | mk converted ready =>
      have still := converted_quiet unmoved candid converting
      cases converted with
      | error raised =>
          rw [Run.execute_bind_error converting] at ran
          cases ran
          exact still
      | ok result =>
          rw [Run.execute_bind_ok converting] at ran
          cases ran
          exact still

end Checks

-- The laws of a write and a read of fields of one name. The laws of what a write leaves are about
-- the store that its checks leave, and then about the store that it starts from, where the checks
-- leave that unmoved.
structure FieldLaws (world : World) (caller : Caller) (writer reader : FieldMember)
    (conversion : Option Conversion) (write : Value → Value → Run Value)
    (read : Value → Run Value) : Prop where
  -- A write that a check refuses stores nothing.
  refused : ∀ (target value : Value) (store ready : Store) (raised : Raised),
    (checks world caller (.field writer) conversion target value).execute store =
      (.error raised, ready) →
    (write target value).execute store = (.error raised, ready)
  -- A write that is admitted puts the value in the place of the name, or raises and changes
  -- nothing.
  stored : ∀ (target value : Value) (store ready : Store),
    (checks world caller (.field writer) conversion target value).execute store =
      (.ok (), ready) →
    world.isUnguarded (ready.current target).typeOf writer.name = true →
    (∃ place, world.placeOf? (ready.current target) writer.name = some place ∧
      (write target value).execute store = (.ok .none, ready.putAt writer.name value place)) ∨
    ∃ raised, (write target value).execute store = (.error raised, ready)
  -- Checks of a value and a target that are asked nothing leave the store unmoved.
  unmoved : ∀ (target value : Value) (store ready : Store) (outcome : Except Raised Unit),
    world.Vouched store target writer.declaring → world.Candid store value →
    (checks world caller (.field writer) conversion target value).execute store =
      (outcome, ready) →
    world.Unmoved store ready
  -- What is written is read.
  put_get : ∀ (target value result : Value) (store ready after : Store),
    (checks world caller (.field writer) conversion target value).execute store =
      (.ok (), ready) →
    world.isUnguarded (ready.current target).typeOf writer.name = true →
    world.Vouched ready target reader.declaring →
    (write target value).execute store = (.ok result, after) →
    ∃ final, (read target).execute after = (.ok value, final) ∧ world.Unmoved after final
  -- The second of two writes wins.
  put_put : ∀ (target first second one two : Value) (store middle after : Store),
    world.Vouched store target writer.declaring → world.Candid store first →
    world.Candid store second → world.isUnguarded (store.current target).typeOf writer.name = true →
    (write target first).execute store = (.ok one, middle) →
    (write target second).execute middle = (.ok two, after) →
    ∃ place, world.placeOf? (store.current target) writer.name = some place ∧
      (store.putAt writer.name second place).Alike after
  -- What is read of what the target itself holds can be written back without a change.
  get_put : ∀ (target value result : Value) (place : Place) (store middle after : Store),
    world.Vouched store target writer.declaring → world.Vouched store target reader.declaring →
    world.Candid store value → world.isUnguarded (store.current target).typeOf writer.name = true →
    world.placeOf? (store.current target) writer.name = some place →
    store.heldAt? writer.name place = some value →
    (read target).execute store = (.ok result, middle) →
    result = value ∧ ∀ answer, (write target value).execute middle = (.ok answer, after) →
      store.Alike after
  -- A write changes nothing but what the place of the name holds.
  frame : ∀ (target value result : Value) (store after : Store),
    world.Vouched store target writer.declaring → world.Candid store value →
    world.isUnguarded (store.current target).typeOf writer.name = true →
    (write target value).execute store = (.ok result, after) →
    ∃ place, world.placeOf? (store.current target) writer.name = some place ∧
      (∀ asked query, (asked, query) ≠ (place, writer.name) →
        after.heldAt? query asked = store.heldAt? query asked) ∧
      after.trace = store.trace ∧ after.classes = store.classes ∧
      after.fresh = store.fresh ∧ after.pool = store.pool
  -- A write that raises changes nothing.
  untouched : ∀ (target value : Value) (store after : Store) (raised : Raised),
    world.Vouched store target writer.declaring → world.Candid store value →
    world.isUnguarded (store.current target).typeOf writer.name = true →
    (write target value).execute store = (.error raised, after) → store.Alike after

section Laws

variable {world : World} {caller : Caller} {writer reader : FieldMember}
  {conversion : Option Conversion} {target value : Value} {store ready after : Store}

theorem checked_refused {raised : Raised}
    (ran : (checks world caller (.field writer) conversion target value).execute store =
      (.error raised, ready)) :
    (checked world caller (.field writer) conversion target value).execute store =
      (.error raised, ready) := by
  rw [checked_after_checks, Run.execute_bind_error ran]

theorem checked_stored
    (ran : (checks world caller (.field writer) conversion target value).execute store =
      (.ok (), ready))
    (unguarded : world.isUnguarded (ready.current target).typeOf writer.name = true) :
    (∃ place, world.placeOf? (ready.current target) writer.name = some place ∧
      (checked world caller (.field writer) conversion target value).execute store =
        (.ok .none, ready.putAt writer.name value place)) ∨
    ∃ raised, (checked world caller (.field writer) conversion target value).execute store =
      (.error raised, ready) := by
  rw [checked_after_checks, Run.execute_bind_ok ran, storing]
  rcases World.direct_set_puts caller value unguarded with ⟨place, kept, put⟩ | ⟨raised, failed⟩
  · refine .inl ⟨place, kept, ?_⟩
    rw [Run.execute_bind_ok put]
    rfl
  · exact .inr ⟨raised, Run.execute_bind_error failed⟩

-- How a write ends whose checks are quiet: what it changes is in the place of the name alone.
theorem checked_ends_quietly (vouched : world.Vouched store target writer.declaring)
    (candid : world.Candid store value)
    (unguarded : world.isUnguarded (store.current target).typeOf writer.name = true)
    {outcome : Except Raised Value}
    (ran : (checked world caller (.field writer) conversion target value).execute store =
      (outcome, after)) :
    (∃ raised, outcome = .error raised ∧ world.Unmoved store after) ∨
    ∃ place ready, outcome = .ok .none ∧ world.Unmoved store ready ∧
      world.placeOf? (store.current target) writer.name = some place ∧
      after = ready.putAt writer.name value place := by
  cases checking : (checks world caller (.field writer) conversion target value).execute store with
  | mk verdict ready =>
      have unmoved := checks_quiet vouched candid checking
      have same := Store.current_of_alike unmoved.alike target
      cases verdict with
      | error raised =>
          rw [checked_refused checking] at ran
          cases ran
          exact .inl ⟨raised, rfl, unmoved⟩
      | ok done =>
          rcases checked_stored checking (by rwa [same]) with ⟨place, kept, put⟩ | ⟨raised, failed⟩
          · rw [put] at ran
            cases ran
            rw [same] at kept
            exact .inr ⟨place, ready, rfl, unmoved, kept, rfl⟩
          · rw [failed] at ran
            cases ran
            exact .inl ⟨raised, rfl, unmoved⟩

theorem written_is_read (named : writer.name = reader.name) {place : Place}
    (vouched : world.Vouched ready target reader.declaring)
    (unguarded : world.isUnguarded (ready.current target).typeOf writer.name = true)
    (kept : world.placeOf? (ready.current target) writer.name = some place) :
    ∃ final, (Reading.fetch world caller reader target).execute
        (ready.putAt writer.name value place) = (.ok value, final) ∧
      world.Unmoved (ready.putAt writer.name value place) final := by
  rw [named] at unguarded kept ⊢
  have agrees := World.put_agrees world ready reader.name value place
  have same := Store.current_of_classes agrees.classes target
  rw [← same] at unguarded kept
  exact Reading.fetch_holds caller (World.vouched_agrees agrees vouched) unguarded kept
    (Store.held_put_self ready reader.name value place)

theorem second_write_wins {first second one two : Value} {middle : Store}
    (vouched : world.Vouched store target writer.declaring) (frank : world.Candid store first)
    (candid : world.Candid store second)
    (unguarded : world.isUnguarded (store.current target).typeOf writer.name = true)
    (wrote : (checked world caller (.field writer) conversion target first).execute store =
      (.ok one, middle))
    (again : (checked world caller (.field writer) conversion target second).execute middle =
      (.ok two, after)) :
    ∃ place, world.placeOf? (store.current target) writer.name = some place ∧
      (store.putAt writer.name second place).Alike after := by
  rcases checked_ends_quietly vouched frank unguarded wrote with
    ⟨raised, impossible, _⟩ | ⟨place, ready, _, unmoved, kept, rfl⟩
  · cases impossible
  · have agrees := World.agrees_trans unmoved.agrees
      (World.put_agrees world ready writer.name first place)
    have same := Store.current_of_classes agrees.classes target
    rw [← same] at unguarded
    rcases checked_ends_quietly (World.vouched_agrees agrees vouched)
        (World.candid_of_classes agrees.classes candid) unguarded again with
      ⟨raised, impossible, _⟩ | ⟨other, last, _, still, found, rfl⟩
    · cases impossible
    · rw [same, kept] at found
      cases found
      refine ⟨place, kept, ?_⟩
      -- the place forgets what the first write put there
      have forgotten := Store.put_alike still.alike writer.name second place
      rw [Store.put_put] at forgotten
      exact Store.alike_trans (Store.put_alike unmoved.alike writer.name second place) forgotten

theorem read_is_written_back (named : writer.name = reader.name) {result : Value} {place : Place}
    {middle : Store} (vouched : world.Vouched store target writer.declaring)
    (reads : world.Vouched store target reader.declaring) (candid : world.Candid store value)
    (unguarded : world.isUnguarded (store.current target).typeOf writer.name = true)
    (kept : world.placeOf? (store.current target) writer.name = some place)
    (held : store.heldAt? writer.name place = some value)
    (read : (Reading.fetch world caller reader target).execute store = (.ok result, middle)) :
    result = value ∧ ∀ answer,
      (checked world caller (.field writer) conversion target value).execute middle =
        (.ok answer, after) → store.Alike after := by
  have found := Reading.fetch_holds caller reads (named ▸ unguarded) (named ▸ kept) (named ▸ held)
  obtain ⟨final, given, unmoved⟩ := found
  rw [read] at given
  cases given
  refine ⟨rfl, ?_⟩
  intro answer wrote
  have same := Store.current_of_alike unmoved.alike target
  rcases checked_ends_quietly (World.vouched_agrees unmoved.agrees vouched)
      (World.candid_of_classes unmoved.alike.classes candid) (by rwa [same]) wrote with
    ⟨raised, impossible, _⟩ | ⟨other, last, _, still, met, rfl⟩
  · cases impossible
  · rw [same, kept] at met
    cases met
    -- putting what is held leaves the store as it is
    have unchanged := Store.put_alike (Store.alike_trans unmoved.alike still.alike) writer.name
      value place
    rwa [Store.put_held held] at unchanged

theorem write_frames {result : Value} (vouched : world.Vouched store target writer.declaring)
    (candid : world.Candid store value)
    (unguarded : world.isUnguarded (store.current target).typeOf writer.name = true)
    (wrote : (checked world caller (.field writer) conversion target value).execute store =
      (.ok result, after)) :
    ∃ place, world.placeOf? (store.current target) writer.name = some place ∧
      (∀ asked query, (asked, query) ≠ (place, writer.name) →
        after.heldAt? query asked = store.heldAt? query asked) ∧
      after.trace = store.trace ∧ after.classes = store.classes ∧
      after.fresh = store.fresh ∧ after.pool = store.pool := by
  rcases checked_ends_quietly vouched candid unguarded wrote with
    ⟨raised, impossible, _⟩ | ⟨place, ready, _, unmoved, kept, rfl⟩
  · cases impossible
  · have beside := Store.put_beside ready writer.name value place
    refine ⟨place, kept, ?_, beside.1.trans unmoved.alike.trace,
      beside.2.1.trans unmoved.alike.classes, beside.2.2.1.trans unmoved.alike.fresh,
      beside.2.2.2.trans unmoved.alike.pool⟩
    intro asked query apart
    rw [Store.held_put_other apart, Store.held_of_alike unmoved.alike]

theorem field_laws (named : writer.name = reader.name) :
    FieldLaws world caller writer reader conversion
      (checked world caller (.field writer) conversion) (Reading.fetch world caller reader) where
  refused _ _ _ _ _ ran := checked_refused ran
  stored _ _ _ _ ran unguarded := checked_stored ran unguarded
  unmoved _ _ _ _ _ vouched candid ran := checks_quiet vouched candid ran
  put_get := by
    intro target value result store ready after ran unguarded vouched wrote
    rcases checked_stored ran unguarded with ⟨place, kept, put⟩ | ⟨raised, failed⟩
    · rw [put] at wrote
      cases wrote
      exact written_is_read named vouched unguarded kept
    · rw [failed] at wrote
      cases wrote
  put_put _ _ _ _ _ _ _ _ vouched frank candid unguarded wrote again :=
    second_write_wins vouched frank candid unguarded wrote again
  get_put _ _ _ _ _ _ _ vouched reads candid unguarded kept held read :=
    read_is_written_back named vouched reads candid unguarded kept held read
  frame _ _ _ _ _ vouched candid unguarded wrote := write_frames vouched candid unguarded wrote
  untouched := by
    intro target value store after raised vouched candid unguarded wrote
    rcases checked_ends_quietly vouched candid unguarded wrote with
      ⟨_, _, unmoved⟩ | ⟨_, _, impossible, _⟩
    · exact unmoved.alike
    · cases impossible

end Laws

end Writing

namespace Strategy

section Thunks

variable {world elsewhere : World} {caller asker : Caller} {store : Store}

-- A thunk that writes a member runs the write in its order.
theorem write_thunk_runs {request : Request} {member : Member}
    (writes : writesMember request = true) {registry : Registry} {options : Options}
    {label : Option String} {thunk : Thunk}
    (made : built world caller registry options request label (.member member) store =
      .ok thunk) :
    ∃ type known conversion, Writing.declaredType? member = some type ∧ world.Informed known ∧
      known.conversionFor type false = .ok conversion ∧
      ∀ (later : World) (target value : Value), (thunk.call later [target, value]).plain =
        Writing.checked later (later.call World.callLimit) member conversion target value := by
  obtain ⟨informed, program, known, lowered, composed, heard, done, shape⟩ :=
    built_by_listing writes made
  obtain ⟨type, instruction, declared, rfl, acts⟩ := Writing.program_of_member composed
  obtain ⟨conversion, found⟩ := Writing.conversion_of_lowered done
  refine ⟨type, known, conversion, declared, heard, found, ?_⟩
  intro later target value
  have apart : lowered.name ∉ lowered.constants.keys := by
    obtain ⟨rest, starts⟩ := Writing.set_name member.name
    obtain ⟨_, _, rfl⟩ := Program.lower_gives done
    exact Constants.capital_not_key (Program.lower_numbered done) starts rfl
  have filled : [target, value].length = (Writing.program member.declaring member.name type
      instruction).parameterCount := rfl
  have ran := Program.call_lowered done apart filled later
  have given : (StackMachine.mk known later (later.call World.callLimit)
      [target, value]).arguments = [target, value] := rfl
  rw [Writing.run_of_program given found (acts _)] at ran
  rw [Thunk.call, shape]
  exact StackMachine.act_injective ran

end Thunks

-- A class with a field, a class that derives from it and keeps the field in a slot behind a
-- guard, and a class whose objects are seen when they are asked for their class, and say that
-- they are texts.
def shelves : World :=
  ((World.empty.declare (.ofMembers "Shelf" [.field "x" (.cls (.builtin .str)) none])).declare
    { ClassDecl.ofMembers "Drawer" [] with
      bases := [.declared 0]
      slots := some ["x"]
      guard := some "locked" }).declare
    (.ofMembers "Claimant" [.property "__class__" (some (.routine
      ⟨some (Formal.named "self"), [], none, [.give (.constant (.cls (.builtin .str)))]⟩)) none])

def shelfField : FieldMember := ⟨.declared 0, "x", .cls (.builtin .str)⟩

def drawerField : FieldMember := ⟨.declared 1, "x", .cls .object⟩

end Strategy

end MemberThunks
