import MemberThunks.Proofs.Effects
import MemberThunks.Strategy

set_option autoImplicit false

/- What asking can change. The answers of objects add to what a world has been told, never to
   its classes or routines; so whatever a build ends with, it is what some attempt in a world
   with the same classes and routines ends with, when nothing is left to be asked. -/
namespace MemberThunks

-- A world that has been told more.
structure World.Informed (world known : World) : Prop where
  classes : known.classes = world.classes
  routines : known.routines = world.routines

namespace World

theorem informed_refl (world : World) : world.Informed world := ⟨rfl, rfl⟩

theorem informed_trans {first second third : World} (left : first.Informed second)
    (right : second.Informed third) : first.Informed third :=
  ⟨right.classes.trans left.classes, right.routines.trans left.routines⟩

theorem hear_one_informs {world known : World} {caller : Caller} {speaker : Value}
    {store after : Store}
    (ran : (world.hearOne caller speaker).execute store = (.ok known, after)) :
    world.Informed known := by
  rw [hearOne] at ran
  split at ran
  · obtain ⟨answer, middle, _, ran⟩ := Run.ok_of_execute_bind ran
    obtain ⟨content, last, _, ran⟩ := Run.ok_of_execute_bind ran
    cases ran
    exact ⟨rfl, rfl⟩
  · cases ran
    exact informed_refl _

theorem hear_informs {world known : World} {caller : Caller} {speakers : List Value}
    {store after : Store} (ran : Run.execute
      (speakers.foldlM (fun heard speaker => heard.hearOne caller speaker) world) store =
        (.ok known, after)) : world.Informed known := by
  induction speakers generalizing world store with
  | nil =>
      cases ran
      exact informed_refl _
  | cons speaker rest ih =>
      rw [List.foldlM_cons] at ran
      obtain ⟨heard, middle, first, ran⟩ := Run.ok_of_execute_bind ran
      exact informed_trans (hear_one_informs first) (ih ran)

theorem answered_informs {world known : World} {caller : Caller} {question : Question}
    {store after : Store}
    (ran : (world.answered caller question).execute store = (.ok known, after)) :
    world.Informed known := by
  cases question with
  | texts values => exact hear_informs ran
  | supertype object =>
      rw [answered] at ran
      split at ran
      · obtain ⟨found, middle, _, ran⟩ := Run.ok_of_execute_bind ran
        cases ran
        exact ⟨rfl, rfl⟩
      · cases ran
        exact informed_refl _

section Settle

variable {ε α : Type} {question? : ε → Option Question} {attempt : World → Except ε α}

-- What is still to be asked after an attempt.
def asked (question? : ε → Option Question) : Except ε α → Option Question
  | .ok _ => none
  | .error fault => question? fault

theorem settle_within_decided {caller : Caller} {rounds : Nat} {world : World} {store : Store}
    (decided : asked question? (attempt world) = none) :
    (settleWithin caller question? attempt (rounds + 1) world).execute store =
      (.ok (attempt world), store) := by
  rw [settleWithin]
  cases tried : attempt world with
  | ok made => rfl
  | error fault =>
      rw [tried] at decided
      simp only [show question? fault = none from decided]
      rfl

theorem settle_within_asks {caller : Caller} {rounds : Nat} {world : World}
    {question : Question}
    (asks : asked question? (attempt world) = some question) :
    settleWithin caller question? attempt (rounds + 1) world =
      (world.answered caller question >>= settleWithin caller question? attempt rounds) := by
  rw [settleWithin]
  cases tried : attempt world with
  | ok made =>
      rw [tried] at asks
      cases asks
  | error fault =>
      rw [tried] at asks
      simp only [show question? fault = some question from asks]

theorem settle_within_gives {caller : Caller} {rounds : Nat} {world : World}
    {outcome : Except ε α} {store after : Store}
    (ran : (settleWithin caller question? attempt rounds world).execute store =
      (.ok outcome, after)) :
    ∃ known, world.Informed known ∧ attempt known = outcome ∧
      ∀ fault, outcome = .error fault → question? fault = none := by
  induction rounds generalizing world store with
  | zero => cases ran
  | succ rounds ih =>
      cases asks : asked question? (attempt world) with
      | none =>
          rw [settle_within_decided asks] at ran
          cases ran
          refine ⟨world, informed_refl world, rfl, ?_⟩
          intro fault tried
          rw [tried] at asks
          exact asks
      | some question =>
          rw [settle_within_asks asks] at ran
          obtain ⟨heard, middle, answered, ran⟩ := Run.ok_of_execute_bind ran
          obtain ⟨known, informed, result, settled⟩ := ih ran
          exact ⟨known, informed_trans (answered_informs answered) informed, result, settled⟩

section Beside

variable {ζ β : Type} {other? : ζ → Option Question} {other : World → Except ζ β}

-- The ends of settling one thing and another one that asks the same. An exception stops both; or
-- the one is decided once it has been told enough, and so is the other one unless it asks more.
inductive Beside (world : World) (question? : ε → Option Question) (other? : ζ → Option Question)
    (attempt : World → Except ε α) (other : World → Except ζ β) :
    Except Raised (Except ε α) × Store → Except Raised (Except ζ β) × Store → Prop where
  | stopped (raised : Raised) (store : Store) :
      Beside world question? other? attempt other (.error raised, store) (.error raised, store)
  | decided (known : World) (informed : world.Informed known)
      (decided : asked question? (attempt known) = none) (store : Store)
      {ended : Except Raised (Except ζ β) × Store}
      (follows : asked other? (other known) = none → ended = (.ok (other known), store)) :
      Beside world question? other? attempt other (.ok (attempt known), store) ended

theorem beside_onward {world told : World} {attempt : World → Except ε α}
    {ended : Except Raised (Except ε α) × Store} {followed : Except Raised (Except ζ β) × Store}
    (informs : world.Informed told) (beside : Beside told question? other? attempt other ended followed) :
    Beside world question? other? attempt other ended followed := by
  cases beside with
  | stopped raised final => exact .stopped raised final
  | decided known informed decided final follows =>
      exact .decided known (informed_trans informs informed) decided final follows

theorem settle_within_beside (caller : Caller) (rounds : Nat) {world : World} (store : Store)
    (same : ∀ known, world.Informed known → ∀ question,
      asked question? (attempt known) = some question →
        asked other? (other known) = some question) :
    Beside world question? other? attempt other
      ((settleWithin caller question? attempt rounds world).execute store)
      ((settleWithin caller other? other rounds world).execute store) := by
  induction rounds generalizing world store with
  | zero => exact .stopped _ _
  | succ rounds ih =>
      cases asks : asked question? (attempt world) with
      | none =>
          rw [settle_within_decided asks]
          exact .decided world (informed_refl world) asks store fun decided =>
            settle_within_decided decided
      | some question =>
          rw [settle_within_asks asks, settle_within_asks (same world (informed_refl world) _ asks)]
          cases heard : (world.answered caller question).execute store with
          | mk outcome after =>
              cases outcome with
              | error raised =>
                  rw [Run.execute_bind_error heard, Run.execute_bind_error heard]
                  exact .stopped raised after
              | ok told =>
                  have informs := answered_informs heard
                  rw [Run.execute_bind_ok heard, Run.execute_bind_ok heard]
                  exact beside_onward informs
                    (ih after fun known informed => same known (informed_trans informs informed))

end Beside

end Settle

end World

namespace Making

section Settling

variable {ε α : Type}

theorem settling_stopped {world : World} {caller : Caller} {question? : ε → Option Question}
    {fault : ε → CompileFault} {attempt : World → Except ε α} {raised : Raised} {store after : Store}
    (ran : (world.settle caller question? attempt).execute store = (.error raised, after)) :
    (settling world caller question? fault attempt).run.run store =
      (.error (.escaped raised), after) := by
  rw [settling, run_bind, asking, run_adapt,
    show (world.settle caller question? attempt).run.run store = (.error raised, after) from ran]
  rfl

theorem settling_ended {world : World} {caller : Caller} {question? : ε → Option Question}
    {fault : ε → CompileFault} {attempt : World → Except ε α} {outcome : Except ε α} {store after : Store}
    (ran : (world.settle caller question? attempt).execute store = (.ok outcome, after)) :
    (settling world caller question? fault attempt).run.run store =
      (outcome.mapError fault, after) := by
  rw [settling, run_bind, asking, run_adapt,
    show (world.settle caller question? attempt).run.run store = (.ok outcome, after) from ran]
  cases outcome <;> rfl

-- The ways in which settling ends: an object that is asked raises an exception, or an attempt
-- in an informed world decides.
inductive Settled (world : World) (question? : ε → Option Question) (fault : ε → CompileFault)
    (attempt : World → Except ε α) : Except CompileFault α → Prop where
  | escaped (raised : Raised) : Settled world question? fault attempt (.error (.escaped raised))
  | made (known : World) (result : α) (informed : world.Informed known)
      (tried : attempt known = .ok result) : Settled world question? fault attempt (.ok result)
  | refused (known : World) (found : ε) (informed : world.Informed known)
      (tried : attempt known = .error found) (decided : question? found = none) :
      Settled world question? fault attempt (.error (fault found))

theorem settling_settled (world : World) (caller : Caller) (question? : ε → Option Question)
    (fault : ε → CompileFault) (attempt : World → Except ε α) (store : Store) :
    Settled world question? fault attempt
      ((settling world caller question? fault attempt).run.run store).1 := by
  cases ran : (world.settle caller question? attempt).execute store with
  | mk outcome after =>
      cases outcome with
      | error raised =>
          rw [settling_stopped ran]
          exact .escaped raised
      | ok outcome =>
          rw [settling_ended ran]
          obtain ⟨known, informed, tried, decided⟩ := World.settle_within_gives ran
          cases outcome with
          | ok result => exact .made known result informed tried
          | error found => exact .refused known found informed tried (decided found rfl)

theorem made_of_settling {world : World} {caller : Caller} {question? : ε → Option Question}
    {fault : ε → CompileFault} {attempt : World → Except ε α} {store after : Store} {result : α}
    (ran : (settling world caller question? fault attempt).run.run store = (.ok result, after)) :
    ∃ known, world.Informed known ∧ attempt known = .ok result := by
  have settled := settling_settled world caller question? fault attempt store
  rw [ran] at settled
  cases settled with
  | made known _ informed tried => exact ⟨known, informed, tried⟩

-- What needs no answer is decided without a question, and nothing has changed.
theorem settling_decided (world : World) (caller : Caller) (question? : ε → Option Question)
    (fault : ε → CompileFault) (attempt : World → Except ε α)
    (decided : ∀ found, attempt world = .error found → question? found = none) (store : Store) :
    (settling world caller question? fault attempt).run.run store =
      ((attempt world).mapError fault, store) := by
  have asks : World.asked question? (attempt world) = none := by
    cases tried : attempt world with
    | ok result => rfl
    | error found => exact decided found tried
  exact settling_ended (World.settle_within_decided asks)

-- What is made at once is made without a question.
theorem settling_first {world : World} {caller : Caller} {question? : ε → Option Question}
    {fault : ε → CompileFault} {attempt : World → Except ε α} {result : α}
    (tried : attempt world = .ok result) (store : Store) :
    (settling world caller question? fault attempt).run.run store = (.ok result, store) := by
  rw [settling_decided _ _ _ _ _ (fun found failed => by rw [tried] at failed; cases failed), tried]
  rfl

section Beside

variable {ζ β : Type} {world : World} {caller : Caller} {question? : ε → Option Question}
  {other? : ζ → Option Question} {fault : ε → CompileFault} {blame : ζ → CompileFault}
  {attempt : World → Except ε α} {other : World → Except ζ β}

-- The ends of making one thing and another one that asks the same.
inductive Beside (world : World) (question? : ε → Option Question) (other? : ζ → Option Question)
    (fault : ε → CompileFault) (blame : ζ → CompileFault) (attempt : World → Except ε α)
    (other : World → Except ζ β) :
    Except CompileFault α × Store → Except CompileFault β × Store → Prop where
  | stopped (raised : Raised) (store : Store) :
      Beside world question? other? fault blame attempt other
        (.error (.escaped raised), store) (.error (.escaped raised), store)
  | decided (known : World) (informed : world.Informed known)
      (decided : World.asked question? (attempt known) = none) (store : Store)
      {ended : Except CompileFault β × Store}
      (follows : World.asked other? (other known) = none →
        ended = ((other known).mapError blame, store)) :
      Beside world question? other? fault blame attempt other
        ((attempt known).mapError fault, store) ended

-- What asks the same as something that is made is made beside it, in a world that has been told
-- the same.
theorem settling_beside (world : World) (caller : Caller) (question? : ε → Option Question)
    (other? : ζ → Option Question) (fault : ε → CompileFault) (blame : ζ → CompileFault)
    {attempt : World → Except ε α} {other : World → Except ζ β}
    (same : ∀ known, world.Informed known → ∀ question,
      World.asked question? (attempt known) = some question →
        World.asked other? (other known) = some question) (store : Store) :
    Beside world question? other? fault blame attempt other
      ((settling world caller question? fault attempt).run.run store)
      ((settling world caller other? blame other).run.run store) := by
  have beside := World.settle_within_beside caller World.nestingLimit store same
  cases ran : (world.settle caller question? attempt).execute store with
  | mk outcome after =>
      cases followed : (world.settle caller other? other).execute store with
      | mk partner final =>
          rw [World.settle] at ran followed
          rw [ran, followed] at beside
          cases beside with
          | stopped raised =>
              rw [settling_stopped ran, settling_stopped followed]
              exact .stopped raised after
          | decided known informed decided _ follows =>
              rw [settling_ended ran]
              refine .decided known informed decided after fun settled => ?_
              cases follows settled
              exact settling_ended followed

theorem beside_made {store after : Store} {result : α}
    (same : ∀ known, world.Informed known → ∀ question,
      World.asked question? (attempt known) = some question →
        World.asked other? (other known) = some question)
    (ran : (settling world caller question? fault attempt).run.run store = (.ok result, after)) :
    ∃ known, world.Informed known ∧ attempt known = .ok result ∧
      (World.asked other? (other known) = none →
        (settling world caller other? blame other).run.run store =
          ((other known).mapError blame, after)) := by
  have beside := settling_beside world caller question? other? fault blame same store
  generalize (settling world caller question? fault attempt).run.run store = ended at ran beside
  generalize (settling world caller other? blame other).run.run store = followed at beside ⊢
  cases beside with
  | stopped => cases ran
  | decided known informed decided _ follows =>
      cases tried : attempt known with
      | error found =>
          rw [tried] at ran
          cases ran
      | ok made =>
          rw [tried] at ran
          cases ran
          exact ⟨known, informed, tried, follows⟩

-- The ends of making two things that are attempted with related outcomes: both are stopped by the
-- same exception, or both are made or refused in one world, and leave the same store.
inductive Abreast (world : World) (fault : ε → CompileFault) (blame : ζ → CompileFault)
    (attempt : World → Except ε α) (other : World → Except ζ β) :
    Except CompileFault α × Store → Except CompileFault β × Store → Prop where
  | stopped (raised : Raised) (store : Store) : Abreast world fault blame attempt other
      (.error (.escaped raised), store) (.error (.escaped raised), store)
  | made (known : World) (informed : world.Informed known) {result : α} {partner : β}
      (tried : attempt known = .ok result) (followed : other known = .ok partner) (store : Store) :
      Abreast world fault blame attempt other (.ok result, store) (.ok partner, store)
  | refused (known : World) (informed : world.Informed known) {found : ε} {partner : ζ}
      (tried : attempt known = .error found) (followed : other known = .error partner)
      (store : Store) :
      Abreast world fault blame attempt other (.error (fault found), store)
        (.error (blame partner), store)

theorem settling_abreast (world : World) (caller : Caller) (question? : ε → Option Question)
    (other? : ζ → Option Question) (fault : ε → CompileFault) (blame : ζ → CompileFault)
    {attempt : World → Except ε α} {other : World → Except ζ β}
    (makes : ∀ known, world.Informed known → ∀ result, attempt known = .ok result →
      ∃ partner, other known = .ok partner)
    (refuses : ∀ known, world.Informed known → ∀ found, attempt known = .error found →
      ∃ partner, other known = .error partner ∧ other? partner = question? found)
    (store : Store) :
    Abreast world fault blame attempt other
      ((settling world caller question? fault attempt).run.run store)
      ((settling world caller other? blame other).run.run store) := by
  have asks : ∀ known, world.Informed known →
      World.asked other? (other known) = World.asked question? (attempt known) := by
    intro known informed
    cases tried : attempt known with
    | ok result =>
        obtain ⟨partner, followed⟩ := makes known informed result tried
        rw [followed]
        rfl
    | error found =>
        obtain ⟨partner, followed, same⟩ := refuses known informed found tried
        rw [followed]
        exact same
  have beside := settling_beside world caller question? other? fault blame
    (fun known informed question asked => (asks known informed).trans asked) store
  generalize (settling world caller question? fault attempt).run.run store = ended at beside ⊢
  generalize (settling world caller other? blame other).run.run store = followed at beside ⊢
  cases beside with
  | stopped raised after => exact .stopped raised after
  | decided known informed decided after follows =>
      rw [follows ((asks known informed).trans decided)]
      cases tried : attempt known with
      | ok result =>
          obtain ⟨partner, followed⟩ := makes known informed result tried
          rw [followed]
          exact .made known informed tried followed after
      | error found =>
          obtain ⟨partner, followed, _⟩ := refuses known informed found tried
          rw [followed]
          exact .refused known informed tried followed after

-- What is attempted alike in every world that has been told more is made alike.
theorem settling_congr {attempt other : World → Except ε α}
    (same : ∀ known, world.Informed known → other known = attempt known) (store : Store) :
    (settling world caller question? fault other).run.run store =
      (settling world caller question? fault attempt).run.run store := by
  have asks : ∀ known, world.Informed known → ∀ question,
      World.asked question? (attempt known) = some question →
        World.asked question? (other known) = some question := by
    intro known informed question asked
    rw [same known informed]
    exact asked
  have beside := settling_beside world caller question? question? fault fault asks store
  generalize (settling world caller question? fault attempt).run.run store = ended at beside
  generalize (settling world caller question? fault other).run.run store = followed at beside
  cases beside with
  | stopped => rfl
  | decided known informed decided final follows =>
      rw [same known informed] at follows
      exact follows decided

end Beside

end Settling

end Making

namespace Strategy

variable {world : World} {caller : Caller} {registry : Registry} {options : Options}
  {label : Option String} {store : Store}

theorem installed_is_loaded (registry : Registry) (options : Options) (label : Option String)
    (code : Code) : (install registry options label code).1 =
      code.load (options.fileName code.name registry.serial) := by
  unfold install Registry.load
  cases code.load (options.fileName code.name registry.serial) with
  | error fault => rfl
  | ok thunk => cases label <;> rfl

-- The thunk that a build ends with, or its fault.
def built (world : World) (caller : Caller) (registry : Registry) (options : Options)
    (request : Request) (label : Option String) (candidate : Candidate) (store : Store) :
    Except CompileFault Thunk :=
  ((build world caller registry options request label candidate).run store).1.1

theorem built_of_code {request : Request} {candidate : Candidate}
    {made : Except CompileFault Code} {after : Store}
    (ran : (code world caller request candidate).run.run store = (made, after)) :
    built world caller registry options request label candidate store =
      (made >>= fun code =>
        (code.load (options.fileName code.name registry.serial)).mapError CompileFault.load) := by
  rw [ExceptT.run, StateT.run] at ran
  unfold built build
  simp only [bind, StateT.run, StateT.bind, ran]
  cases made with
  | error fault => rfl
  | ok code =>
      change (install registry options label code).1.mapError CompileFault.load = _
      rw [installed_is_loaded]
      rfl

-- A thunk is some code that was made, and loaded without a fault.
theorem code_of_built {request : Request} {candidate : Candidate} {thunk : Thunk}
    (made : built world caller registry options request label candidate store = .ok thunk) :
    (∃ after, (code world caller request candidate).run.run store = (.ok thunk.code, after)) ∧
      Loading.check thunk.code thunk.fileName = .ok () ∧
      thunk.fileName = options.fileName thunk.code.name registry.serial := by
  cases ran : (code world caller request candidate).run.run store with
  | mk outcome after =>
      rw [built_of_code ran] at made
      obtain ⟨code, rfl, loading⟩ := ok_of_bind made
      cases loaded : code.load (options.fileName code.name registry.serial) with
      | error fault =>
          rw [loaded] at loading
          cases loading
      | ok found =>
          rw [loaded] at loading
          cases loading
          obtain ⟨_, checked, same⟩ := ok_of_bind loaded
          cases same
          exact ⟨⟨after, rfl⟩, checked, rfl⟩

theorem built_of_checked {request : Request} {candidate : Candidate} {made : Code} {after : Store}
    (ran : (code world caller request candidate).run.run store = (.ok made, after))
    (checked : Loading.check made (options.fileName made.name registry.serial) = .ok ()) :
    built world caller registry options request label candidate store =
      .ok ⟨made, options.fileName made.name registry.serial⟩ := by
  rw [built_of_code ran]
  simp only [bind, Except.bind, Code.load, checked]
  rfl

end Strategy

end MemberThunks
