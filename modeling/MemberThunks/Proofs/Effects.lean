import MemberThunks.Thunk.Located

set_option autoImplicit false

/- Laws of runs. A run that goes on changes its failures by a map without changing what it
   does to the store; a run can be followed from one store by its outcome there, and a failure
   back to the part of the run that raises it. -/
namespace MemberThunks

theorem ok_of_bind {ε α β : Type} {first : Except ε α} {next : α → Except ε β} {result : β}
    (done : (first >>= next) = .ok result) :
    ∃ middle, first = .ok middle ∧ next middle = .ok result := by
  cases first with
  | error fault => cases done
  | ok middle => exact ⟨middle, rfl, done⟩

theorem error_of_bind {ε α β : Type} {first : Except ε α} {next : α → Except ε β} {fault : ε}
    (failed : (first >>= next) = .error fault) :
    first = .error fault ∨ ∃ middle, first = .ok middle ∧ next middle = .error fault := by
  cases first with
  | error raised =>
      cases failed
      exact .inl rfl
  | ok middle => exact .inr ⟨middle, rfl, failed⟩

theorem error_of_each {ε α β : Type} {change : α → Except ε β} {items : List α} {fault : ε}
    (failed : items.mapM change = .error fault) : ∃ item ∈ items, change item = .error fault := by
  induction items with
  | nil => cases failed
  | cons item rest ih =>
      rw [List.mapM_cons] at failed
      rcases error_of_bind failed with first | ⟨result, _, failed⟩
      · exact ⟨item, List.mem_cons_self, first⟩
      · rcases error_of_bind failed with later | ⟨results, _, failed⟩
        · obtain ⟨other, listed, failed⟩ := ih later
          exact ⟨other, List.mem_cons_of_mem item listed, failed⟩
        · cases failed

theorem value_of_ok {ε α : Type} {outcome : Except ε α} (done : outcome.isOk = true) :
    ∃ value, outcome = .ok value := by
  cases outcome with
  | error fault => cases done
  | ok value => exact ⟨value, rfl⟩

-- Whether an outcome is a result, and one that passes a test.
def passes {ε α : Type} (test : α → Bool) : Except ε α → Bool
  | .ok value => test value
  | .error _ => false

theorem value_of_passes {ε α : Type} {test : α → Bool} {outcome : Except ε α}
    (done : passes test outcome = true) :
    ∃ value, outcome = .ok value ∧ test value = true := by
  cases outcome with
  | error fault => cases done
  | ok value => exact ⟨value, rfl, done⟩

section Adapt

variable {ε δ γ α β : Type}

theorem run_bind (first : ExceptT ε (StateM Store) α) (next : α → ExceptT ε (StateM Store) β)
    (store : Store) : (first >>= next).run.run store =
      match first.run.run store with
      | (.ok result, after) => (next result).run.run after
      | (.error fault, after) => (.error fault, after) := by
  simp only [ExceptT.run, StateT.run, bind, ExceptT.bind, ExceptT.mk, StateT.bind,
    ExceptT.bindCont]
  cases first store with
  | mk result after =>
      cases result with
      | ok value => rfl
      | error fault => rfl

theorem ok_of_run_bind {first : ExceptT ε (StateM Store) α}
    {next : α → ExceptT ε (StateM Store) β} {store after : Store} {result : β}
    (ran : (first >>= next).run.run store = (.ok result, after)) :
    ∃ middle between, first.run.run store = (.ok middle, between) ∧
      (next middle).run.run between = (.ok result, after) := by
  rw [run_bind] at ran
  cases started : first.run.run store with
  | mk outcome between =>
      rw [started] at ran
      cases outcome with
      | ok middle => exact ⟨middle, between, rfl, ran⟩
      | error fault => cases ran

theorem run_map (change : α → β) (action : ExceptT ε (StateM Store) α) (store : Store) :
    (change <$> action).run.run store =
      ((action.run.run store).1.map change, (action.run.run store).2) := by
  rw [map_eq_pure_bind, run_bind]
  cases action.run.run store with
  | mk result after => cases result <;> rfl

theorem ok_of_run_map {change : α → β} {action : ExceptT ε (StateM Store) α}
    {store after : Store} {result : β}
    (ran : (change <$> action).run.run store = (.ok result, after)) :
    ∃ given, action.run.run store = (.ok given, after) ∧ result = change given := by
  rw [run_map] at ran
  cases started : action.run.run store with
  | mk outcome final =>
      rw [started] at ran
      cases outcome with
      | error fault => cases ran
      | ok given =>
          cases ran
          exact ⟨given, rfl, rfl⟩

theorem run_adapt (change : ε → δ) (action : ExceptT ε (StateM Store) α) (store : Store) :
    (ExceptT.adapt change action).run.run store =
      ((action.run.run store).1.mapError change, (action.run.run store).2) := by
  change (match action store with
    | (outcome, after) => (outcome.mapError change, after)) = _
  cases ran : action store with
  | mk outcome after =>
      rw [show action.run.run store = (outcome, after) from ran]

theorem run_try (whole : ExceptT ε (StateM Store) α) (handler : ε → ExceptT ε (StateM Store) α)
    (store : Store) : (tryCatch whole handler).run.run store =
      match whole.run.run store with
      | (.ok result, after) => (.ok result, after)
      | (.error fault, after) => (handler fault).run.run after := by
  simp only [tryCatch, tryCatchThe, MonadExceptOf.tryCatch, ExceptT.tryCatch, ExceptT.run,
    ExceptT.mk, StateT.run, bind, StateT.bind]
  cases whole store with
  | mk outcome after => cases outcome <;> rfl

theorem adapt_bind (change : ε → δ) (first : ExceptT ε (StateM Store) α)
    (next : α → ExceptT ε (StateM Store) β) :
    ExceptT.adapt change (first >>= next) =
      ExceptT.adapt change first >>= fun result => ExceptT.adapt change (next result) := by
  apply ExceptT.ext
  funext store
  change (ExceptT.adapt change (first >>= next)).run.run store =
    (ExceptT.adapt change first >>= fun result => ExceptT.adapt change (next result)).run.run store
  rw [run_adapt, run_bind, run_bind, run_adapt]
  cases first.run.run store with
  | mk result after =>
      cases result with
      | ok value => exact (run_adapt change (next value) after).symm
      | error fault => rfl

theorem adapt_adapt (outer : δ → γ) (inner : ε → δ) (action : ExceptT ε (StateM Store) α) :
    ExceptT.adapt outer (ExceptT.adapt inner action) = ExceptT.adapt (outer ∘ inner) action := by
  apply ExceptT.ext
  funext store
  change (ExceptT.adapt outer (ExceptT.adapt inner action)).run.run store =
    (ExceptT.adapt (outer ∘ inner) action).run.run store
  rw [run_adapt, run_adapt, run_adapt]
  cases (action.run.run store).1 <;> rfl

theorem adapt_id (action : ExceptT ε (StateM Store) α) : ExceptT.adapt id action = action := by
  apply ExceptT.ext
  funext store
  change (ExceptT.adapt id action).run.run store = action.run.run store
  rw [run_adapt]
  cases action.run.run store with
  | mk outcome after => cases outcome <;> rfl

end Adapt

section Raises

variable {ε δ α β : Type}

-- A run that ends in some fault, or in some result, begun in one store or another.
def Raises (action : ExceptT ε (StateM Store) α) (fault : ε) : Prop :=
  ∃ before after, action.run.run before = (.error fault, after)

def Yields (action : ExceptT ε (StateM Store) α) (result : α) : Prop :=
  ∃ before after, action.run.run before = (.ok result, after)

variable {fault : ε}

theorem raises_pure {result : α} : ¬ Raises (pure result) fault := by
  rintro ⟨before, after, ran⟩
  cases ran

theorem raises_throw {raised : ε}
    (raises : Raises (throw raised : ExceptT ε (StateM Store) α) fault) : fault = raised := by
  obtain ⟨before, after, ran⟩ := raises
  cases ran
  rfl

theorem raises_bind {first : ExceptT ε (StateM Store) α} {next : α → ExceptT ε (StateM Store) β}
    (raises : Raises (first >>= next) fault) :
    Raises first fault ∨ ∃ middle, Yields first middle ∧ Raises (next middle) fault := by
  obtain ⟨before, after, ran⟩ := raises
  rw [run_bind] at ran
  split at ran
  · rename_i middle between started
    exact .inr ⟨middle, ⟨before, between, started⟩, between, after, ran⟩
  · rename_i raised between started
    cases ran
    exact .inl ⟨before, after, started⟩

theorem raises_map {change : α → β} {action : ExceptT ε (StateM Store) α}
    (raises : Raises (change <$> action) fault) : Raises action fault := by
  obtain ⟨before, after, ran⟩ := raises
  rw [run_map] at ran
  cases started : action.run.run before with
  | mk outcome final =>
      rw [started] at ran
      cases outcome with
      | ok result => cases ran
      | error raised =>
          cases ran
          exact ⟨before, final, started⟩

theorem raises_adapt {change : δ → ε} {action : ExceptT δ (StateM Store) α}
    (raises : Raises (ExceptT.adapt change action) fault) :
    ∃ inner, Raises action inner ∧ fault = change inner := by
  obtain ⟨before, after, ran⟩ := raises
  rw [run_adapt] at ran
  cases started : action.run.run before with
  | mk outcome final =>
      rw [started] at ran
      cases outcome with
      | ok result => cases ran
      | error raised =>
          cases ran
          exact ⟨raised, ⟨before, final, started⟩, rfl⟩

theorem raises_try {whole : ExceptT ε (StateM Store) α} {handler : ε → ExceptT ε (StateM Store) α}
    (raises : Raises (tryCatch whole handler) fault) :
    ∃ inner, Raises whole inner ∧ Raises (handler inner) fault := by
  obtain ⟨before, after, ran⟩ := raises
  rw [run_try] at ran
  split at ran
  · cases ran
  · rename_i inner between started
    exact ⟨inner, ⟨before, between, started⟩, between, after, ran⟩

theorem raises_each {change : α → ExceptT ε (StateM Store) β} {items : List α}
    (raises : Raises (items.mapM change) fault) : ∃ item ∈ items, Raises (change item) fault := by
  induction items with
  | nil => exact absurd raises raises_pure
  | cons item rest ih =>
      rw [List.mapM_cons] at raises
      rcases raises_bind raises with first | ⟨result, _, raises⟩
      · exact ⟨item, List.mem_cons_self, first⟩
      · rcases raises_bind raises with later | ⟨results, _, raises⟩
        · obtain ⟨other, listed, raises⟩ := ih later
          exact ⟨other, List.mem_cons_of_mem item listed, raises⟩
        · exact absurd raises raises_pure

theorem yields_pure {given result : α}
    (yields : Yields (pure given : ExceptT ε (StateM Store) α) result) : result = given := by
  obtain ⟨before, after, ran⟩ := yields
  cases ran
  rfl

theorem yields_map {change : α → β} {action : ExceptT ε (StateM Store) α} {result : β}
    (yields : Yields (change <$> action) result) :
    ∃ given, Yields action given ∧ result = change given := by
  obtain ⟨before, after, ran⟩ := yields
  obtain ⟨given, started, same⟩ := ok_of_run_map ran
  exact ⟨given, ⟨before, after, started⟩, same⟩

theorem yields_bind {first : ExceptT ε (StateM Store) α} {next : α → ExceptT ε (StateM Store) β}
    {result : β} (yields : Yields (first >>= next) result) :
    ∃ middle, Yields first middle ∧ Yields (next middle) result := by
  obtain ⟨before, after, ran⟩ := yields
  obtain ⟨middle, between, started, followed⟩ := ok_of_run_bind ran
  exact ⟨middle, ⟨before, between, started⟩, between, after, followed⟩

theorem yields_try {whole : ExceptT ε (StateM Store) α} {handler : ε → ExceptT ε (StateM Store) α}
    {result : α} (yields : Yields (tryCatch whole handler) result) :
    Yields whole result ∨ ∃ raised, Raises whole raised ∧ Yields (handler raised) result := by
  obtain ⟨before, after, ran⟩ := yields
  rw [run_try] at ran
  split at ran
  · rename_i started
    cases ran
    exact .inl ⟨before, _, started⟩
  · rename_i raised between started
    exact .inr ⟨raised, ⟨before, between, started⟩, between, after, ran⟩

theorem yields_adapt {change : δ → ε} {action : ExceptT δ (StateM Store) α} {result : α}
    (yields : Yields (ExceptT.adapt change action) result) : Yields action result := by
  obtain ⟨before, after, ran⟩ := yields
  rw [run_adapt] at ran
  cases started : action.run.run before with
  | mk outcome final =>
      rw [started] at ran
      cases outcome with
      | ok given =>
          cases ran
          exact ⟨before, final, started⟩
      | error raised => cases ran

end Raises

namespace LocatedRun

variable {α β : Type}

theorem plain_on_line (line : Option Nat) (action : Run α) :
    LocatedRun.plain (LocatedRun.onLine line action) = action := by
  rw [LocatedRun.plain, LocatedRun.onLine, adapt_adapt]
  exact adapt_id action

theorem plain_bind (first : LocatedRun α) (next : α → LocatedRun β) :
    LocatedRun.plain (first >>= next) =
      LocatedRun.plain first >>= fun result => LocatedRun.plain (next result) :=
  adapt_bind Located.raised first next

theorem execute_on_line {line : Option Nat} {action : Run α} {store : Store} :
    (LocatedRun.onLine line action).execute store =
      ((action.execute store).1.mapError (Located.mk line), (action.execute store).2) :=
  run_adapt (Located.mk line) action store

-- Runs that end alike end alike on a line.
theorem on_line_congr (line : Option Nat) {first second : Run α} {store after : Store}
    (same : first.execute store = second.execute after) :
    (LocatedRun.onLine line first).execute store =
      (LocatedRun.onLine line second).execute after := by
  rw [execute_on_line, execute_on_line, same]

end LocatedRun

namespace Run

variable {α β : Type}

theorem execute_bind_ok {first : Run α} {next : α → Run β} {store after : Store} {result : α}
    (ran : first.execute store = (.ok result, after)) :
    Run.execute (first >>= next) store = (next result).execute after := by
  have followed := run_bind first next store
  rwa [show first.run.run store = (.ok result, after) from ran] at followed

theorem execute_bind_error {first : Run α} {next : α → Run β} {store after : Store}
    {raised : Raised} (ran : first.execute store = (.error raised, after)) :
    Run.execute (first >>= next) store = (.error raised, after) := by
  have followed := run_bind first next store
  rwa [show first.run.run store = (.error raised, after) from ran] at followed

theorem ok_of_execute_bind {first : Run α} {next : α → Run β} {store after : Store} {result : β}
    (ran : Run.execute (first >>= next) store = (.ok result, after)) :
    ∃ middle between, first.execute store = (.ok middle, between) ∧
      (next middle).execute between = (.ok result, after) :=
  ok_of_run_bind ran

theorem execute_bind_congr {first other : Run α} {store : Store}
    (same : first.execute store = other.execute store) (next : α → Run β) :
    Run.execute (first >>= next) store = Run.execute (other >>= next) store := by
  have left := run_bind first next store
  rw [show first.run.run store = other.run.run store from same] at left
  exact left.trans (run_bind other next store).symm

-- What is known without a run stays as it is known.
theorem ok_of_yields {outcome : Except Raised α} {result : α}
    (yields : Yields (Run.ofExcept outcome) result) : outcome = .ok result := by
  obtain ⟨before, after, ran⟩ := yields
  cases outcome with
  | error raised => cases ran
  | ok given =>
      cases ran
      rfl

theorem error_of_raises {outcome : Except Raised α} {raised : Raised}
    (raises : Raises (Run.ofExcept outcome) raised) : outcome = .error raised := by
  obtain ⟨before, after, ran⟩ := raises
  cases outcome with
  | error given =>
      cases ran
      rfl
  | ok given => cases ran

-- Whether a run from a store ends in a failure of some kind.
def failsAs (action : Run α) (kind : FailureKind) (store : Store) : Bool :=
  match (action.execute store).1 with
  | .ok _ => false
  | .error raised => raised.failure.kind = kind

theorem raised_of_fails {action : Run α} {kind : FailureKind} {store : Store}
    (fails : action.failsAs kind store = true) : ∃ raised after,
      action.execute store = (.error raised, after) ∧ raised.failure.kind = kind := by
  unfold failsAs at fails
  cases ran : action.execute store with
  | mk outcome after =>
      rw [ran] at fails
      cases outcome with
      | ok result => cases fails
      | error raised => exact ⟨raised, after, rfl, of_decide_eq_true fails⟩

-- Whether a run from a store ends in a failure that, with what it leaves, passes a test.
def failsWith (action : Run α) (test : Raised → Store → Bool) (store : Store) : Bool :=
  match action.execute store with
  | (.ok _, _) => false
  | (.error raised, after) => test raised after

theorem failure_of_fails {action : Run α} {test : Raised → Store → Bool} {store : Store}
    (fails : action.failsWith test store = true) : ∃ raised after,
      action.execute store = (.error raised, after) ∧ test raised after = true := by
  unfold failsWith at fails
  cases ran : action.execute store with
  | mk outcome after =>
      rw [ran] at fails
      cases outcome with
      | ok result => cases fails
      | error raised => exact ⟨raised, after, rfl, fails⟩

-- Whether a run from a store ends in a result, and in a store that passes a test.
def leaves (action : Run α) (test : Store → Bool) (store : Store) : Bool :=
  match action.execute store with
  | (.ok _, after) => test after
  | (.error _, _) => false

theorem result_of_leaves {action : Run α} {test : Store → Bool} {store : Store}
    (done : action.leaves test store = true) : ∃ result after,
      action.execute store = (.ok result, after) ∧ test after = true := by
  unfold leaves at done
  cases ran : action.execute store with
  | mk outcome after =>
      rw [ran] at done
      cases outcome with
      | ok result => exact ⟨result, after, rfl, done⟩
      | error raised => cases done

theorem any_of_single (check : Run Bool) : anyOf [check] = check := by
  have back : (fun found => if found = true then pure true else pure false : Bool → Run Bool) =
      pure := by
    funext found
    cases found <;> rfl
  rw [anyOf, anyOf, back, bind_pure]

theorem any_of_append (first second : List (Run Bool)) : anyOf (first ++ second) =
    (anyOf first >>= fun found => if found then pure true else anyOf second) := by
  induction first with
  | nil => rfl
  | cons check rest ih =>
      rw [List.cons_append, anyOf, anyOf, bind_assoc, ih]
      congr 1
      funext found
      cases found <;> rfl

end Run

end MemberThunks
