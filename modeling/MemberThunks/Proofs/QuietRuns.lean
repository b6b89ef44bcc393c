import MemberThunks.Proofs.Verdicts

set_option autoImplicit false

/- Runs that only look. A quiet run may remember what abstract classes have found, and leaves all
   else in the store: the attributes and classes of objects, and the trace of calls. -/
namespace MemberThunks

namespace Run

variable {α β : Type} {world : World} {store : Store}

-- A run that leaves every store unmoved in which objects have the classes of a given one.
def Quiet (world : World) (store : Store) (action : Run α) : Prop :=
  ∀ before, before.classes = store.classes → world.Unmoved before (action.execute before).2

theorem quiet_of_still {action : Run α}
    (still : ∀ before, before.classes = store.classes → (action.execute before).2 = before) :
    Quiet world store action := by
  intro before same
  rw [still before same]
  exact world.unmoved_refl before

theorem quiet_pure (result : α) : Quiet world store (pure result) :=
  quiet_of_still fun _ _ => rfl

theorem quiet_fail (raised : Raised) : Quiet world store (fail raised : Run α) :=
  quiet_of_still fun _ _ => rfl

theorem quiet_bind {first : Run α} {next : α → Run β} (starts : Quiet world store first)
    (goesOn : ∀ result, Quiet world store (next result)) : Quiet world store (first >>= next) := by
  intro before same
  cases ran : first.execute before with
  | mk outcome between =>
      have middle := starts before same
      rw [ran] at middle
      cases outcome with
      | ok result =>
          rw [execute_bind_ok ran]
          exact World.unmoved_trans middle
            (goesOn result between (middle.alike.classes.trans same))
      | error raised =>
          rw [execute_bind_error ran]
          exact middle

-- What follows a failure is not run.
theorem quiet_raised (raised : Raised) {next : α → Run β} :
    Quiet world store (fail raised >>= next) :=
  quiet_of_still fun before _ => congrArg Prod.snd
    (execute_bind_error (show (fail raised : Run α).execute before = (.error raised, before)
      from rfl))

theorem quiet_get {next : Store → Run β}
    (goesOn : ∀ before, before.classes = store.classes → Quiet world store (next before)) :
    Quiet world store (get >>= next) := by
  intro before same
  have started : (get : Run Store).execute before = (.ok before, before) := rfl
  rw [execute_bind_ok started]
  exact goesOn before same before same

theorem quiet_any_of {checks : List (Run Bool)}
    (quiet : ∀ check ∈ checks, Quiet world store check) : Quiet world store (anyOf checks) := by
  induction checks with
  | nil => exact quiet_pure false
  | cons check rest ih =>
      refine quiet_bind (quiet check List.mem_cons_self) ?_
      intro found
      cases found with
      | true => exact quiet_pure true
      | false => exact ih fun other listed => quiet other (List.mem_cons_of_mem _ listed)

end Run

end MemberThunks
