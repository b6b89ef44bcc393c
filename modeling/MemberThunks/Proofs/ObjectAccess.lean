import MemberThunks.Proofs.Effects
import MemberThunks.World.Access

set_option autoImplicit false

/- Objects as they are now, and reads of them that nothing of their own class intercepts. -/
namespace MemberThunks

namespace Value

theorem address_with_class (value : Value) (target : ClassRef) :
    (value.withClass target).address? = value.address? := by
  cases value <;> rfl

theorem with_class_twice (value : Value) (first second : ClassRef) :
    (value.withClass first).withClass second = value.withClass second := by
  cases value <;> rfl

end Value

namespace Store

theorem address_current (store : Store) (value : Value) :
    (store.current value).address? = value.address? := by
  unfold current
  split
  · exact value.address_with_class _
  · rfl

theorem current_current (store : Store) (value : Value) :
    store.current (store.current value) = store.current value := by
  rw [current, address_current, current]
  split
  · exact value.with_class_twice _ _
  · rfl

end Store

namespace World

variable {world : World} {call : Caller} {name : String}

-- What has an address is read as an object is.
theorem normal_get_of_address {value : Value} {address : Nat}
    (kept : value.address? = some address) :
    world.normalGet call value name = world.objectGet call value name := by
  cases value <;> first | rfl | cases kept

theorem fallback_not_asked {fallback : Option Value} {access : Run Value}
    {result : Value} {store after : Store} (ran : access.execute store = (.ok result, after)) :
    (orFallback call fallback name access).execute store = (.ok result, after) := by
  cases fallback with
  | none => exact ran
  | some answer =>
      simp only [orFallback, Run.execute, tryCatch, tryCatchThe, MonadExceptOf.tryCatch,
        ExceptT.tryCatch, ExceptT.run, ExceptT.mk, StateT.run, bind, StateT.bind]
      rw [show access store = (.ok result, after) from ran]
      rfl

-- A value that is not asked for its class, or is asked in the way of the language alone.
def Candid (world : World) (store : Store) (value : Value) : Prop :=
  value.address? = none ∨
    (world.hook? (store.current value) "__getattribute__" = none ∧
      ∃ owner, world.lookup (store.current value).typeOf "__class__" = some (owner, .reserved))

theorem read_class_reserved (store : Store) (value : Value) :
    world.readReserved store value "__class__" =
      pure (world.reserved store value "__class__") := by
  cases value <;> rfl

-- A candid object is asked for its class without a call, and tells the class that it has.
theorem class_told_by_candid {value : Value} {store : Store} {address : Nat}
    (kept : value.address? = some address) (candid : world.Candid store value) :
    (world.normalGet call value "__class__").execute store =
      (.ok (.cls (store.current value).typeOf), store) := by
  have started : (get : Run Store).execute store = (.ok store, store) := rfl
  rcases candid with bare | ⟨unhooked, owner, found⟩
  · rw [bare] at kept
    cases kept
  · rw [normal_get_of_address kept, objectGet, Run.execute_bind_ok started]
    apply fallback_not_asked
    rw [hookedGet, unhooked]
    simp only [directGet]
    rw [Run.execute_bind_ok started, store.current_current, found]
    -- an enumeration and an ordinary object tell it alike
    simp only [read_class_reserved]
    rfl

-- What a class holds that is read without a call.
def Inert (world : World) : Attribute → Prop
  | .property _ => False
  | .value content => world.operation? content "__get__" = none
  | _ => True

-- What a class holds that all its objects have.
def isShared : Attribute → Bool
  | .value _ | .static _ | .classBound _ | .native _ => true
  | _ => false

-- An attribute of an object that is read without a call: no hook of the class stands before it,
-- what the class holds is inert, and the fallback, if there is one, is not asked.
structure ReadsAlone (world : World) (store : Store) (target : Value) (name : String) : Prop where
  ordinary : ∀ call, world.normalGet call target name = world.objectGet call target name
  unhooked : world.hook? (store.current target) "__getattribute__" = none
  inert : ∀ owner held, world.lookup (store.current target).typeOf name = some (owner, held) →
    world.Inert held
  answered : world.hook? (store.current target) "__getattr__" = none ∨
    ∃ owner held, world.lookup (store.current target).typeOf name = some (owner, held) ∧
      isShared held = true

theorem read_bound_inert (call : Caller) (name : String) {held : Attribute}
    (inert : world.Inert held) (target : Value) (owner : ClassRef) :
    ∃ content, world.readBound call target owner name held = pure content := by
  cases held with
  | property definition => cases inert
  | value content =>
      have unread : world.operation? content "__get__" = none := inert
      rw [readBound]
      cases content <;> simp only [readContent, unread] <;> exact ⟨_, rfl⟩
  | static callee => exact ⟨_, rfl⟩
  | classBound callee => exact ⟨_, rfl⟩
  | native definition => exact ⟨_, rfl⟩
  | slot => exact ⟨_, rfl⟩
  | reserved => exact ⟨_, rfl⟩

theorem read_yielding_inert (call : Caller) (name : String) (value : Value)
    {found : Option (ClassRef × Attribute)} {store : Store}
    (inert : ∀ owner held, found = some (owner, held) → world.Inert held) :
    ∃ outcome, (world.readYielding call value name found).execute store = (outcome, store) ∧
      (found.isSome = true → outcome.isOk = true) := by
  have started : (get : Run Store).execute store = (.ok store, store) := rfl
  rw [readYielding, Run.execute_bind_ok started]
  cases world.ownEntry store value name with
  | some content => exact ⟨_, rfl, fun _ => rfl⟩
  | none =>
      cases found with
      | none =>
          cases world.routineTrait? name value with
          | some trait => exact ⟨.ok trait, rfl, fun _ => rfl⟩
          | none =>
              refine ⟨.error (.noAttribute (world.ownerName value) name), rfl, fun present => ?_⟩
              cases present
      | some entry =>
          obtain ⟨owner, held⟩ := entry
          obtain ⟨content, reads⟩ := read_bound_inert call name (inert owner held rfl) value owner
          exact ⟨.ok content, congrArg (Run.execute · store) reads, fun _ => rfl⟩

theorem read_reserved_still (known : Store) (value : Value) (store : Store) :
    ∃ outcome, (world.readReserved known value name).execute store = (outcome, store) := by
  unfold readReserved
  split
  · exact ⟨_, rfl⟩
  · exact ⟨_, rfl⟩
  · exact ⟨_, rfl⟩
  · split <;> exact ⟨_, rfl⟩
  · split <;> exact ⟨_, rfl⟩
  · split <;> exact ⟨_, rfl⟩
  · exact ⟨_, rfl⟩

theorem direct_get_inert (call : Caller) {store : Store} {value : Value}
    (inert : ∀ owner held, world.lookup (store.current value).typeOf name = some (owner, held) →
      world.Inert held) :
    ∃ outcome, (world.directGet call value name).execute store = (outcome, store) ∧
      ((∃ owner held, world.lookup (store.current value).typeOf name = some (owner, held) ∧
        isShared held = true) → outcome.isOk = true) := by
  have started : (get : Run Store).execute store = (.ok store, store) := rfl
  rw [directGet, Run.execute_bind_ok started]
  dsimp only
  revert inert
  generalize world.lookup (store.current value).typeOf name = found
  intro inert
  obtain ⟨outcome, ran, given⟩ := read_yielding_inert call name (store.current value) inert
  cases found with
  | none => exact ⟨outcome, ran, fun shared => by simp at shared⟩
  | some entry =>
      obtain ⟨owner, held⟩ := entry
      have unshared (own : isShared held = false) {result : Except Raised Value} :
          (∃ other kept, some (owner, held) = some (other, kept) ∧ isShared kept = true) →
            result.isOk = true := by
        rintro ⟨_, _, same, shared⟩
        cases same
        rw [own] at shared
        cases shared
      cases held with
      | property definition => exact (inert owner _ rfl).elim
      | slot =>
          simp only
          cases ownSlot store (store.current value) owner name <;>
            exact ⟨_, rfl, unshared rfl⟩
      | reserved =>
          obtain ⟨result, still⟩ := read_reserved_still store (store.current value) store
          simp only
          exact ⟨result, still, unshared rfl⟩
      | value content =>
          simp only
          split
          · obtain ⟨result, reads⟩ := read_bound_inert call name (inert owner _ rfl)
              (store.current value) owner
            exact ⟨.ok result, congrArg (Run.execute · store) reads, fun _ => rfl⟩
          · exact ⟨outcome, ran, fun _ => given rfl⟩
      | static _ | classBound _ | native _ =>
          simp only
          exact ⟨outcome, ran, fun _ => given rfl⟩

theorem fallback_unneeded {fallback : Option Value} {access : Run Value} {store : Store}
    {outcome : Except Raised Value} (ran : access.execute store = (outcome, store))
    (answered : fallback = none ∨ outcome.isOk = true) :
    (orFallback call fallback name access).execute store = (outcome, store) := by
  cases fallback with
  | none => exact ran
  | some answer =>
      obtain ⟨result, rfl⟩ := value_of_ok (answered.resolve_left (by simp))
      exact fallback_not_asked ran

theorem read_alone {store : Store} {target : Value} (alone : world.ReadsAlone store target name) :
    ((world.normalGet call target name).execute store).2 = store := by
  have started : (get : Run Store).execute store = (.ok store, store) := rfl
  obtain ⟨outcome, ran, found⟩ := direct_get_inert call
    (by rw [store.current_current]; exact alone.inert)
  rw [store.current_current] at found
  have answered := alone.answered.imp_right found
  rw [alone.ordinary, objectGet, Run.execute_bind_ok started,
    fallback_unneeded (by rw [hookedGet, alone.unhooked]; exact ran) answered]

end World

end MemberThunks
