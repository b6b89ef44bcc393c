import MemberThunks.Proofs.ConversionChecks

set_option autoImplicit false

/- Checks that answer alike. What a candid value is an instance of hangs on its class and on what
   abstract classes find of that, and on nothing that a check changes; so the checks of a candid
   value have one answer each, whichever of them come before. -/
namespace MemberThunks

-- Whether a check succeeds.
def Run.succeeds (check : Run Bool) (store : Store) : Bool :=
  match (check.execute store).1 with
  | .ok found => found
  | .error _ => false

-- A check with one answer in all stores of a kind, which it does not leave.
def Run.Answers (kept : Store → Prop) (check : Run Bool) (answer : Bool) : Prop :=
  ∀ before, kept before → ∃ after, check.execute before = (.ok answer, after) ∧ kept after

-- Among checks that answer, whichever of them come before, the first that succeeds decides.
theorem Run.any_of_answers {α : Type} {kept : Store → Prop} {items : List α}
    {check : α → Run Bool} {answer : α → Bool}
    (answers : ∀ item ∈ items, (check item).Answers kept (answer item)) :
    (Run.anyOf (items.map check)).Answers kept (items.any answer) := by
  induction items with
  | nil => exact fun before here => ⟨before, rfl, here⟩
  | cons item rest ih =>
      intro before here
      obtain ⟨between, ran, still⟩ := answers item List.mem_cons_self before here
      rw [List.map_cons, Run.anyOf, Run.execute_bind_ok ran, List.any_cons]
      cases answer item with
      | true => exact ⟨between, rfl, still⟩
      | false =>
          exact ih (fun other listed => answers other (List.mem_cons_of_mem _ listed)) between still

namespace World

-- A check with one answer in all stores that agree with a given one, which leaves them unmoved.
def Steady (world : World) (store : Store) (check : Run Bool) (answer : Bool) : Prop :=
  ∀ before, world.Agrees store before →
    ∃ after, check.execute before = (.ok answer, after) ∧ world.Unmoved before after

section Steady

variable {world : World} {call : Caller} {store : Store} {value : Value}

theorem steady_pure (answer : Bool) : world.Steady store (pure answer) answer :=
  fun before _ => ⟨before, rfl, world.unmoved_refl before⟩

theorem steady_verdict (kind : Abstract) (target : ClassRef) :
    world.Steady store (world.verdict kind target) (world.verdictBy store kind target) := by
  intro before agrees
  obtain ⟨after, ran, unmoved⟩ := verdict_agrees before kind target
  rw [agrees.verdicts] at ran
  exact ⟨after, ran, unmoved⟩

theorem succeeds_of_steady {check : Run Bool} {answer : Bool}
    (steady : world.Steady store check answer) : check.succeeds store = answer := by
  obtain ⟨after, ran, _⟩ := steady store (world.agrees_refl store)
  rw [Run.succeeds, ran]

theorem answers_of_steady {check : Run Bool} {answer : Bool}
    (steady : world.Steady store check answer) :
    check.Answers (world.Agrees store) answer := by
  intro before agrees
  obtain ⟨after, ran, unmoved⟩ := steady before agrees
  exact ⟨after, ran, agrees_trans agrees unmoved.agrees⟩

theorem steady_then {first : Run Bool} {next : Bool → Run Bool} {middle answer : Bool}
    (starts : world.Steady store first middle) (goesOn : world.Steady store (next middle) answer) :
    world.Steady store (first >>= next) answer := by
  intro before agrees
  obtain ⟨between, ran, unmoved⟩ := starts before agrees
  obtain ⟨after, followed, still⟩ := goesOn between (agrees_trans agrees unmoved.agrees)
  exact ⟨after, by rw [Run.execute_bind_ok ran, followed], unmoved_trans unmoved still⟩

-- The classes that any value can be asked for.
def Askable : ClassRef → Prop
  | .builtin .any | .builtin (.other "typing" "Protocol") => False
  | _ => True

-- The classes that tell their instances by what a class can do, and remember it.
def IsAbstract : ClassRef → Prop
  | .builtin (.abstract _) => True
  | _ => False

-- What a candid value says is its class is its class.
theorem stated_by_candid {before : Store} (agrees : world.Agrees store before)
    (candid : world.Candid store value) (known : store.current value = value) :
    (world.statedClass call value).execute before = (.ok (.cls value.typeOf), before) := by
  rw [statedClass]
  split
  · rename_i address kept
    rw [class_told_by_candid kept (candid_of_classes agrees.classes candid),
      Store.current_of_classes agrees.classes, known]
  · rfl

theorem claimed_by_candid {before : Store} (agrees : world.Agrees store before)
    (candid : world.Candid store value) (known : store.current value = value) :
    (world.claimedClass? call value).execute before = (.ok (some value.typeOf), before) := by
  rw [claimedClass?]
  split
  · rfl
  · rename_i address kept
    have told : (world.normalGet call value "__class__").execute before =
        (.ok (.cls value.typeOf), before) := by
      rw [class_told_by_candid kept (candid_of_classes agrees.classes candid),
        Store.current_of_classes agrees.classes, known]
    rw [Run.execute_bind_ok (attribute_of_get told)]
    rfl

theorem abstract_instance_steady (candid : world.Candid store value)
    (known : store.current value = value) (kind : Abstract) :
    world.Steady store (world.isAbstractInstance call kind value)
      (world.verdictBy store kind value.typeOf) := by
  intro before agrees
  rw [isAbstractInstance, Run.execute_bind_ok (stated_by_candid agrees candid known)]
  apply steady_then (steady_verdict kind value.typeOf) _ before agrees
  cases found : world.verdictBy store kind value.typeOf with
  | true => exact steady_pure true
  | false =>
      simp only [Bool.false_eq_true, if_false, if_true]
      exact steady_pure false

-- What isinstance answers of a candid value, by its class and the store.
def instanceBy (world : World) (store : Store) (value : Value) : ClassRef → Bool
  | .builtin (.abstract kind) =>
    value.typeOf == .builtin (.abstract kind) || world.verdictBy store kind value.typeOf
  | .builtin (.other "typing" name) =>
    match tellingMethod? name with
    | some method => world.offers value.typeOf method
    | none => value.typeOf == .builtin (.other "typing" name)
  | target => world.isSubclass value.typeOf target

-- A class that is not abstract asks a candid value nothing that leaves a trace.
theorem instance_still {before : Store} (agrees : world.Agrees store before)
    (candid : world.Candid store value) (known : store.current value = value) {target : ClassRef}
    (askable : Askable target) (concrete : ¬ IsAbstract target) :
    (world.isInstance call value target).execute before =
      (.ok (world.instanceBy store value target), before) := by
  unfold isInstance
  split
  · cases askable
  · cases askable
  · exact absurd trivial concrete
  · rename_i name _
    rw [instanceBy]
    cases tellingMethod? name with
    | some method => rfl
    | none => rfl
  · rename_i plain untelling
    rw [instanceBy]
    · cases derives : world.isSubclass value.typeOf target with
      | true => rfl
      | false =>
          simp only [Bool.false_eq_true, if_false]
          rw [Run.execute_bind_ok (claimed_by_candid agrees candid known)]
          simp only [derives]
          rfl
    · exact plain
    · exact untelling

theorem instance_steady (candid : world.Candid store value) (known : store.current value = value)
    {target : ClassRef} (askable : Askable target) :
    world.Steady store (world.isInstance call value target)
      (world.instanceBy store value target) := by
  by_cases asks : IsAbstract target
  · unfold IsAbstract at asks
    split at asks
    · rename_i kind
      rw [instanceBy, isInstance]
      by_cases itself : value.typeOf = .builtin (.abstract kind)
      · rw [if_pos itself, beq_iff_eq.mpr itself]
        exact steady_pure true
      · rw [if_neg itself, beq_eq_false_iff_ne.mpr itself]
        exact abstract_instance_steady candid known kind
    · cases asks
  · intro before agrees
    exact ⟨before, instance_still agrees candid known askable asks, world.unmoved_refl before⟩

end Steady

end World

end MemberThunks
