import MemberThunks.Proofs.Effects
import MemberThunks.World.Instance

set_option autoImplicit false

/- What abstract classes remember. An abstract class remembers what it has found of another class,
   which a check may therefore add to the store; but what is remembered is what would be found
   again, so the store then tells the same of every class as before. -/
namespace MemberThunks

namespace Abstract

theorem refinements_trans {kind middle last : Abstract} (first : middle ∈ kind.refinements)
    (second : last ∈ middle.refinements) : last ∈ kind.refinements := by
  have closed : ∀ middle ∈ kind.refinements, ∀ last ∈ middle.refinements,
      last ∈ kind.refinements := by
    cases kind <;> decide
  exact closed middle first last second

end Abstract

namespace Store

-- Stores that differ at most in what abstract classes have found.
structure Alike (before after : Store) : Prop where
  records : after.records = before.records
  trace : after.trace = before.trace
  classes : after.classes = before.classes
  fresh : after.fresh = before.fresh
  pool : after.pool = before.pool

theorem alike_refl (store : Store) : store.Alike store := ⟨rfl, rfl, rfl, rfl, rfl⟩

theorem alike_trans {first second third : Store} (left : first.Alike second)
    (right : second.Alike third) : first.Alike third :=
  ⟨right.records.trans left.records, right.trace.trans left.trace,
    right.classes.trans left.classes, right.fresh.trans left.fresh, right.pool.trans left.pool⟩

theorem alike_decide (store : Store) (kind : Abstract) (target : ClassRef) (verdict : Bool) :
    store.Alike (store.decide kind target verdict) := ⟨rfl, rfl, rfl, rfl, rfl⟩

theorem alike_decide_all (store : Store) (kinds : List Abstract) (target : ClassRef)
    (verdict : Bool) :
    store.Alike (kinds.foldl (fun store kind => store.decide kind target verdict) store) := by
  induction kinds generalizing store with
  | nil => exact store.alike_refl
  | cons kind rest ih =>
      exact alike_trans (store.alike_decide kind target verdict)
        (ih (store.decide kind target verdict))

theorem current_of_classes {before after : Store} (same : after.classes = before.classes)
    (value : Value) : after.current value = before.current value := by
  rw [current, current, same]

theorem current_of_alike {before after : Store} (alike : before.Alike after) (value : Value) :
    after.current value = before.current value := current_of_classes alike.classes value

theorem verdict_decide_all (store : Store) (kinds : List Abstract) (target : ClassRef)
    (verdict : Bool) (kind : Abstract) (other : ClassRef) :
    (kinds.foldl (fun store kind => store.decide kind target verdict) store).verdicts.lookup
        (kind, other) =
      if other = target ∧ kind ∈ kinds then some verdict
      else store.verdicts.lookup (kind, other) := by
  induction kinds generalizing store with
  | nil => simp
  | cons first rest ih =>
      rw [List.foldl_cons, ih]
      by_cases later : other = target ∧ kind ∈ rest
      · rw [if_pos later, if_pos ⟨later.1, List.mem_cons_of_mem _ later.2⟩]
      · rw [if_neg later, decide]
        by_cases same : (kind, other) = (first, target)
        · cases same
          rw [if_pos ⟨rfl, List.mem_cons_self⟩]
          exact Entries.lookup_put_self _ _ _
        · have apart : ¬ (other = target ∧ kind ∈ first :: rest) := by
            rintro ⟨rfl, listed⟩
            cases List.mem_cons.mp listed with
            | inl hit => exact same (by rw [hit])
            | inr behind => exact later ⟨rfl, behind⟩
          rw [if_neg apart]
          exact Entries.lookup_put_of_ne same _ _

end Store

namespace World

-- What an abstract class finds of another class by a store.
def verdictBy (world : World) (store : Store) (kind : Abstract) (target : ClassRef) : Bool :=
  (store.verdicts.lookup (kind, target)).getD
    ((kind :: kind.refinements).any (world.known store target))

-- Stores in which objects have the same classes, and every abstract class finds the same of them.
structure Agrees (world : World) (before after : Store) : Prop where
  classes : after.classes = before.classes
  verdicts : ∀ kind target, world.verdictBy after kind target = world.verdictBy before kind target

-- A store that has at most been asked for what abstract classes find.
structure Unmoved (world : World) (before after : Store) : Prop where
  alike : before.Alike after
  agrees : world.Agrees before after

section Verdict

variable {world : World} {store : Store}

theorem agrees_refl (world : World) (store : Store) : world.Agrees store store :=
  ⟨rfl, fun _ _ => rfl⟩

theorem agrees_trans {first second third : Store} (left : world.Agrees first second)
    (right : world.Agrees second third) : world.Agrees first third :=
  ⟨right.classes.trans left.classes,
    fun kind target => (right.verdicts kind target).trans (left.verdicts kind target)⟩

theorem unmoved_refl (world : World) (store : Store) : world.Unmoved store store :=
  ⟨store.alike_refl, world.agrees_refl store⟩

theorem unmoved_trans {first second third : Store} (left : world.Unmoved first second)
    (right : world.Unmoved second third) : world.Unmoved first third :=
  ⟨Store.alike_trans left.alike right.alike, agrees_trans left.agrees right.agrees⟩

-- What is remembered of a class is all that changes.
theorem known_decide_all (kinds : List Abstract) (target : ClassRef) (verdict : Bool)
    (other : ClassRef) (kind : Abstract) :
    world.known (kinds.foldl (fun store kind => store.decide kind target verdict) store) other
        kind =
      if other = target ∧ kind ∈ kinds then verdict else world.known store other kind := by
  rw [known, Store.verdict_decide_all]
  split
  · rfl
  · rfl

theorem any_known_iff {kinds : List Abstract} {target : ClassRef} :
    kinds.any (world.known store target) = true ↔
      ∃ kind ∈ kinds, world.known store target kind = true := List.any_eq_true

-- A class that counts as an abstract one is remembered to do so. Only the abstract classes from
-- which that one derives look there, and they would have found the same.
theorem agrees_of_found {kind : Abstract} {target : ClassRef}
    (unasked : store.verdicts.lookup (kind, target) = none)
    (found : (kind :: kind.refinements).any (world.known store target) = true) :
    world.Agrees store ([kind].foldl (fun store kind => store.decide kind target true) store) := by
  refine ⟨rfl, ?_⟩
  intro other asked
  rw [verdictBy, verdictBy, Store.verdict_decide_all]
  by_cases hit : asked = target ∧ other ∈ [kind]
  · obtain ⟨rfl, listed⟩ := hit
    cases List.mem_singleton.mp listed
    rw [if_pos ⟨rfl, listed⟩, unasked, Option.getD_some, Option.getD_none, found]
  · rw [if_neg hit]
    congr 1
    rw [Bool.eq_iff_iff, any_known_iff, any_known_iff]
    constructor
    · rintro ⟨witness, listed, holds⟩
      rw [known_decide_all] at holds
      by_cases same : asked = target ∧ witness ∈ [kind]
      · obtain ⟨rfl, here⟩ := same
        cases List.mem_singleton.mp here
        -- what has been found of a refinement counts for the one that it refines
        obtain ⟨source, below, known⟩ := any_known_iff.mp found
        refine ⟨source, ?_, known⟩
        cases List.mem_cons.mp listed with
        | inl itself => exact absurd ⟨rfl, List.mem_singleton.mpr itself.symm⟩ hit
        | inr refined =>
            cases List.mem_cons.mp below with
            | inl itself => exact itself ▸ listed
            | inr deeper =>
                exact List.mem_cons_of_mem _ (Abstract.refinements_trans refined deeper)
      · rw [if_neg same] at holds
        exact ⟨witness, listed, holds⟩
    · rintro ⟨witness, listed, holds⟩
      refine ⟨witness, listed, ?_⟩
      rw [known_decide_all]
      split
      · rfl
      · exact holds

-- What a class does not count as, it counts as no refinement of either.
theorem agrees_of_none {kind : Abstract} {target : ClassRef}
    (found : (kind :: kind.refinements).any (world.known store target) = false) :
    world.Agrees store ((kind :: kind.refinements).foldl
      (fun store kind => store.decide kind target false) store) := by
  refine ⟨(store.alike_decide_all _ target false).classes, ?_⟩
  have unknown : ∀ other ∈ kind :: kind.refinements, world.known store target other = false :=
    fun other listed => by simpa using List.any_eq_false.mp found other listed
  have below : ∀ other ∈ kind :: kind.refinements, ∀ last ∈ other.refinements,
      last ∈ kind :: kind.refinements := by
    intro other listed last refined
    cases List.mem_cons.mp listed with
    | inl itself => exact List.mem_cons_of_mem _ (itself ▸ refined)
    | inr deeper => exact List.mem_cons_of_mem _ (Abstract.refinements_trans deeper refined)
  intro other asked
  rw [verdictBy, verdictBy, Store.verdict_decide_all]
  by_cases hit : asked = target ∧ other ∈ kind :: kind.refinements
  · obtain ⟨rfl, listed⟩ := hit
    rw [if_pos ⟨rfl, listed⟩, Option.getD_some]
    have denied := unknown other listed
    rw [known] at denied
    cases remembered : store.verdicts.lookup (other, asked) with
    | some verdict =>
        rw [remembered] at denied
        exact denied.symm
    | none =>
        rw [Option.getD_none, eq_comm, List.any_eq_false]
        intro last covered
        have inside : last ∈ kind :: kind.refinements := by
          cases List.mem_cons.mp covered with
          | inl itself => exact itself ▸ listed
          | inr refined => exact below other listed last refined
        simp [unknown last inside]
  · have kept : world.known ((kind :: kind.refinements).foldl
        (fun store kind => store.decide kind target false) store) asked =
          world.known store asked := by
      funext last
      rw [known_decide_all]
      split
      · rename_i covered
        rw [covered.1, unknown last covered.2]
      · rfl
    rw [if_neg hit, kept]

theorem verdict_agrees (store : Store) (kind : Abstract) (target : ClassRef) :
    ∃ after, (world.verdict kind target).execute store =
      (.ok (world.verdictBy store kind target), after) ∧ world.Unmoved store after := by
  have started : (get : Run Store).execute store = (.ok store, store) := rfl
  rw [verdict, Run.execute_bind_ok started, verdictBy]
  cases remembered : store.verdicts.lookup (kind, target) with
  | some verdict => exact ⟨store, rfl, world.unmoved_refl store⟩
  | none =>
      cases found : (kind :: kind.refinements).any (world.known store target) with
      | true =>
          exact ⟨_, rfl, store.alike_decide kind target true, agrees_of_found remembered found⟩
      | false => exact ⟨_, rfl, store.alike_decide_all _ target false, agrees_of_none found⟩

end Verdict

end World

end MemberThunks
