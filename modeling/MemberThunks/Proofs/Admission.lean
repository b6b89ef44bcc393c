import MemberThunks.Proofs.DeclaredAlternatives
import MemberThunks.Proofs.Settling
import MemberThunks.Proofs.SteadyChecks

set_option autoImplicit false

/- What a conversion admits. A value other than None is admitted by the first alternative of the
   declared type whose check succeeds, and a candid value whenever one would; None is admitted as
   well where the outermost union lists it, but no union inside another can let it through. -/
namespace MemberThunks

namespace World

-- Whether an alternative admits a value from a store.
def Admits (known later : World) (caller : Caller) (store : Store) (value : Value)
    (leaf : TypeForm) : Prop :=
  leaf.isErased = true ∨ (known.checkFor later caller value leaf).succeeds store = true

-- Whether the check for an alternative can be made of every value.
def IsAskable (leaf : TypeForm) : Prop := ∀ target, leaf.class? = some target → Askable target

section Steady

variable {known later : World} {caller : Caller} {store : Store} {value : Value}

theorem check_steady (candid : later.Candid store value) (current : store.current value = value)
    {leaf : TypeForm} (askable : IsAskable leaf) :
    later.Steady store (known.checkFor later caller value leaf)
      ((known.checkFor later caller value leaf).succeeds store) := by
  have answered : ∃ answer,
      later.Steady store (known.checkFor later caller value leaf) answer := by
    unfold checkFor
    cases named : leaf.class? with
    | none => exact ⟨false, steady_pure false⟩
    | some target =>
        cases known.isValueType leaf with
        | true => exact ⟨_, steady_pure _⟩
        | false => exact ⟨_, instance_steady candid current (askable target named)⟩
  obtain ⟨answer, steady⟩ := answered
  rwa [succeeds_of_steady steady]

theorem none_admits_none : known.Admits later caller store .none .noneType := by
  refine .inr ?_
  rfl

end Steady

end World

namespace Strategy

section Admission

variable {world known later : World} {caller : Caller} {form : TypeForm} {nullable : Bool}
  {made : Option Conversion} {value : Value} {store after : Store}

-- How a value other than None comes out of a conversion to a declared type. An alternative that
-- admits every value lets it through unasked. Else the alternatives are asked in order, each from
-- the store that the one before it leaves: the first that admits the value lets it through, the
-- exception of a check comes out, and a value that none admits is refused.
inductive Judged (known later : World) (caller : Caller) (form : TypeForm) (value : Value)
    (store : Store) : Except Raised Value × Store → Prop where
  | unasked (leaf : TypeForm) (reached : known.Alternative form leaf)
      (erased : leaf.isErased = true) : Judged known later caller form value store (.ok value, store)
  | asked (leaves : List TypeForm) (refusal : Raised) (spread : known.Spread [form] leaves)
      (checked : ∀ leaf ∈ leaves, leaf.isErased = false)
      (kind : refusal.failure.kind = .unbox ∨ refusal.failure.kind = .invalidCast) :
      Judged known later caller form value store
        ((Run.anyOf (leaves.map (known.checkFor later caller (store.current value))) >>=
          fun found => if found then pure value else Run.fail refusal : Run Value).execute store)

theorem asked_judged {conversion : Conversion}
    (found : known.conversionFor form nullable = .ok (some conversion))
    (asked : ((store.current value).isNone && conversion.nullable) = false) :
    Judged known later caller form value store
      ((Conversion.applyOptional later caller (some conversion) value).execute store) := by
  obtain ⟨leaves, spread, checked, asks⟩ := World.within_asks found
  rw [Conversion.applyOptional, Conversion.apply_asks asked]
  rw [show conversion.accepts later caller (store.current value) = _ from asks _ _ _]
  exact .asked leaves _ spread checked (conversion.refusal_kind later _)

theorem value_judged (found : known.conversionFor form nullable = .ok made)
    (present : (store.current value).isNone = false) :
    Judged known later caller form value store
      ((Conversion.applyOptional later caller made value).execute store) := by
  cases made with
  | none =>
      obtain ⟨leaf, reached, erased⟩ := World.within_erased found
      exact .unasked leaf reached erased
  | some conversion => exact asked_judged found (by rw [present, Bool.false_and])

-- The alternatives of a declared type admit a candid value whatever is asked before.
theorem any_of_steady (caller : Caller) {leaves : List TypeForm} (spread : known.Spread [form] leaves)
    (candid : later.Candid store value) (current : store.current value = value)
    (askable : ∀ leaf, known.Alternative form leaf → leaf.isErased = false → World.IsAskable leaf)
    (checked : ∀ leaf ∈ leaves, leaf.isErased = false) :
    ∃ final, (Run.anyOf (leaves.map (known.checkFor later caller value))).execute store =
      (.ok (leaves.any fun leaf => (known.checkFor later caller value leaf).succeeds store),
        final) := by
  have answers : (Run.anyOf (leaves.map (known.checkFor later caller value))).Answers
      (later.Agrees store)
      (leaves.any fun leaf => (known.checkFor later caller value leaf).succeeds store) := by
    apply Run.any_of_answers
    intro leaf listed
    have reached : known.Alternative form leaf := by
      simpa using (World.mem_spread spread leaf).mp listed
    exact World.answers_of_steady
      (World.check_steady candid current (askable leaf reached (checked leaf listed)))
  obtain ⟨final, ran, _⟩ := answers store (later.agrees_refl store)
  exact ⟨final, ran⟩

-- A candid value is let through or refused by what the alternatives say of it.
theorem candid_judged {outcome : Except Raised Value × Store}
    (judged : Judged known later caller form value store outcome)
    (candid : later.Candid store value)
    (askable : ∀ leaf, known.Alternative form leaf → leaf.isErased = false → World.IsAskable leaf) :
    ((∃ leaf, known.Alternative form leaf ∧
        known.Admits later caller store (store.current value) leaf) ∧
      ∃ final, outcome = (.ok value, final)) ∨
    ((∀ leaf, known.Alternative form leaf →
        ¬ known.Admits later caller store (store.current value) leaf) ∧
      ∃ raised final, outcome = (.error raised, final) ∧
        (raised.failure.kind = .unbox ∨ raised.failure.kind = .invalidCast)) := by
  cases judged with
  | unasked leaf reached erased => exact .inl ⟨⟨leaf, reached, .inl erased⟩, store, rfl⟩
  | asked leaves refusal spread checked kind =>
      obtain ⟨final, ran⟩ := any_of_steady caller spread
        (World.candid_current candid) (store.current_current value) askable checked
      rw [Run.execute_bind_ok ran]
      cases found : leaves.any fun leaf =>
          (known.checkFor later caller (store.current value) leaf).succeeds store with
      | true =>
          obtain ⟨leaf, listed, admits⟩ := List.any_eq_true.mp found
          have reached : known.Alternative form leaf := by
            simpa using (World.mem_spread spread leaf).mp listed
          exact .inl ⟨⟨leaf, reached, .inr admits⟩, final, rfl⟩
      | false =>
          refine .inr ⟨?_, refusal, final, rfl, kind⟩
          intro leaf reached admits
          have listed : leaf ∈ leaves := (World.mem_spread spread leaf).mpr ⟨form, by simp, reached⟩
          rcases admits with erased | admits
          · rw [checked leaf listed] at erased
            cases erased
          · rw [List.any_eq_false] at found
            exact found leaf listed admits

end Admission

-- A class whose objects raise an exception when they are asked for their class, and a class whose
-- objects say that they are None.
def disguises : World :=
  (World.empty.declare (.ofMembers "Riddle" [.property "__class__" (some (.routine
    ⟨some (Formal.named "self"), [], none, [.fail .valueFault "boom"]⟩)) none])).declare
    (.ofMembers "Mask" [.property "__class__" (some (.routine
      ⟨some (Formal.named "self"), [], none, [.give (.constant (.cls .noneType))]⟩)) none])

-- A number, or a text under another name that may be absent.
def labelled : TypeForm :=
  .union .subscript [.cls (.builtin .int),
    .newType "Label" (.union .subscript [.cls (.builtin .str), .noneType])]

theorem labelled_spread (known : World) :
    known.Spread [labelled] [.cls (.builtin .int), .cls (.builtin .str)] :=
  .union (.leaf rfl (.supertype rfl rfl (.union (.leaf rfl .done))))

theorem labelled_askable {known : World} {leaf : TypeForm}
    (reached : known.Alternative labelled leaf) : World.IsAskable leaf := by
  have listed := (World.mem_spread (labelled_spread known) leaf).mpr ⟨labelled, by simp, reached⟩
  intro target named
  simp only [List.mem_cons, List.not_mem_nil, or_false] at listed
  rcases listed with rfl | rfl <;> cases named <;> trivial

section Admission

variable {world known : World} {caller : Caller} {form : TypeForm} {nullable : Bool}
  {made : Option Conversion} {store after : Store}

-- None is let through where the outermost union lists it, and else judged like any other value.
theorem none_judged (later : World) (caller : Caller) (store : Store)
    (found : known.conversionFor form nullable = .ok made)
    (askable : ∀ leaf, known.Alternative form leaf → leaf.isErased = false → World.IsAskable leaf) :
    (∃ final, (Conversion.applyOptional later caller made .none).execute store =
      (.ok .none, final)) ↔
      (nullable = true ∨ known.ListsNone form) ∨
        ∃ leaf, known.Alternative form leaf ∧ known.Admits later caller store .none leaf := by
  cases made with
  | none =>
      obtain ⟨leaf, reached, erased⟩ := World.within_erased found
      exact ⟨fun _ => .inr ⟨leaf, reached, .inl erased⟩, fun _ => ⟨store, rfl⟩⟩
  | some conversion =>
      rw [← World.within_nullable found]
      cases flag : conversion.nullable with
      | true =>
          exact ⟨fun _ => .inl rfl, fun _ => ⟨store, Conversion.apply_lets_through flag⟩⟩
      | false =>
          have judged : Judged known later caller form .none store
              ((Conversion.applyOptional later caller (some conversion) .none).execute store) :=
            asked_judged found (by rw [flag, Bool.and_false])
          rcases candid_judged judged (.inl rfl) askable with
            ⟨admitted, final, ended⟩ | ⟨refused, raised, final, ended, kind⟩
          · exact ⟨fun _ => .inr admitted, fun _ => ⟨final, ended⟩⟩
          · constructor
            · rintro ⟨other, given⟩
              rw [ended] at given
              cases given
            · rintro (none | ⟨leaf, reached, admits⟩)
              · cases none
              · exact absurd admits (refused leaf reached)

-- What a conversion to a declared type does with None. The claim of any other union to let it
-- through counts only if the outermost union makes the same claim.
theorem none_admitted_by_outermost_union {conversion : Option Conversion}
    (made : (Strategy.conversion world caller form false).run.run store =
      (.ok conversion, after)) :
    ∃ known, world.Informed known ∧
      ∀ (later : World) (asker : Caller) (before : Store),
        (∀ leaf, known.Alternative form leaf → leaf.isErased = false → World.IsAskable leaf) →
        ((∃ final, (Conversion.applyOptional later asker conversion .none).execute before =
            (.ok .none, final)) ↔
          known.ListsNone form ∨
            ∃ leaf, known.Alternative form leaf ∧ known.Admits later asker before .none leaf) ∧
        ((∀ spelling members, known.Reaches (fun _ => true) form (.union spelling members) →
            members.any TypeForm.isNoneType = true → known.ListsNone form) →
          ((∃ final, (Conversion.applyOptional later asker conversion .none).execute before =
              (.ok .none, final)) ↔
            ∃ leaf, known.Reaches (fun _ => true) form leaf ∧ known.isAlternative leaf = true ∧
              known.Admits later asker before .none leaf)) := by
  obtain ⟨known, informed, found⟩ := Making.made_of_settling made
  refine ⟨known, informed, ?_⟩
  intro later asker before askable
  have judged := none_judged later asker before found askable
  simp only [Bool.false_eq_true, false_or] at judged
  refine ⟨judged, ?_⟩
  intro outermost
  rw [judged]
  constructor
  · rintro (lists | ⟨leaf, reached, admits⟩)
    · exact ⟨.noneType, World.none_of_lists_none lists, World.none_is_alternative,
        World.none_admits_none⟩
    · exact ⟨leaf, World.reaches_more (fun _ _ => rfl) reached.reached, reached.final, admits⟩
  · rintro ⟨leaf, reached, final, admits⟩
    rcases World.reaches_without_listed reached with present | ⟨spelling, members, path, lists⟩
    · exact .inr ⟨leaf, ⟨present, final⟩, admits⟩
    · exact .inl (outermost spelling members path lists)

end Admission

-- A union of nothing but another union by name, which both list None.
def optionalLabel : TypeForm :=
  .union .bar [.newType "Label" (.union .subscript [.cls (.builtin .str), .noneType]), .noneType]

theorem optional_label_admits_none : ∃ conversion after,
    (Strategy.conversion disguises (disguises.call World.callLimit) optionalLabel false).run.run
      .empty = (.ok conversion, after) ∧
    ∃ final, (Conversion.applyOptional disguises (disguises.call World.callLimit) conversion
      .none).execute .empty = (.ok .none, final) := by
  have made : (Strategy.conversion disguises (disguises.call World.callLimit) optionalLabel
      false).run.run .empty = (.ok (some (.cast (.cls (.builtin .str)) true)), .empty) := by rfl
  obtain ⟨known, _, judges⟩ := none_admitted_by_outermost_union made
  have spread : known.Spread [optionalLabel] [.cls (.builtin .str)] :=
    .union (.supertype rfl rfl (.union (.leaf rfl .done)))
  have lists : known.ListsNone optionalLabel := .union rfl
  have askable : ∀ leaf, known.Alternative optionalLabel leaf → leaf.isErased = false →
      World.IsAskable leaf := by
    intro leaf reached _ target named
    have listed := (World.mem_spread spread leaf).mpr ⟨optionalLabel, by simp, reached⟩
    cases List.mem_singleton.mp listed
    cases named
    trivial
  obtain ⟨_, follows⟩ := judges disguises (disguises.call World.callLimit) .empty askable
  have admitted := follows fun _ _ _ _ => lists
  exact ⟨_, _, made, admitted.mpr ⟨.noneType, World.none_of_lists_none lists,
    World.none_is_alternative, World.none_admits_none⟩⟩

-- None is an alternative of a union inside another, and yet the outer one refuses it.
theorem inner_optional_refuses_none :
    disguises.Reaches (fun _ => true) labelled .noneType ∧
    disguises.Admits disguises (disguises.call World.callLimit) .empty .none .noneType ∧
    ∃ conversion after,
      (Strategy.conversion disguises (disguises.call World.callLimit) labelled false).run.run
        .empty = (.ok conversion, after) ∧
      ∃ raised final, (Conversion.applyOptional disguises (disguises.call World.callLimit)
          conversion .none).execute .empty = (.error raised, final) ∧
        raised.failure.kind = .invalidCast := by
  refine ⟨?_, World.none_admits_none, some (.union [.unbox (.cls (.builtin .int)) false,
    .cast (.cls (.builtin .str)) true] false), .empty, rfl, _, _, rfl, rfl⟩
  exact .member (List.mem_cons_of_mem _ List.mem_cons_self) rfl
    (.supertype rfl rfl (.member (List.mem_cons_of_mem _ List.mem_cons_self) rfl (.here _)))

end Strategy

end MemberThunks
