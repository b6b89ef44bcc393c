import MemberThunks.Proofs.RefusalKinds

set_option autoImplicit false

/- Unions that would list a member twice. The language lists each member once, so that a union whose
   members are changed may have to be listed anew: of equal members the first is kept, and what is
   left alone stands for the union. All that a value can notice is that it is asked less often. -/
namespace MemberThunks

namespace TypeForm

mutual

-- A declared type the unions of which are listed anew.
def relisted : TypeForm → TypeForm
  | union spelling members => joined spelling (relistedAll members)
  | annotated base metadata => annotated base.relisted metadata
  | newType name base => newType name base.relisted
  | form => form

def relistedAll : List TypeForm → List TypeForm
  | [] => []
  | member :: rest => member.relisted :: relistedAll rest

end

theorem relisted_all (members : List TypeForm) : relistedAll members = members.map relisted := by
  induction members with
  | nil => rfl
  | cons member rest ih => rw [relistedAll, ih, List.map_cons]

-- Whether a declared type has no parts that are converted for it: it is itself the name of a type.
def isUndivided : TypeForm → Bool
  | none | union _ _ | annotated _ _ => false
  | _ => true

theorem distinct_sublist (members : List TypeForm) : (distinct members).Sublist members := by
  have listed : (distinct members ++ []).Sublist members :=
    distinct_steps (fun kept rest => (kept ++ rest).Sublist members) (by simp)
      (by
        intro kept member rest _ before
        rwa [List.append_assoc])
      (by
        intro kept member rest _ before
        exact ((List.Sublist.refl kept).append (List.sublist_cons_self member rest)).trans before)
  rwa [List.append_nil] at listed

theorem distinct_covers {members : List TypeForm} {member : TypeForm} (listed : member ∈ members) :
    ∃ kept ∈ distinct members, kept = member ∨ kept.equal member = true := by
  have covered : member ∈ ([] : List TypeForm) ∨
      ∃ kept ∈ distinct members, kept = member ∨ kept.equal member = true := by
    refine distinct_steps (fun kept rest => member ∈ rest ∨
      ∃ other ∈ kept, other = member ∨ other.equal member = true) (.inl listed) ?_ ?_
    · rintro kept first rest _ (within | ⟨other, found, same⟩)
      · rcases List.mem_cons.mp within with rfl | later
        · exact .inr ⟨member, by simp, .inl rfl⟩
        · exact .inl later
      · exact .inr ⟨other, List.mem_append_left _ found, same⟩
    · rintro kept first rest repeated (within | found)
      · rcases List.mem_cons.mp within with rfl | later
        · obtain ⟨other, found, equal⟩ := any_equal_gives repeated
          exact .inr ⟨other, found, .inr equal⟩
        · exact .inl later
      · exact .inr found
  exact covered.resolve_left (by simp)

end TypeForm

-- Two results of converting declared types: a check each, none for either, or the same fault. What
-- nests too deep may have a conversion once it is listed anew.
inductive SameVerdict {α β : Type} :
    Except UnsupportedType (Option α) → Except UnsupportedType (Option β) → Prop where
  | checked (first : α) (second : β) : SameVerdict (.ok (some first)) (.ok (some second))
  | unchecked : SameVerdict (.ok none) (.ok none)
  | refused (fault : UnsupportedType) : SameVerdict (.error fault) (.error fault)
  | tooDeep (verdict : Except UnsupportedType (Option β)) : SameVerdict (.error .tooDeep) verdict

namespace SameVerdict

variable {α β γ δ : Type} {first : Except UnsupportedType (Option α)}
  {second : Except UnsupportedType (Option β)} {third : Except UnsupportedType (Option γ)}

theorem refl (verdict : Except UnsupportedType (Option α)) : SameVerdict verdict verdict := by
  cases verdict with
  | error fault => exact .refused fault
  | ok made =>
      cases made with
      | none => exact .unchecked
      | some check => exact .checked check check

theorem trans (left : SameVerdict first second) (right : SameVerdict second third) :
    SameVerdict first third := by
  cases left with
  | tooDeep => exact .tooDeep third
  | checked =>
      cases right with
      | checked => exact .checked _ _
  | unchecked =>
      cases right with
      | unchecked => exact .unchecked
  | refused =>
      cases right with
      | refused => exact .refused _
      | tooDeep => exact .tooDeep _

theorem map (one : α → γ) (two : β → δ) (same : SameVerdict first second) :
    SameVerdict (first.map (Option.map one)) (second.map (Option.map two)) := by
  cases same with
  | checked => exact .checked _ _
  | unchecked => exact .unchecked
  | refused fault => exact .refused fault
  | tooDeep => exact .tooDeep _

theorem map_left (one : α → γ) (verdict : Except UnsupportedType (Option α)) :
    SameVerdict (verdict.map (Option.map one)) verdict := by
  cases verdict with
  | error fault => exact .refused fault
  | ok made =>
      cases made with
      | none => exact .unchecked
      | some check => exact .checked _ _

end SameVerdict

namespace World

section Verdicts

variable {known : World} {convert other : TypeForm → Except UnsupportedType (Option Conversion)}
  {members others rest : List TypeForm} {member partner : TypeForm}

theorem options_cons_open (made : convert member = .ok none) :
    optionsOf convert (member :: rest) = .ok none := by
  simp only [optionsOf, made, bind, Except.bind]
  rfl

theorem options_cons_fault {fault : UnsupportedType} (failed : convert member = .error fault) :
    optionsOf convert (member :: rest) = .error fault := by
  simp only [optionsOf, failed, bind, Except.bind]

theorem options_cons_check {option : Conversion} (made : convert member = .ok (some option)) :
    optionsOf convert (member :: rest) =
      (optionsOf convert rest).map (Option.map (option :: ·)) := by
  simp only [optionsOf, made, bind, Except.bind]
  cases optionsOf convert rest <;> rfl

theorem verdict_cons {one two : Except UnsupportedType (Option Conversion)}
    (made : convert member = one) (converted : other partner = two) (head : SameVerdict one two)
    (tail : SameVerdict (optionsOf convert members) (optionsOf other others)) :
    SameVerdict (optionsOf convert (member :: members)) (optionsOf other (partner :: others)) := by
  cases head with
  | checked option twin =>
      rw [options_cons_check made, options_cons_check converted]
      exact .map _ _ tail
  | unchecked =>
      rw [options_cons_open made, options_cons_open converted]
      exact .unchecked
  | refused fault =>
      rw [options_cons_fault made, options_cons_fault converted]
      exact .refused fault
  | tooDeep =>
      rw [options_cons_fault made]
      exact .tooDeep _

theorem verdict_each (change : TypeForm → TypeForm)
    (each : ∀ member ∈ members, SameVerdict (convert member) (other (change member))) :
    SameVerdict (optionsOf convert members) (optionsOf other (members.map change)) := by
  induction members with
  | nil => exact .refl _
  | cons member rest ih =>
      exact verdict_cons rfl rfl (each member List.mem_cons_self)
        (ih fun later listed => each later (List.mem_cons_of_mem _ listed))

-- What converts needs not be listed where only the verdict counts.
theorem verdict_skipped (first rest : List TypeForm) {option : Conversion}
    (made : convert member = .ok (some option)) :
    SameVerdict (optionsOf convert (first ++ member :: rest))
      (optionsOf convert (first ++ rest)) := by
  induction first with
  | nil =>
      rw [List.nil_append, List.nil_append, options_cons_check made]
      exact .map_left _ _
  | cons head tail ih => exact verdict_cons rfl rfl (.refl _) ih

-- Nor need what converts if a member before it does.
theorem verdict_dropped (first rest : List TypeForm) {kept : TypeForm} (listed : kept ∈ first)
    (converts : ∀ option, convert kept = .ok (some option) →
      ∃ twin, convert member = .ok (some twin)) :
    SameVerdict (optionsOf convert (first ++ member :: rest))
      (optionsOf convert (first ++ rest)) := by
  induction first with
  | nil => cases listed
  | cons head tail ih =>
      rcases List.mem_cons.mp listed with rfl | later
      · cases made : convert kept with
        | error fault =>
            rw [List.cons_append, List.cons_append, options_cons_fault made,
              options_cons_fault made]
            exact .refused fault
        | ok found =>
            cases found with
            | none =>
                rw [List.cons_append, List.cons_append, options_cons_open made,
                  options_cons_open made]
                exact .unchecked
            | some option =>
                obtain ⟨twin, converted⟩ := converts option made
                exact verdict_skipped (kept :: tail) rest converted
      · exact verdict_cons rfl rfl (.refl _) (ih later)

theorem verdict_union {depth further : Nat} {spelling mark : Spelling} {nullable flag : Bool}
    (same : SameVerdict
      (optionsOf (fun member => known.conversionWithin depth member false)
        (members.filter TypeForm.isPresent))
      (optionsOf (fun member => known.conversionWithin further member false)
        (others.filter TypeForm.isPresent))) :
    SameVerdict (known.conversionWithin (depth + 1) (.union spelling members) nullable)
      (known.conversionWithin (further + 1) (.union mark others) flag) := by
  have form : ∀ depth spelling members nullable,
      known.conversionWithin (depth + 1) (.union spelling members) nullable =
        (optionsOf (fun member => known.conversionWithin depth member false)
          (members.filter TypeForm.isPresent) >>= fun options =>
            .ok (unionConversion (nullable || members.any TypeForm.isNoneType) options)) :=
    fun _ _ _ _ => rfl
  rw [form, form]
  generalize optionsOf _ (members.filter TypeForm.isPresent) = one at same
  generalize optionsOf _ (others.filter TypeForm.isPresent) = two at same
  cases same with
  | checked options partners =>
      obtain ⟨conversion, made, _⟩ :=
        union_converts (nullable || members.any TypeForm.isNoneType) options
      obtain ⟨twin, converted, _⟩ :=
        union_converts (flag || others.any TypeForm.isNoneType) partners
      change SameVerdict (.ok (unionConversion _ (some options)))
        (.ok (unionConversion _ (some partners)))
      rw [made, converted]
      exact .checked _ _
  | unchecked => exact .unchecked
  | refused fault => exact .refused fault
  | tooDeep => exact .tooDeep _

theorem verdict_leaf (form : TypeForm) (nullable flag : Bool) :
    SameVerdict (known.leafConversion form nullable) (known.leafConversion form flag) := by
  unfold leafConversion
  split
  · exact .refused _
  · exact .checked _ _
  · split <;> exact .checked _ _
  · split <;> exact .refused _

-- How a type that has no parts of its own is converted.
theorem within_undivided {form : TypeForm} {depth : Nat} {nullable : Bool}
    (undivided : form.isUndivided = true) :
    known.conversionWithin (depth + 1) form nullable =
      if form.isErased then .ok none
      else
        match known.supertype? form with
        | .ok (some supertype) => known.conversionWithin depth supertype nullable
        | .ok none => known.leafConversion form nullable
        | .error fault => .error fault := by
  cases form
  case none => cases undivided
  case union => cases undivided
  case annotated => cases undivided
  all_goals rfl

-- A conversion does not hang on whether None is let through, nor on the depth once that suffices.
theorem verdict_deeper {depth : Nat} (form : TypeForm) (nullable flag : Bool) :
    SameVerdict (known.conversionWithin depth form nullable)
      (known.conversionWithin (depth + 1) form flag) := by
  induction depth generalizing form nullable flag with
  | zero => exact .tooDeep _
  | succ depth ih =>
      by_cases undivided : form.isUndivided = true
      · rw [within_undivided undivided, within_undivided undivided]
        split
        · exact .unchecked
        · split
          · exact ih _ nullable flag
          · exact verdict_leaf form nullable flag
          · exact .refused _
      · cases form
        case none => exact .checked _ _
        case union spelling members =>
          refine verdict_union ?_
          simpa using verdict_each id fun member _ => ih member false false
        case annotated base metadata => exact ih base nullable flag
        all_goals exact absurd rfl undivided

end Verdicts

-- One declared type that does for another one: it is converted whenever that one is, asks of values
-- what that one asks, and refuses them by the same kind of failure.
structure Replaces (known : World) (form other : TypeForm) : Prop where
  verdict : ∀ depth nullable, SameVerdict (known.conversionWithin depth form nullable)
    (known.conversionWithin depth other nullable)
  asked : known.AskedAlike form other
  leads : known.LeadsToValue other → known.LeadsToValue form
  unboxes : known.Unboxes other ↔ known.Unboxes form

section Replaces

variable {known : World} {form other third base supertype : TypeForm}

theorem asked_alike_refl (form : TypeForm) : known.AskedAlike form form where
  each leaf found := ⟨leaf, found, rfl, rfl⟩
  back leaf found := ⟨leaf, found, rfl, rfl⟩
  sole leaf alone := ⟨leaf, alone, rfl, rfl⟩
  lists := Iff.rfl

theorem checked_alike_trans {leaf middle partner : TypeForm}
    (left : known.CheckedAlike leaf middle) (right : known.CheckedAlike middle partner) :
    known.CheckedAlike leaf partner :=
  ⟨right.classes.trans left.classes, right.values.trans left.values⟩

theorem asked_alike_trans (left : known.AskedAlike form other)
    (right : known.AskedAlike other third) : known.AskedAlike form third where
  each leaf found := by
    obtain ⟨middle, there, alike⟩ := left.each leaf found
    obtain ⟨partner, reached, same⟩ := right.each middle there
    exact ⟨partner, reached, checked_alike_trans alike same⟩
  back partner found := by
    obtain ⟨middle, there, same⟩ := right.back partner found
    obtain ⟨leaf, reached, alike⟩ := left.back middle there
    exact ⟨leaf, reached, checked_alike_trans alike same⟩
  sole leaf alone := by
    obtain ⟨middle, there, alike⟩ := left.sole leaf alone
    obtain ⟨partner, reached, same⟩ := right.sole middle there
    exact ⟨partner, reached, checked_alike_trans alike same⟩
  lists := right.lists.trans left.lists

theorem leads_forward (asked : known.AskedAlike form other) (leads : known.LeadsToValue form) :
    known.LeadsToValue other := by
  obtain ⟨leaf, alone, exact⟩ := leads
  obtain ⟨partner, alsoAlone, alike⟩ := asked.sole leaf alone
  exact ⟨partner, alsoAlone, alike.values.trans exact⟩

theorem replaces_refl (form : TypeForm) : known.Replaces form form :=
  ⟨fun _ _ => .refl _, asked_alike_refl form, id, Iff.rfl⟩

theorem replaces_trans (left : known.Replaces form other) (right : known.Replaces other third) :
    known.Replaces form third where
  verdict depth nullable := (left.verdict depth nullable).trans (right.verdict depth nullable)
  asked := asked_alike_trans left.asked right.asked
  leads := fun leads => left.leads (right.leads leads)
  unboxes := right.unboxes.trans left.unboxes

theorem replaces_annotated (metadata : List Value) (bases : known.Replaces form other) :
    known.Replaces (.annotated form metadata) (.annotated other metadata) where
  verdict depth nullable := by
    cases depth with
    | zero => exact .tooDeep _
    | succ depth => exact bases.verdict depth nullable
  asked := by
    refine ⟨?_, ?_, ?_, ?_⟩
    · simpa only [alternative_annotated] using bases.asked.each
    · simpa only [alternative_annotated] using bases.asked.back
    · simpa only [sole_annotated] using bases.asked.sole
    · simpa only [lists_none_annotated] using bases.asked.lists
  leads := by simpa only [LeadsToValue, sole_annotated] using bases.leads
  unboxes := by simpa only [unboxes_annotated] using bases.unboxes

theorem named_by_new_type (name : String) (present : base ≠ .none) :
    known.supertype? (.newType name base) = .ok (some base) := by
  cases base
  case none => exact absurd rfl present
  all_goals rfl

theorem replaces_new_type (name : String) (bases : known.Replaces form other)
    (present : form ≠ .none) (alsoPresent : other ≠ .none) :
    known.Replaces (.newType name form) (.newType name other) := by
  have named : known.supertype? (.newType name form) = .ok (some form) :=
    named_by_new_type name present
  have alsoNamed : known.supertype? (.newType name other) = .ok (some other) :=
    named_by_new_type name alsoPresent
  refine ⟨?_, ⟨?_, ?_, ?_, ?_⟩, ?_, ?_⟩
  · intro depth nullable
    cases depth with
    | zero => exact .tooDeep _
    | succ depth =>
        rw [within_supertype rfl named, within_supertype rfl alsoNamed]
        exact bases.verdict depth nullable
  · simpa only [alternative_supertype rfl named, alternative_supertype rfl alsoNamed]
      using bases.asked.each
  · simpa only [alternative_supertype rfl named, alternative_supertype rfl alsoNamed]
      using bases.asked.back
  · simpa only [sole_supertype rfl named, sole_supertype rfl alsoNamed] using bases.asked.sole
  · simpa only [lists_none_supertype rfl named, lists_none_supertype rfl alsoNamed]
      using bases.asked.lists
  · simpa only [LeadsToValue, sole_supertype rfl named, sole_supertype rfl alsoNamed]
      using bases.leads
  · simpa only [unboxes_supertype rfl named, unboxes_supertype rfl alsoNamed] using bases.unboxes

end Replaces

section Unions

variable {known : World} {members kept : List TypeForm} {spelling : Spelling}

theorem leads_union : known.LeadsToValue (.union spelling members) ↔
    ∃ only, members.filter TypeForm.isPresent = [only] ∧ known.LeadsToValue only := by
  simp only [LeadsToValue, sole_union]
  constructor
  · rintro ⟨leaf, ⟨only, single, alone⟩, exact⟩
    exact ⟨only, single, leaf, alone, exact⟩
  · rintro ⟨only, single, leaf, alone, exact⟩
    exact ⟨leaf, ⟨only, single, alone⟩, exact⟩

-- A change of members that makes none of them None, and None no other type.
theorem present_map {change : TypeForm → TypeForm}
    (absent : ∀ member ∈ members, (change member).isNoneType = member.isNoneType) :
    (members.map change).filter TypeForm.isPresent =
        (members.filter TypeForm.isPresent).map change ∧
      (members.map change).any TypeForm.isNoneType = members.any TypeForm.isNoneType := by
  constructor
  · rw [List.filter_map]
    congr 1
    exact List.filter_congr fun member listed => by
      simp only [Function.comp, TypeForm.isPresent, absent member listed]
  · rw [List.any_map]
    apply Bool.eq_iff_iff.mpr
    rw [List.any_eq_true, List.any_eq_true]
    exact exists_congr fun member => and_congr_right fun listed => by
      rw [Function.comp, absent member listed]

-- A union of members each of which is replaced.
theorem replaces_each {change : TypeForm → TypeForm}
    (each : ∀ member ∈ members, known.Replaces member (change member))
    (absent : ∀ member ∈ members, (change member).isNoneType = member.isNoneType) :
    known.Replaces (.union spelling members) (.union spelling (members.map change)) := by
  obtain ⟨present, lists⟩ := present_map absent
  have replaced : ∀ member ∈ members.filter TypeForm.isPresent,
      known.Replaces member (change member) :=
    fun member listed => each member (List.mem_filter.mp listed).1
  refine ⟨?_, ⟨?_, ?_, ?_, ?_⟩, ?_, ?_⟩
  · intro depth nullable
    cases depth with
    | zero => exact .tooDeep _
    | succ depth =>
        refine verdict_union ?_
        rw [present]
        exact verdict_each change fun member listed => (replaced member listed).verdict depth false
  · intro leaf alternative
    obtain ⟨member, listed, reached⟩ := alternative_union.mp alternative
    obtain ⟨partner, found, alike⟩ := (replaced member listed).asked.each leaf reached
    refine ⟨partner, alternative_union.mpr ⟨change member, ?_, found⟩, alike⟩
    rw [present]
    exact List.mem_map_of_mem listed
  · intro partner alternative
    obtain ⟨twin, listed, reached⟩ := alternative_union.mp alternative
    rw [present] at listed
    obtain ⟨member, within, rfl⟩ := List.mem_map.mp listed
    obtain ⟨leaf, found, alike⟩ := (replaced member within).asked.back partner reached
    exact ⟨leaf, alternative_union.mpr ⟨member, within, found⟩, alike⟩
  · intro leaf alone
    obtain ⟨only, single, onward⟩ := sole_union.mp alone
    obtain ⟨partner, found, alike⟩ :=
      (replaced only (single ▸ List.mem_singleton_self only)).asked.sole leaf onward
    exact ⟨partner, sole_union.mpr ⟨change only, by rw [present, single, List.map_singleton], found⟩,
      alike⟩
  · rw [lists_none_union, lists_none_union, lists]
  · intro leads
    obtain ⟨twin, single, onward⟩ := leads_union.mp leads
    rw [present, List.map_eq_singleton_iff] at single
    obtain ⟨only, alone, rfl⟩ := single
    exact leads_union.mpr
      ⟨only, alone, (replaced only (alone ▸ List.mem_singleton_self only)).leads onward⟩
  · by_cases single : ∃ only, members.filter TypeForm.isPresent = [only]
    · obtain ⟨only, single⟩ := single
      rw [unboxes_single single,
        unboxes_single (show (members.map change).filter TypeForm.isPresent = [change only] by
          rw [present, single, List.map_singleton])]
      exact (replaced only (single ▸ List.mem_singleton_self only)).unboxes
    · have several : ∀ only, members.filter TypeForm.isPresent ≠ [only] :=
        fun only same => single ⟨only, same⟩
      have alsoSeveral : ∀ only, (members.map change).filter TypeForm.isPresent ≠ [only] := by
        intro only same
        rw [present, List.map_eq_singleton_iff] at same
        obtain ⟨member, alone, _⟩ := same
        exact several member alone
      rw [unboxes_several several, unboxes_several alsoSeveral, present]
      simp only [List.mem_map, forall_exists_index, and_imp, forall_apply_eq_imp_iff₂]
      exact forall₂_congr fun member listed =>
        ⟨(replaced member listed).leads, leads_forward (replaced member listed).asked⟩

-- A type that says nothing that an equal one before it has not said.
def Repeats (known : World) (first member : TypeForm) : Prop :=
  first = member ∨ (known.Counterparts first member ∧ known.Tidy first ∧ known.Tidy member)

-- A declared type that leads to one class alone, which is cast to, and that does not list None.
structure CastsAlone (known : World) (form : TypeForm) : Prop where
  leads : ∃ leaf, known.Sole form leaf ∧ leaf.isNothing = false ∧ known.isValueType leaf = false
  strict : ¬ known.ListsNone form

section Repeats

variable {first member : TypeForm}

theorem repeats_present (repeated : known.Repeats first member) :
    first.isPresent = member.isPresent := by
  rcases repeated with rfl | ⟨same, _, _⟩
  · rfl
  · rw [TypeForm.isPresent, TypeForm.isPresent, none_type_counterpart same]

theorem repeats_asked (repeated : known.Repeats first member) :
    known.AskedAlike first member := by
  rcases repeated with rfl | ⟨same, tidy, alsoTidy⟩
  · exact asked_alike_refl first
  · exact asked_alike_of_counterparts same tidy alsoTidy

theorem repeats_converts {depth : Nat} {option : Conversion} (repeated : known.Repeats first member)
    (made : known.conversionWithin depth first false = .ok (some option)) :
    ∃ twin, known.conversionWithin depth member false = .ok (some twin) := by
  rcases repeated with rfl | ⟨same, tidy, alsoTidy⟩
  · exact ⟨option, made⟩
  · obtain ⟨twin, converted, _⟩ := counterpart_converts made same tidy alsoTidy
    exact ⟨twin, converted⟩

theorem casts_alone_present {form : TypeForm} (casts : known.CastsAlone form) :
    form.isNothing = false := by
  obtain ⟨leaf, alone, present, _⟩ := casts.leads
  cases alone with
  | leaf => exact present
  | union => rfl
  | annotated => rfl
  | supertype checked named =>
      unfold TypeForm.isNothing
      split
      · cases named
      · refine Bool.eq_false_iff.mpr fun absent => ?_
        rw [TypeForm.noneType_of_absent absent] at named
        rw [show known.supertype? TypeForm.noneType = .ok (known.classSupertype? .noneType) from rfl,
          show known.classSupertype? .noneType = none from rfl] at named
        cases named

theorem casts_alone_leads {form : TypeForm} (casts : known.CastsAlone form) :
    ¬ known.LeadsToValue form := by
  rintro ⟨leaf, alone, exact⟩
  obtain ⟨other, alsoAlone, _, inexact⟩ := casts.leads
  obtain rfl := (sole_alternative alsoAlone).mp ((sole_alternative alone).mpr rfl)
  rw [exact] at inexact
  cases inexact

theorem unboxes_sole {form leaf : TypeForm} (alone : known.Sole form leaf) :
    known.Unboxes form ↔ known.isValueType leaf = true := by
  induction alone with
  | leaf final => exact unboxes_final final
  | union single _ ih => rw [unboxes_single single, ih]
  | annotated _ ih => rw [unboxes_annotated, ih]
  | supertype checked named _ ih => rw [unboxes_supertype checked named, ih]

theorem casts_alone_unboxes {form : TypeForm} (casts : known.CastsAlone form) :
    ¬ known.Unboxes form := by
  intro unboxes
  obtain ⟨leaf, alone, _, inexact⟩ := casts.leads
  rw [(unboxes_sole alone).mp unboxes] at inexact
  cases inexact

end Repeats

-- Some of the members of a union, of which the others are repetitions.
structure Trimmed (known : World) (members kept : List TypeForm) : Prop where
  within : kept.Sublist members
  covers : ∀ member ∈ members, ∃ first ∈ kept, known.Repeats first member
  verdict : ∀ depth, SameVerdict
    (optionsOf (fun member => known.conversionWithin depth member false)
      (members.filter TypeForm.isPresent))
    (optionsOf (fun member => known.conversionWithin depth member false)
      (kept.filter TypeForm.isPresent))

-- Whether the members that are kept make a union of the kind of the members that there were: of
-- one type or of several, or of one that is cast to in place of several of them.
def KeepsKind (known : World) (members kept : List TypeForm) : Prop :=
  (∃ only, members.filter TypeForm.isPresent = [only]) ∨
    (∀ only, kept.filter TypeForm.isPresent ≠ [only]) ∨
    ∃ only, kept.filter TypeForm.isPresent = [only] ∧ known.CastsAlone only

section Trimmed

variable {only member : TypeForm} (trimmed : known.Trimmed members kept)
include trimmed

theorem trimmed_kept (listed : member ∈ members.filter TypeForm.isPresent) :
    ∃ first ∈ kept.filter TypeForm.isPresent, known.Repeats first member := by
  obtain ⟨within, present⟩ := List.mem_filter.mp listed
  obtain ⟨first, found, repeated⟩ := trimmed.covers member within
  exact ⟨first, List.mem_filter.mpr ⟨found, (repeats_present repeated).trans present⟩, repeated⟩

theorem trimmed_listed (listed : member ∈ kept.filter TypeForm.isPresent) :
    member ∈ members.filter TypeForm.isPresent :=
  (trimmed.within.filter TypeForm.isPresent).subset listed

theorem trimmed_single (single : members.filter TypeForm.isPresent = [only]) :
    kept.filter TypeForm.isPresent = [only] := by
  obtain ⟨first, found, _⟩ := trimmed_kept trimmed (single ▸ List.mem_singleton_self only)
  have part := trimmed.within.filter TypeForm.isPresent
  rw [single] at part
  exact part.eq_of_length_le (List.length_pos_of_mem found)

theorem trimmed_asked : known.AskedAlike (.union spelling members) (.union spelling kept) where
  each leaf alternative := by
    obtain ⟨member, listed, reached⟩ := alternative_union.mp alternative
    obtain ⟨first, found, repeated⟩ := trimmed_kept trimmed listed
    obtain ⟨partner, there, alike⟩ := (repeats_asked repeated).back leaf reached
    exact ⟨partner, alternative_union.mpr ⟨first, found, there⟩, checked_alike_symm alike⟩
  back partner alternative := by
    obtain ⟨member, listed, reached⟩ := alternative_union.mp alternative
    exact ⟨partner, alternative_union.mpr ⟨member, trimmed_listed trimmed listed, reached⟩, rfl,
      rfl⟩
  sole leaf alone := by
    obtain ⟨only, single, onward⟩ := sole_union.mp alone
    exact ⟨leaf, sole_union.mpr ⟨only, trimmed_single trimmed single, onward⟩, rfl, rfl⟩
  lists := by
    rw [lists_none_union, lists_none_union, List.any_eq_true, List.any_eq_true]
    constructor
    · rintro ⟨member, listed, absent⟩
      exact ⟨member, trimmed.within.subset listed, absent⟩
    · rintro ⟨member, listed, absent⟩
      obtain ⟨first, found, repeated⟩ := trimmed.covers member listed
      refine ⟨first, found, ?_⟩
      have same := repeats_present repeated
      simpa [TypeForm.isPresent, absent] using same

theorem trimmed_replaces (keeps : known.KeepsKind members kept) :
    known.Replaces (.union spelling members) (.union spelling kept) := by
  refine ⟨?_, trimmed_asked trimmed, ?_, ?_⟩
  · intro depth nullable
    cases depth with
    | zero => exact .tooDeep _
    | succ depth => exact verdict_union (trimmed.verdict depth)
  · intro leads
    obtain ⟨only, single, onward⟩ := leads_union.mp leads
    rcases keeps with ⟨other, alone⟩ | several | ⟨other, alone, casts⟩
    · rw [trimmed_single trimmed alone] at single
      cases single
      exact leads_union.mpr ⟨_, alone, onward⟩
    · exact absurd single (several only)
    · rw [single] at alone
      cases alone
      exact absurd onward (casts_alone_leads casts)
  · by_cases single : ∃ only, members.filter TypeForm.isPresent = [only]
    · obtain ⟨only, single⟩ := single
      rw [unboxes_single single, unboxes_single (trimmed_single trimmed single)]
    · have several : ∀ only, members.filter TypeForm.isPresent ≠ [only] :=
        fun only same => single ⟨only, same⟩
      rw [unboxes_several several]
      rcases keeps with alone | alsoSeveral | ⟨only, alone, casts⟩
      · exact absurd alone single
      · rw [unboxes_several alsoSeveral]
        constructor
        · intro each member listed
          obtain ⟨first, found, repeated⟩ := trimmed_kept trimmed listed
          exact leads_forward (repeats_asked repeated) (each first found)
        · exact fun each member listed => each member (trimmed_listed trimmed listed)
      · rw [unboxes_single alone]
        refine iff_of_false (casts_alone_unboxes casts) fun each => ?_
        exact casts_alone_leads casts
          (each only (trimmed_listed trimmed (alone ▸ List.mem_singleton_self only)))

end Trimmed

theorem verdict_alone {only : TypeForm} {depth : Nat} {nullable : Bool}
    (single : members.filter TypeForm.isPresent = [only]) :
    SameVerdict (known.conversionWithin (depth + 1) (.union spelling members) nullable)
      (known.conversionWithin depth only false) := by
  change SameVerdict (optionsOf (fun member => known.conversionWithin depth member false)
    (members.filter TypeForm.isPresent) >>= _) _
  rw [single]
  cases made : known.conversionWithin depth only false with
  | error fault =>
      rw [options_cons_fault made]
      exact .refused fault
  | ok found =>
      cases found with
      | none =>
          rw [options_cons_open made]
          exact .unchecked
      | some option =>
          rw [options_cons_check made]
          exact .checked _ _

-- A union of one type, which is cast to, is that type.
theorem replaces_alone {only : TypeForm} (casts : known.CastsAlone only) :
    known.Replaces (.union spelling [only]) only := by
  have present : only.isPresent = true := by
    have nothing := casts_alone_present casts
    unfold TypeForm.isNothing at nothing
    split at nothing
    · cases nothing
    · rw [TypeForm.isPresent, nothing]
      rfl
  have single : [only].filter TypeForm.isPresent = [only] := by simp [present]
  refine ⟨?_, ⟨?_, ?_, ?_, ?_⟩, ?_, ?_⟩
  · intro depth nullable
    cases depth with
    | zero => exact .tooDeep _
    | succ depth => exact (verdict_alone single).trans (verdict_deeper only false nullable)
  · intro leaf alternative
    obtain ⟨member, listed, reached⟩ := alternative_union.mp alternative
    rw [single, List.mem_singleton] at listed
    exact ⟨leaf, listed ▸ reached, rfl, rfl⟩
  · intro leaf reached
    exact ⟨leaf, alternative_union.mpr ⟨only, by simp [single], reached⟩, rfl, rfl⟩
  · intro leaf alone
    obtain ⟨member, same, onward⟩ := sole_union.mp alone
    rw [single] at same
    cases same
    exact ⟨leaf, onward, rfl, rfl⟩
  · refine iff_of_false casts.strict ?_
    rw [lists_none_union]
    simpa [TypeForm.isPresent] using present
  · exact fun leads => leads_union.mpr ⟨only, single, leads⟩
  · rw [unboxes_single single]

-- What is kept of some members repeats none of them, if equal members repeat each other.
theorem trimmed_distinct (repeats : ∀ first ∈ members, ∀ member ∈ members,
      first.equal member = true → known.Repeats first member) :
    known.Trimmed members (TypeForm.distinct members) where
  within := TypeForm.distinct_sublist members
  covers member listed := by
    obtain ⟨first, found, same | equal⟩ := TypeForm.distinct_covers listed
    · exact ⟨first, found, .inl same⟩
    · exact ⟨first, found, repeats first ((TypeForm.distinct_sublist members).subset found) member
        listed equal⟩
  verdict depth := by
    have steps := TypeForm.distinct_steps (fun kept rest =>
        (∀ member ∈ kept ++ rest, member ∈ members) ∧ SameVerdict
          (optionsOf (fun member => known.conversionWithin depth member false)
            (members.filter TypeForm.isPresent))
          (optionsOf (fun member => known.conversionWithin depth member false)
            ((kept ++ rest).filter TypeForm.isPresent)))
      ⟨by simp, .refl _⟩
      (by
        intro kept member rest _ before
        rwa [List.append_assoc])
      (by
        rintro kept member rest repeated ⟨within, verdict⟩
        refine ⟨fun other listed => within other ?_, verdict.trans ?_⟩
        · rcases List.mem_append.mp listed with early | late
          · exact List.mem_append_left _ early
          · exact List.mem_append_right _ (List.mem_cons_of_mem _ late)
        · obtain ⟨first, found, equal⟩ := TypeForm.any_equal_gives repeated
          have again := repeats first (within first (List.mem_append_left _ found)) member
            (within member (by simp)) equal
          cases present : member.isPresent with
          | false =>
              rw [List.filter_append, List.filter_append, List.filter_cons, present]
              exact .refl _
          | true =>
              rw [List.filter_append, List.filter_append, List.filter_cons, present]
              refine verdict_dropped _ _
                (List.mem_filter.mpr ⟨found, (repeats_present again).trans present⟩) ?_
              exact fun option made => repeats_converts again made)
    simpa using steps.2

end Unions

section Relistable

variable {known : World} {form : TypeForm} {members : List TypeForm} {spelling : Spelling}

theorem flat_each (flat : ∀ member ∈ members, ∀ mark others, member ≠ .union mark others) :
    members.flatMap TypeForm.flat = members := by
  induction members with
  | nil => rfl
  | cons member rest ih =>
      rw [List.flatMap_cons, ih fun later listed => flat later (List.mem_cons_of_mem _ listed)]
      have whole := flat member List.mem_cons_self
      cases member
      case union mark others => exact absurd rfl (whole mark others)
      all_goals rfl

theorem relisted_alike {member : TypeForm} (whole : ∀ mark others, member ≠ .union mark others) :
    member.relisted.isNoneType = member.isNoneType ∧
      ∀ mark others, member.relisted ≠ .union mark others := by
  cases member
  case union mark others => exact absurd rfl (whole mark others)
  case annotated base metadata => exact ⟨rfl, by rintro _ _ ⟨⟩⟩
  case newType name base => exact ⟨rfl, by rintro _ _ ⟨⟩⟩
  all_goals exact ⟨rfl, whole⟩

-- What is left of a union: one type and None, several types, or one that is cast to.
def Leaves (known : World) (members kept : List TypeForm) : Prop :=
  (members.any TypeForm.isNoneType = true ∧ ∃ only, members.filter TypeForm.isPresent = [only]) ∨
    2 ≤ (kept.filter TypeForm.isPresent).length ∨
    ∃ only, kept.filter TypeForm.isPresent = [only] ∧ known.CastsAlone only

theorem keeps_kind_of_leaves {kept : List TypeForm} (left : known.Leaves members kept) :
    known.KeepsKind members kept := by
  rcases left with ⟨_, single⟩ | several | casts
  · exact .inl single
  · refine .inr (.inl fun only same => ?_)
    rw [same] at several
    exact absurd several (by simp)
  · exact .inr (.inr casts)

-- What is left alone is cast to.
theorem casts_alone_of_leaves {only : TypeForm} (trimmed : known.Trimmed members [only])
    (left : known.Leaves members [only]) : known.CastsAlone only := by
  rcases left with ⟨absent, other, single⟩ | several | ⟨other, single, casts⟩
  · obtain ⟨missing, listed, absent⟩ := List.any_eq_true.mp absent
    obtain ⟨first, found, repeated⟩ := trimmed.covers missing listed
    obtain rfl := List.mem_singleton.mp found
    have kept := trimmed_single trimmed single
    have present := repeats_present repeated
    rw [show missing.isPresent = false by rw [TypeForm.isPresent, absent]; rfl] at present
    rw [List.filter_cons_of_neg (by simp [present])] at kept
    cases kept
  · exact absurd (Nat.le_trans several (List.length_filter_le _ _)) (by simp)
  · have found : other ∈ [only] := (List.mem_filter.mp (single ▸ List.mem_singleton_self other)).1
    exact List.mem_singleton.mp found ▸ casts

theorem joined_replaces (flat : members.flatMap TypeForm.flat = members)
    (repeats : ∀ first ∈ members, ∀ member ∈ members, first.equal member = true →
      known.Repeats first member) (left : known.Leaves members (TypeForm.distinct members)) :
    known.Replaces (.union spelling members) (TypeForm.joined spelling members) := by
  have trimmed := trimmed_distinct repeats
  rw [TypeForm.joined, flat]
  split
  · rename_i only single
    rw [single] at trimmed left
    exact replaces_trans (trimmed_replaces trimmed (keeps_kind_of_leaves left))
      (replaces_alone (casts_alone_of_leaves trimmed left) : known.Replaces (.union spelling _) _)
  · exact trimmed_replaces trimmed (keeps_kind_of_leaves left)

-- A declared type that can be listed anew. Its unions list no union, and their members that become
-- equal are written alike or leave no doubt about what they are; and of several types there are
-- several left, or one that is cast to.
inductive Relistable (known : World) : TypeForm → Prop where
  | unchanged {form : TypeForm} (same : form.relisted = form) : Relistable known form
  | annotated {base : TypeForm} {metadata : List Value} (onward : Relistable known base) :
      Relistable known (.annotated base metadata)
  | newType {name : String} {base : TypeForm} (onward : Relistable known base)
      (present : base.relisted ≠ .none) : Relistable known (.newType name base)
  | union {spelling : Spelling} {members : List TypeForm}
      (flat : ∀ member ∈ members, ∀ mark others, member ≠ .union mark others)
      (each : ∀ member ∈ members, Relistable known member)
      (repeats : ∀ first ∈ TypeForm.relistedAll members,
        ∀ member ∈ TypeForm.relistedAll members, first.equal member = true →
          first = member ∨ known.Tidy first ∧ known.Tidy member)
      (left : known.Leaves (TypeForm.relistedAll members)
        (TypeForm.distinct (TypeForm.relistedAll members))) :
      Relistable known (.union spelling members)

-- What is listed anew does for what it was.
theorem relisted_replaces (relistable : known.Relistable form) :
    known.Replaces form form.relisted := by
  induction relistable with
  | unchanged same =>
      rw [same]
      exact replaces_refl _
  | annotated _ ih => exact replaces_annotated _ ih
  | newType _ present ih =>
      refine replaces_new_type _ ih ?_ present
      rintro rfl
      exact present rfl
  | @union spelling members flat each repeats left ih =>
      have alike := fun member listed => relisted_alike (flat member listed)
      rw [TypeForm.relisted_all] at repeats left
      rw [TypeForm.relisted, TypeForm.relisted_all]
      refine replaces_trans (replaces_each ih fun member listed => (alike member listed).1)
        (joined_replaces (flat_each ?_) ?_ left)
      · intro member listed
        obtain ⟨origin, found, rfl⟩ := List.mem_map.mp listed
        exact (alike origin found).2
      · intro first listed member found equal
        exact (repeats first listed member found equal).imp id
          fun tidy => ⟨counterparts_of_equal equal, tidy⟩

end Relistable

-- A type that does for another one is converted with it, to a check of the same kind.
theorem replaces_made {known : World} {form other : TypeForm} {nullable : Bool}
    {made : Option Conversion} (replaces : known.Replaces form other)
    (found : known.conversionFor form nullable = .ok made) :
    ∃ twin, known.conversionFor other nullable = .ok twin ∧ Alike made twin := by
  have verdict := replaces.verdict nestingLimit nullable
  rw [show known.conversionWithin nestingLimit form nullable = .ok made from found] at verdict
  cases converted : known.conversionWithin nestingLimit other nullable with
  | error fault =>
      rw [converted] at verdict
      cases verdict
  | ok twin =>
      rw [converted] at verdict
      refine ⟨twin, converted, ?_⟩
      cases verdict with
      | unchecked => exact .unasked
      | checked conversion twin =>
          refine .asked ⟨Bool.eq_iff_iff.mpr ?_, Bool.eq_iff_iff.mpr ?_⟩
          · rw [within_unboxing converted, within_unboxing found]
            exact ⟨replaces.leads, leads_forward replaces.asked⟩
          · rw [within_refuses converted, within_refuses found, replaces.unboxes]

theorem verdict_asks {α β : Type} {first : Except UnsupportedType (Option α)}
    {second : Except UnsupportedType (Option β)} (same : SameVerdict first second)
    {question : Question} (asks : asked UnsupportedType.question? first = some question) :
    asked UnsupportedType.question? second = some question := by
  cases same with
  | checked => cases asks
  | unchecked => cases asks
  | refused fault => exact asks
  | tooDeep => cases asks

end World

namespace Strategy

-- What is converted once all has been asked is converted beside it as it is listed anew.
theorem relisted_made {world : World} {caller : Caller} {form : TypeForm} {nullable : Bool}
    {made : Option Conversion} {store after : Store}
    (relistable : ∀ known, world.Informed known → known.Relistable form)
    (ran : (conversion world caller form nullable).run.run store = (.ok made, after)) :
    ∃ known twin, world.Informed known ∧ known.conversionFor form nullable = .ok made ∧
      known.conversionFor form.relisted nullable = .ok twin ∧ World.Alike made twin ∧
      (conversion world caller form.relisted nullable).run.run store = (.ok twin, after) := by
  have alike := fun known informed => World.relisted_replaces (relistable known informed)
  obtain ⟨known, informed, found, follows⟩ := Making.beside_made
    (fun known informed question asks =>
      World.verdict_asks ((alike known informed).verdict World.nestingLimit nullable) asks) ran
  obtain ⟨twin, converted, kind⟩ := World.replaces_made (alike known informed) found
  refine ⟨known, twin, informed, found, converted, kind, ?_⟩
  rw [show known.conversionWithin World.nestingLimit form.relisted nullable = .ok twin
    from converted] at follows
  exact follows rfl

end Strategy

end MemberThunks
