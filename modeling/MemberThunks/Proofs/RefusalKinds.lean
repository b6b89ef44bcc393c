import MemberThunks.Proofs.UnionOrder

set_option autoImplicit false

/- What a refusal tells. A value is refused either to be unboxed or to be cast, and which of the
   two is settled by the conversion and not by the value. A refusal to unbox tells that all
   alternatives of the declared type are value classes, but for None; the reverse holds where no
   union of several types stands in another one, since a union looks at its options and not at
   what these lead to. -/
namespace MemberThunks

namespace TypeForm

-- Whether a declared type is None, by itself or by its class.
def isNothing : TypeForm → Bool
  | none => true
  | form => form.isNoneType

-- Listing members anew takes one step for each of them: it is kept if it equals none that is kept.
theorem distinct_steps (holds : List TypeForm → List TypeForm → Prop) {members : List TypeForm}
    (start : holds [] members)
    (keep : ∀ kept member rest, ¬ anyEqual kept member = true → holds kept (member :: rest) →
      holds (kept ++ [member]) rest)
    (drop : ∀ kept member rest, anyEqual kept member = true → holds kept (member :: rest) →
      holds kept rest) : holds (distinct members) [] := by
  have further : ∀ (rest kept : List TypeForm), holds kept rest → holds (rest.foldl
      (fun kept member => if anyEqual kept member then kept else kept ++ [member]) kept) [] := by
    intro rest
    induction rest with
    | nil => exact fun _ done => done
    | cons member rest ih =>
        intro kept before
        refine ih _ ?_
        dsimp only
        split
        · rename_i found
          exact drop kept member rest found before
        · rename_i fresh
          exact keep kept member rest fresh before
  exact further members [] start

-- Some members, not all of which are None unless there is one alone.
def ListsNoneOnce (members : List TypeForm) : Prop :=
  members ≠ [] ∧ (members.all isNoneType = true → members.length ≤ 1)

theorem lists_once_fresh {kept : List TypeForm} {member : TypeForm} (once : ListsNoneOnce kept)
    (fresh : ¬ anyEqual kept member = true) : ListsNoneOnce (kept ++ [member]) := by
  refine ⟨by simp, fun absent => ?_⟩
  cases kept with
  | nil => exact absurd rfl once.1
  | cons first others =>
      simp only [List.all_append, List.all_cons, List.all_nil, Bool.and_true,
        Bool.and_eq_true] at absent
      have same : first.equal member = true := by
        rw [noneType_of_absent absent.1.1, noneType_of_absent absent.2]
        rfl
      exact absurd (by rw [anyEqual, same]; rfl) fresh

-- What is kept of some members lists None once.
theorem distinct_lists_once {members : List TypeForm} (some : members ≠ []) :
    ListsNoneOnce (distinct members) := by
  have once : (distinct members = [] ∧ ([] : List TypeForm) ≠ []) ∨
      ListsNoneOnce (distinct members) := by
    refine distinct_steps (fun kept rest => (kept = [] ∧ rest ≠ []) ∨ ListsNoneOnce kept)
      (.inl ⟨rfl, some⟩) ?_ ?_
    · rintro kept member rest fresh (⟨rfl, _⟩ | once)
      · exact .inr ⟨by simp, fun _ => Nat.le_refl 1⟩
      · exact .inr (lists_once_fresh once fresh)
    · rintro kept member rest repeated (⟨rfl, _⟩ | once)
      · cases repeated
      · exact .inr once
  exact once.resolve_left fun ⟨_, impossible⟩ => impossible rfl

-- A union that the language forms lists something beside None.
theorem joined_lists_present {spelling other : Spelling} {members parts : List TypeForm}
    (some : members.flatMap flat ≠ [])
    (formed : ∀ only, distinct (members.flatMap flat) = [only] → only ≠ .union other parts)
    (shaped : joined spelling members = .union other parts) :
    ∃ member, member ∈ parts.filter isPresent := by
  have once := distinct_lists_once some
  unfold joined at shaped
  split at shaped
  · rename_i only single
    exact absurd shaped (formed only single)
  · rename_i several
    cases shaped
    refine Classical.byContradiction fun absent => ?_
    have short := once.2 (List.all_eq_true.mpr fun member found =>
      Classical.byContradiction fun present =>
        absent ⟨member, List.mem_filter.mpr ⟨found, by simpa [isPresent] using present⟩⟩)
    cases kept : distinct (members.flatMap flat) with
    | nil => exact once.1 kept
    | cons first others =>
        cases others with
        | nil => exact several first kept
        | cons =>
            rw [kept] at short
            simp at short

end TypeForm

namespace World

-- Whether a declared type leads to one alternative, and that is a value class.
def LeadsToValue (known : World) (form : TypeForm) : Prop :=
  ∃ leaf, known.Sole form leaf ∧ known.isValueType leaf = true

-- Whether values are refused to be unboxed to a declared type: it is a value class, or the
-- outermost union of several types lists only types that lead to one.
inductive Unboxes (known : World) : TypeForm → Prop where
  | leaf {form : TypeForm} (final : known.isAlternative form = true)
      (exact : known.isValueType form = true) : Unboxes known form
  | several {spelling : Spelling} {members : List TypeForm}
      (several : ∀ only, members.filter TypeForm.isPresent ≠ [only])
      (each : ∀ member ∈ members.filter TypeForm.isPresent, known.LeadsToValue member) :
      Unboxes known (.union spelling members)
  | single {spelling : Spelling} {members : List TypeForm} {only : TypeForm}
      (single : members.filter TypeForm.isPresent = [only]) (onward : Unboxes known only) :
      Unboxes known (.union spelling members)
  | annotated {base : TypeForm} {metadata : List Value} (onward : Unboxes known base) :
      Unboxes known (.annotated base metadata)
  | supertype {form supertype : TypeForm} (checked : form.isErased = false)
      (named : known.supertype? form = .ok (some supertype))
      (onward : Unboxes known supertype) : Unboxes known form

-- The alternatives of a declared type other than None are value classes, and there is one.
structure PurelyValues (known : World) (form : TypeForm) : Prop where
  some : ∃ leaf, known.Alternative form leaf ∧ leaf.isNothing = false
  each : ∀ leaf, known.Alternative form leaf → leaf.isNothing = false →
    known.isValueType leaf = true

-- Whether the members of each union that a declared type leads to keep a rule.
def UnionsKeep (known : World) (rule : List TypeForm → Prop) (form : TypeForm) : Prop :=
  ∀ spelling members, known.Reaches (fun _ => true) form (.union spelling members) → rule members

-- A declared type whose unions list something beside None, as all unions do that the language
-- forms.
def Formed (known : World) (form : TypeForm) : Prop :=
  known.UnionsKeep (fun members => ∃ member, member ∈ members.filter TypeForm.isPresent) form

-- A declared type in which a union of several types lists neither another one nor None, be it
-- under another name.
def Unnested (known : World) (form : TypeForm) : Prop :=
  known.UnionsKeep (fun members => (∀ only, members.filter TypeForm.isPresent ≠ [only]) →
    ∀ member ∈ members.filter TypeForm.isPresent,
      ∃ leaf, known.Sole member leaf ∧ leaf.isNothing = false) form

section Unions

variable {known : World} {rule : List TypeForm → Prop} {form part supertype : TypeForm}
  {spelling : Spelling} {members : List TypeForm}

theorem keep_onward (keep : known.UnionsKeep rule form)
    (onward : ∀ goal, known.Reaches (fun _ => true) part goal →
      known.Reaches (fun _ => true) form goal) : known.UnionsKeep rule part :=
  fun spelling members reached => keep spelling members (onward _ reached)

theorem keep_final (final : known.isAlternative form = true) : known.UnionsKeep rule form := by
  intro spelling members reached
  cases reached with
  | here => cases final
  | member => cases final
  | annotated => cases final
  | supertype checked named =>
      rw [not_final_of_supertype checked named] at final
      cases final

theorem keep_union (here : rule members)
    (each : ∀ member ∈ members, known.UnionsKeep rule member) :
    known.UnionsKeep rule (.union spelling members) := by
  intro other others reached
  cases reached with
  | here => exact here
  | member listed _ onward => exact each _ listed other others onward
  | supertype _ named => cases named

theorem keep_supertype (named : known.supertype? form = .ok (some supertype))
    (whole : ∀ spelling members, form ≠ .union spelling members)
    (onward : known.UnionsKeep rule supertype) : known.UnionsKeep rule form := by
  intro other others reached
  cases reached with
  | here => exact absurd rfl (whole _ _)
  | member => exact absurd rfl (whole _ _)
  | annotated => cases named
  | supertype _ told further =>
      rw [named] at told
      cases told
      exact onward other others further

end Unions

section Sole

variable {known : World} {form leaf base supertype : TypeForm} {members : List TypeForm}
  {spelling : Spelling} {metadata : List Value}

theorem sole_final (final : known.isAlternative form = true) :
    known.Sole form leaf ↔ leaf = form := by
  constructor
  · intro sole
    cases sole with
    | leaf => rfl
    | union => cases final
    | annotated => cases final
    | supertype checked named =>
        rw [not_final_of_supertype checked named] at final
        cases final
  · rintro rfl
    exact .leaf final

theorem sole_union : known.Sole (.union spelling members) leaf ↔
    ∃ only, members.filter TypeForm.isPresent = [only] ∧ known.Sole only leaf := by
  constructor
  · intro sole
    cases sole with
    | leaf final => cases final
    | union single onward => exact ⟨_, single, onward⟩
    | supertype _ named => cases named
  · rintro ⟨only, single, onward⟩
    exact .union single onward

theorem sole_annotated :
    known.Sole (.annotated base metadata) leaf ↔ known.Sole base leaf := by
  constructor
  · intro sole
    cases sole with
    | leaf final => cases final
    | annotated onward => exact onward
    | supertype _ named => cases named
  · exact .annotated

theorem sole_supertype (checked : form.isErased = false)
    (named : known.supertype? form = .ok (some supertype)) :
    known.Sole form leaf ↔ known.Sole supertype leaf := by
  constructor
  · intro sole
    cases sole with
    | leaf final =>
        rw [not_final_of_supertype checked named] at final
        cases final
    | union => cases named
    | annotated => cases named
    | supertype _ told onward =>
        rw [named] at told
        cases told
        exact onward
  · exact .supertype checked named

-- A sole alternative is one, and there is no other.
theorem sole_alternative (sole : known.Sole form leaf) {other : TypeForm} :
    known.Alternative form other ↔ other = leaf := by
  induction sole with
  | leaf final => exact alternative_itself final
  | union single _ ih => simp [alternative_union, single, ih]
  | annotated _ ih => rw [alternative_annotated, ih]
  | supertype checked named _ ih => rw [alternative_supertype checked named, ih]

theorem nothing_no_value (exact : known.isValueType leaf = true) : leaf.isNothing = false := by
  unfold TypeForm.isNothing TypeForm.isNoneType
  split
  · cases exact
  · split
    · cases exact
    · rfl

end Sole

section Unboxes

variable {known : World} {form leaf base supertype only : TypeForm} {members : List TypeForm}
  {spelling : Spelling} {metadata : List Value}

theorem unboxes_final (final : known.isAlternative form = true) :
    known.Unboxes form ↔ known.isValueType form = true := by
  constructor
  · intro unboxes
    cases unboxes with
    | leaf _ exact => exact exact
    | several => cases final
    | single => cases final
    | annotated => cases final
    | supertype checked named =>
        rw [not_final_of_supertype checked named] at final
        cases final
  · exact .leaf final

theorem unboxes_single (single : members.filter TypeForm.isPresent = [only]) :
    known.Unboxes (.union spelling members) ↔ known.Unboxes only := by
  constructor
  · intro unboxes
    cases unboxes with
    | leaf final => cases final
    | several several => exact absurd single (several only)
    | single other onward =>
        rw [single] at other
        cases other
        exact onward
    | supertype _ named => cases named
  · exact .single single

theorem unboxes_several (several : ∀ only, members.filter TypeForm.isPresent ≠ [only]) :
    known.Unboxes (.union spelling members) ↔
      ∀ member ∈ members.filter TypeForm.isPresent, known.LeadsToValue member := by
  constructor
  · intro unboxes
    cases unboxes with
    | leaf final => cases final
    | several _ each => exact each
    | single single => exact absurd single (several _)
    | supertype _ named => cases named
  · exact .several several

theorem unboxes_annotated :
    known.Unboxes (.annotated base metadata) ↔ known.Unboxes base := by
  constructor
  · intro unboxes
    cases unboxes with
    | leaf final => cases final
    | annotated onward => exact onward
    | supertype _ named => cases named
  · exact .annotated

theorem unboxes_supertype (checked : form.isErased = false)
    (named : known.supertype? form = .ok (some supertype)) :
    known.Unboxes form ↔ known.Unboxes supertype := by
  constructor
  · intro unboxes
    cases unboxes with
    | leaf final =>
        rw [not_final_of_supertype checked named] at final
        cases final
    | several => cases named
    | single => cases named
    | annotated => cases named
    | supertype _ told onward =>
        rw [named] at told
        cases told
        exact onward
  · exact .supertype checked named

end Unboxes

section Convert

variable {known : World} {form : TypeForm} {nullable : Bool} {conversion : Conversion} {depth : Nat}
  {convert : TypeForm → Except UnsupportedType (Option Conversion)} {members : List TypeForm}

theorem several_members {options : List Conversion}
    (converted : optionsOf convert members = .ok (some options))
    (several : ∀ only, options ≠ [only]) (member : TypeForm) : members ≠ [member] := by
  rintro rfl
  obtain ⟨only, rfl, _⟩ := single_member converted
  exact several only rfl

theorem option_of_single {member : TypeForm} {options : Option (List Conversion)}
    (made : (Except.ok (unionConversion nullable options) :
      Except UnsupportedType (Option Conversion)) = .ok (some conversion))
    (converted : optionsOf convert [member] = .ok options) :
    ∃ only, convert member = .ok (some only) := by
  cases options with
  | none => cases made
  | some options =>
      obtain ⟨only, _, found⟩ := single_member converted
      exact ⟨only, found⟩

theorem leaf_unboxing (found : known.leafConversion form nullable = .ok (some conversion)) :
    conversion.isUnboxing = known.isValueType form ∧
      conversion.refusesUnboxing = known.isValueType form := by
  unfold leafConversion at found
  split at found
  · cases found
  · rename_i origin _ named
    cases found
    rw [(class_of_origin known named).2]
    exact ⟨rfl, rfl⟩
  · split at found
    · rename_i exact
      cases found
      rw [isValueType, exact]
      exact ⟨rfl, rfl⟩
    · rename_i inexact
      rw [Bool.not_eq_true] at inexact
      cases found
      rw [isValueType, inexact]
      exact ⟨rfl, rfl⟩
  · split at found <;> cases found

-- A conversion unboxes where the declared type leads to a value class alone.
theorem within_unboxing
    (found : known.conversionWithin depth form nullable = .ok (some conversion)) :
    conversion.isUnboxing = true ↔ known.LeadsToValue form := by
  induction depth generalizing form nullable conversion with
  | zero => cases found
  | succ depth ih =>
      unfold conversionWithin at found
      split at found
      · cases found
        simp [LeadsToValue, sole_final (show known.isAlternative .none = true from rfl), isValueType,
          Conversion.isUnboxing]
      · rename_i spelling members
        obtain ⟨options, converted, found⟩ := ok_of_bind found
        cases options with
        | none => cases found
        | some options =>
            by_cases single : ∃ only, options = [only]
            · obtain ⟨only, rfl⟩ := single
              obtain ⟨member, alone, made⟩ := single_option converted
              have alone : members.filter TypeForm.isPresent = [member] := alone
              cases found
              rw [(Conversion.kind_with_nullable only _).1, ih made]
              simp [LeadsToValue, sole_union, alone]
            · have several : ∀ only, members.filter TypeForm.isPresent ≠ [only] :=
                several_members converted fun only same => single ⟨only, same⟩
              rw [union_of_several _ fun only same => single ⟨only, same⟩] at found
              cases found
              simp [LeadsToValue, sole_union, several, Conversion.isUnboxing]
      · rw [ih found]
        simp only [LeadsToValue, sole_annotated]
      · rename_i whole bald
        split at found
        · cases found
        · rename_i plain
          rw [Bool.not_eq_true] at plain
          split at found
          · rename_i supertype named
            rw [ih found]
            simp only [LeadsToValue, sole_supertype plain named]
          · rename_i bare
            rw [(leaf_unboxing found).1]
            simp [LeadsToValue, sole_final (alternative_of_leaf plain bare whole bald)]
          · cases found

-- A union of several types refuses to unbox where each of its options would unbox.
theorem options_unboxing {members : List TypeForm} {options : List Conversion}
    (converted : optionsOf (fun member => known.conversionWithin depth member false) members =
      .ok (some options)) :
    options.all Conversion.isUnboxing = true ↔ ∀ member ∈ members, known.LeadsToValue member := by
  rw [List.all_eq_true]
  constructor
  · intro unboxing member listed
    obtain ⟨option, held, made⟩ := option_of_member converted listed
    exact (within_unboxing made).mp (unboxing option held)
  · intro leads option held
    obtain ⟨member, listed, made⟩ := member_of_option converted held
    exact (within_unboxing made).mpr (leads member listed)

-- The kind of a refusal follows the outermost union of several types alone.
theorem within_refuses
    (found : known.conversionWithin depth form nullable = .ok (some conversion)) :
    conversion.refusesUnboxing = true ↔ known.Unboxes form := by
  induction depth generalizing form nullable conversion with
  | zero => cases found
  | succ depth ih =>
      unfold conversionWithin at found
      split at found
      · cases found
        simp [unboxes_final (show known.isAlternative .none = true from rfl), isValueType,
          Conversion.refusesUnboxing]
      · rename_i spelling members
        obtain ⟨options, converted, found⟩ := ok_of_bind found
        cases options with
        | none => cases found
        | some options =>
            by_cases single : ∃ only, options = [only]
            · obtain ⟨only, rfl⟩ := single
              obtain ⟨member, alone, made⟩ := single_option converted
              cases found
              rw [(Conversion.kind_with_nullable only _).2, ih made, unboxes_single alone]
            · have several := several_members converted fun only same => single ⟨only, same⟩
              rw [union_of_several _ fun only same => single ⟨only, same⟩] at found
              cases found
              rw [unboxes_several several]
              exact options_unboxing converted
      · rw [ih found, unboxes_annotated]
      · rename_i whole bald
        split at found
        · cases found
        · rename_i plain
          rw [Bool.not_eq_true] at plain
          split at found
          · rename_i supertype named
            rw [ih found, unboxes_supertype plain named]
          · rename_i bare
            rw [(leaf_unboxing found).2, unboxes_final (alternative_of_leaf plain bare whole bald)]
          · cases found

end Convert

section Purely

variable {known : World} {form part supertype : TypeForm} {nullable : Bool}
  {conversion : Conversion} {depth : Nat} {spelling : Spelling} {members : List TypeForm}

theorem purely_onward
    (same : ∀ leaf, known.Alternative form leaf ↔ known.Alternative part leaf) :
    known.PurelyValues form ↔ known.PurelyValues part := by
  constructor
  · rintro ⟨⟨leaf, reached, present⟩, each⟩
    exact ⟨⟨leaf, (same leaf).mp reached, present⟩, fun other found => each other
      ((same other).mpr found)⟩
  · rintro ⟨⟨leaf, reached, present⟩, each⟩
    exact ⟨⟨leaf, (same leaf).mpr reached, present⟩, fun other found => each other
      ((same other).mp found)⟩

theorem purely_single {only : TypeForm} (single : members.filter TypeForm.isPresent = [only]) :
    known.PurelyValues (.union spelling members) ↔ known.PurelyValues only :=
  purely_onward fun leaf => by simp [alternative_union, single]

theorem only_listed {only : TypeForm} (single : members.filter TypeForm.isPresent = [only]) :
    only ∈ members :=
  (List.mem_filter.mp (single ▸ List.mem_singleton_self only)).1

-- A refusal to unbox tells that there are values to be unboxed and nothing else.
theorem purely_of_unboxes (unboxes : known.Unboxes form) (formed : known.Formed form) :
    known.PurelyValues form := by
  induction unboxes with
  | @leaf form final exact =>
      refine ⟨⟨form, (alternative_itself final).mpr rfl, nothing_no_value exact⟩, ?_⟩
      intro leaf reached _
      rw [(alternative_itself final).mp reached]
      exact exact
  | @several spelling members _ each =>
      obtain ⟨member, listed⟩ := formed spelling members (.here _)
      obtain ⟨leaf, sole, exact⟩ := each member listed
      refine ⟨⟨leaf, alternative_union.mpr ⟨member, listed, (sole_alternative sole).mpr rfl⟩,
        nothing_no_value exact⟩, ?_⟩
      intro other reached _
      obtain ⟨partner, found, alternative⟩ := alternative_union.mp reached
      obtain ⟨value, alone, alsoExact⟩ := each partner found
      rw [(sole_alternative alone).mp alternative]
      exact alsoExact
  | single single _ ih =>
      exact (purely_single single).mpr
        (ih (keep_onward formed fun _ reached => .member (only_listed single) rfl reached))
  | annotated _ ih =>
      exact (purely_onward fun _ => alternative_annotated).mpr
        (ih (keep_onward formed fun _ reached => .annotated reached))
  | supertype checked named _ ih =>
      exact (purely_onward fun _ => alternative_supertype checked named).mpr
        (ih (keep_onward formed fun _ reached => .supertype checked named reached))

-- Where unions are not nested, what there are but values to be unboxed is refused so.
theorem unboxes_of_purely
    (found : known.conversionWithin depth form nullable = .ok (some conversion))
    (purely : known.PurelyValues form) (unnested : known.Unnested form) : known.Unboxes form := by
  induction depth generalizing form nullable conversion with
  | zero => cases found
  | succ depth ih =>
      unfold conversionWithin at found
      split at found
      · obtain ⟨⟨leaf, reached, present⟩, _⟩ := purely
        rw [(alternative_itself (show known.isAlternative .none = true from rfl)).mp reached]
          at present
        cases present
      · rename_i spelling members
        obtain ⟨options, converted, found⟩ := ok_of_bind found
        by_cases single : ∃ only, members.filter TypeForm.isPresent = [only]
        · obtain ⟨only, single⟩ := single
          obtain ⟨option, made⟩ := option_of_single found (single ▸ converted)
          exact .single single (ih made ((purely_single single).mp purely)
            (keep_onward unnested fun _ reached => .member (only_listed single) rfl reached))
        · refine .several (fun only same => single ⟨only, same⟩) ?_
          intro member listed
          obtain ⟨leaf, sole, present⟩ := unnested spelling members (.here _)
            (fun only same => single ⟨only, same⟩) member listed
          exact ⟨leaf, sole, purely.each leaf
            (alternative_union.mpr ⟨member, listed, (sole_alternative sole).mpr rfl⟩) present⟩
      · exact .annotated (ih found ((purely_onward fun _ => alternative_annotated).mp purely)
          (keep_onward unnested fun _ reached => .annotated reached))
      · rename_i whole bald
        split at found
        · cases found
        · rename_i plain
          rw [Bool.not_eq_true] at plain
          split at found
          · rename_i supertype named
            exact .supertype plain named
              (ih found ((purely_onward fun _ => alternative_supertype plain named).mp purely)
                (keep_onward unnested fun _ reached => .supertype plain named reached))
          · rename_i bare
            have final := alternative_of_leaf plain bare whole bald
            obtain ⟨⟨leaf, reached, present⟩, each⟩ := purely
            obtain rfl := (alternative_itself final).mp reached
            exact .leaf final (each leaf reached present)
          · cases found

end Purely

end World

namespace Strategy

section Screened

variable {known later : World} {caller : Caller} {form : TypeForm} {conversion : Conversion}
  {value : Value} {store : Store}

-- How a value comes out of a conversion whose refusals are of a kind. It is let through; or a
-- check raises an exception, which only a value that is asked for its class can provoke, or an
-- alternative that no value can be asked for; or it is refused.
inductive Screened (known later : World) (caller : Caller) (form : TypeForm)
    (conversion : Conversion) (kind : FailureKind) (value : Value) (store : Store) :
    Except Raised Value × Store → Prop where
  | admitted (final : Store) :
      Screened known later caller form conversion kind value store (.ok value, final)
  | raised (raised : Raised) (final : Store)
      (asks : (conversion.accepts later caller (store.current value)).execute store =
        (.error raised, final))
      (provoked : later.Candid store value →
        ∃ leaf, known.Alternative form leaf ∧ ¬ World.IsAskable leaf) :
      Screened known later caller form conversion kind value store (.error raised, final)
  | refused (raised : Raised) (final : Store)
      (unlisted : ((store.current value).isNone && conversion.nullable) = false)
      (denies : (conversion.accepts later caller (store.current value)).execute store =
        (.ok false, final))
      (refusal : raised.failure.kind = kind) :
      Screened known later caller form conversion kind value store (.error raised, final)

-- The kind of failure by which a conversion refuses.
def kindOf (conversion : Conversion) : FailureKind :=
  if conversion.refusesUnboxing then .unbox else .invalidCast

theorem accepts_provoked {nullable : Bool} {raised : Raised} {final : Store}
    (found : known.conversionFor form nullable = .ok (some conversion))
    (asks : (conversion.accepts later caller (store.current value)).execute store =
      (.error raised, final)) (candid : later.Candid store value) :
    ∃ leaf, known.Alternative form leaf ∧ ¬ World.IsAskable leaf := by
  obtain ⟨leaves, spread, checked, same⟩ := World.within_asks found
  refine Classical.byContradiction fun settled => ?_
  have askable : ∀ leaf, known.Alternative form leaf → leaf.isErased = false →
      World.IsAskable leaf := fun leaf reached _ =>
    Classical.byContradiction fun unaskable => settled ⟨leaf, reached, unaskable⟩
  obtain ⟨other, ran⟩ := any_of_steady caller spread (World.candid_current candid)
    (store.current_current value) askable checked
  rw [show conversion.accepts later caller (store.current value) = _ from same _ _ _, ran] at asks
  cases asks

theorem conversion_screens {nullable : Bool}
    (found : known.conversionFor form nullable = .ok (some conversion)) (later : World)
    (caller : Caller) (value : Value) (store : Store) :
    Screened known later caller form conversion (kindOf conversion) value store
      ((conversion.apply later caller value).execute store) := by
  cases absent : (store.current value).isNone && conversion.nullable with
  | true =>
      rw [Conversion.apply_lets_through absent]
      exact .admitted store
  | false =>
      rw [Conversion.apply_asks absent]
      cases asks : (conversion.accepts later caller (store.current value)).execute store with
      | mk outcome final =>
          cases outcome with
          | error raised =>
              rw [Run.execute_bind_error asks]
              exact .raised raised final asks (accepts_provoked found asks)
          | ok accepted =>
              rw [Run.execute_bind_ok asks]
              cases accepted with
              | true => exact .admitted final
              | false => exact .refused _ final absent asks (Conversion.refusal_by_kind _ _ _)

end Screened

section Kinds

variable {world : World} {caller : Caller} {form : TypeForm} {nullable : Bool}
  {conversion : Conversion} {store after : Store}

-- All refusals of a conversion are of one kind. If it is the refusal to unbox, there are values to
-- be unboxed and nothing else among the alternatives, but for None; and where no union of several
-- types lists another one, that is when it is.
theorem refusal_tells_alternatives
    (made : (Strategy.conversion world caller form nullable).run.run store =
      (.ok (some conversion), after)) :
    ∃ known kind, world.Informed known ∧ (kind = .unbox ∨ kind = .invalidCast) ∧
      (∀ (later : World) (asker : Caller) (value : Value) (before : Store),
        Screened known later asker form conversion kind value before
          ((conversion.apply later asker value).execute before)) ∧
      (kind = .unbox ↔ known.Unboxes form) ∧
      (known.Formed form → kind = .unbox → known.PurelyValues form) ∧
      (known.Formed form → known.Unnested form → (kind = .unbox ↔ known.PurelyValues form)) := by
  obtain ⟨known, informed, found⟩ := Making.made_of_settling made
  have told : kindOf conversion = .unbox ↔ known.Unboxes form := by
    rw [← World.within_refuses found, kindOf]
    split <;> simp_all
  have sound : known.Formed form → kindOf conversion = .unbox → known.PurelyValues form :=
    fun formed unboxes => World.purely_of_unboxes (told.mp unboxes) formed
  refine ⟨known, kindOf conversion, informed, ?_, conversion_screens found, told, sound, ?_⟩
  · rw [kindOf]
    split
    · exact .inl rfl
    · exact .inr rfl
  · intro formed unnested
    exact ⟨sound formed, fun purely => told.mpr (World.unboxes_of_purely found purely unnested)⟩

end Kinds

-- What declared types spread into decides whether they are values and nothing else.
theorem purely_of_spread {known : World} {form : TypeForm} {leaves : List TypeForm}
    (spread : known.Spread [form] leaves) (some : ∃ leaf ∈ leaves, leaf.isNothing = false)
    (each : ∀ leaf ∈ leaves, leaf.isNothing = false → known.isValueType leaf = true) :
    known.PurelyValues form := by
  have listed : ∀ leaf, leaf ∈ leaves ↔ known.Alternative form leaf := by
    simpa using World.mem_spread spread
  obtain ⟨leaf, found, present⟩ := some
  exact ⟨⟨leaf, (listed leaf).mp found, present⟩,
    fun other reached => each other ((listed other).mpr reached)⟩

-- A number, or a fraction that may be absent and is declared under another name.
def measure : TypeForm :=
  .union .subscript [.cls (.builtin .int),
    .newType "Share" (.union .subscript [.cls (.builtin .float), .noneType])]

section Measure

variable (known : World)

theorem measure_formed : known.Formed measure := by
  refine World.keep_union ⟨.cls (.builtin .int), by simp [TypeForm.isPresent, TypeForm.isNoneType]⟩ ?_
  intro member listed
  simp only [List.mem_cons, List.not_mem_nil, or_false] at listed
  rcases listed with rfl | rfl
  · exact World.keep_final rfl
  · refine World.keep_supertype rfl (by simp) (World.keep_union
      ⟨.cls (.builtin .float), by simp [TypeForm.isPresent, TypeForm.isNoneType]⟩ ?_)
    intro member listed
    simp only [List.mem_cons, List.not_mem_nil, or_false] at listed
    rcases listed with rfl | rfl <;> exact World.keep_final rfl

theorem measure_unnested : known.Unnested measure := by
  refine World.keep_union (fun _ => ?_) ?_
  · intro member listed
    simp [TypeForm.isPresent, TypeForm.isNoneType] at listed
    rcases listed with rfl | rfl
    · exact ⟨_, .leaf rfl, rfl⟩
    · exact ⟨.cls (.builtin .float), .supertype rfl rfl (.union rfl (.leaf rfl)), rfl⟩
  · intro member listed
    simp only [List.mem_cons, List.not_mem_nil, or_false] at listed
    rcases listed with rfl | rfl
    · exact World.keep_final rfl
    · refine World.keep_supertype rfl (by simp) (World.keep_union (fun several => ?_) ?_)
      · exact absurd rfl (several (.cls (.builtin .float)))
      · intro member listed
        simp only [List.mem_cons, List.not_mem_nil, or_false] at listed
        rcases listed with rfl | rfl <;> exact World.keep_final rfl

theorem measure_purely : known.PurelyValues measure := by
  have spread : known.Spread [measure] [.cls (.builtin .int), .cls (.builtin .float)] :=
    .union (.leaf rfl (.supertype rfl rfl (.union (.leaf rfl .done))))
  refine purely_of_spread spread ⟨_, List.mem_cons_self, rfl⟩ ?_
  intro leaf listed _
  simp only [List.mem_cons, List.not_mem_nil, or_false] at listed
  rcases listed with rfl | rfl <;> rfl

end Measure

theorem measure_converted : ∃ conversion,
    (Strategy.conversion contraries (contraries.call World.callLimit) measure false).run.run
      .empty = (.ok (some conversion), .empty) :=
  ⟨_, rfl⟩

-- What is no measure is refused to be unboxed.
theorem measure_refuses_to_unbox :
    ∃ conversion, (Strategy.conversion contraries (contraries.call World.callLimit) measure
        false).run.run .empty = (.ok (some conversion), .empty) ∧
      ∃ known : World, contraries.Informed known ∧ known.Formed measure ∧
        known.Unnested measure ∧ known.PurelyValues measure ∧
        ∀ (later : World) (asker : Caller) (value : Value) (before : Store),
          Screened known later asker measure conversion .unbox value before
            ((conversion.apply later asker value).execute before) := by
  obtain ⟨conversion, made⟩ := measure_converted
  obtain ⟨known, kind, informed, _, screens, _, _, exact⟩ := refusal_tells_alternatives made
  obtain rfl : kind = .unbox :=
    (exact (measure_formed known) (measure_unnested known)).mpr (measure_purely known)
  exact ⟨conversion, made, known, informed, measure_formed known, measure_unnested known,
    measure_purely known, screens⟩

-- A number, or a fraction or a complex number declared under another name.
def ratio : TypeForm :=
  .union .subscript [.cls (.builtin .int),
    .newType "Ratio" (.union .subscript [.cls (.builtin .float), .cls (.builtin .complex)])]

-- A number, or None declared under another name.
def countOrNothing : TypeForm :=
  .union .subscript [.cls (.builtin .int), .newType "Nothing" .noneType]

theorem ratio_spreads (known : World) : known.Spread [ratio]
    [.cls (.builtin .int), .cls (.builtin .float), .cls (.builtin .complex)] :=
  .union (.leaf rfl (.supertype rfl rfl (.union (.leaf rfl (.leaf rfl .done)))))

theorem count_spreads (known : World) :
    known.Spread [countOrNothing] [.cls (.builtin .int), .noneType] :=
  .union (.leaf rfl (.supertype rfl rfl (.leaf rfl .done)))

-- A union that lists another one, or None, under another name refuses a cast although there are
-- values to be unboxed and nothing else.
theorem named_unions_refused_as_casts :
    contraries.PurelyValues ratio ∧ failureOf ratio (.text "a") = some .invalidCast ∧
      failureOf ratio .none = some .invalidCast ∧
      contraries.PurelyValues countOrNothing ∧
      failureOf countOrNothing (.text "a") = some .invalidCast := by
  refine ⟨purely_of_spread (ratio_spreads _) ⟨_, List.mem_cons_self, rfl⟩ ?_, by decide +kernel,
    by decide +kernel, purely_of_spread (count_spreads _) ⟨_, List.mem_cons_self, rfl⟩ ?_,
    by decide +kernel⟩
  · intro leaf listed _
    simp only [List.mem_cons, List.not_mem_nil, or_false] at listed
    rcases listed with rfl | rfl | rfl <;> rfl
  · intro leaf listed present
    simp only [List.mem_cons, List.not_mem_nil, or_false] at listed
    rcases listed with rfl | rfl
    · rfl
    · cases present

end Strategy

end MemberThunks
