import MemberThunks.Proofs.Effects
import MemberThunks.Conversion.OfForm

set_option autoImplicit false

/- The alternatives of a declared type are what is left when its unions, its annotated types and
   its supertypes have been taken apart. A conversion to the type asks them one after the other,
   in the order in which they are written, but for the None that a union lists; and there is no
   conversion where one of them admits every value. Whether None is let through unasked is another
   matter, which only the outermost union settles. -/
namespace MemberThunks

namespace TypeForm

-- Whether a member of a union is converted.
def isPresent (member : TypeForm) : Bool := !member.isNoneType

theorem noneType_of_absent {form : TypeForm} (absent : form.isNoneType = true) :
    form = .noneType := by
  unfold isNoneType at absent
  split at absent
  · rfl
  · cases absent

-- The class that a declared type without further parts is, or stands for.
def class? : TypeForm → Option ClassRef
  | none => some .noneType
  | cls target => some target
  | form => form.origin?

end TypeForm

namespace World

-- Whether there is nothing in a declared type to be taken apart.
def isAlternative (known : World) : TypeForm → Bool
  | .union _ _ | .annotated _ _ => false
  | form =>
    form.isErased ||
      match known.supertype? form with
      | .ok none => true
      | _ => false

-- What a declared type leads to by way of the members of unions that count, of annotated types
-- and of supertypes.
inductive Reaches (known : World) (counts : TypeForm → Bool) : TypeForm → TypeForm → Prop where
  | here (form : TypeForm) : Reaches known counts form form
  | member {spelling : Spelling} {members : List TypeForm} {member goal : TypeForm}
      (listed : member ∈ members) (counted : counts member = true)
      (onward : Reaches known counts member goal) :
      Reaches known counts (.union spelling members) goal
  | annotated {base goal : TypeForm} {metadata : List Value}
      (onward : Reaches known counts base goal) :
      Reaches known counts (.annotated base metadata) goal
  | supertype {form supertype goal : TypeForm} (checked : form.isErased = false)
      (named : known.supertype? form = .ok (some supertype))
      (onward : Reaches known counts supertype goal) : Reaches known counts form goal

structure Alternative (known : World) (form leaf : TypeForm) : Prop where
  reached : known.Reaches TypeForm.isPresent form leaf
  final : known.isAlternative leaf = true

-- The alternatives of some declared types in the order in which they are written.
inductive Spread (known : World) : List TypeForm → List TypeForm → Prop where
  | done : Spread known [] []
  | leaf {form : TypeForm} {rest leaves : List TypeForm} (final : known.isAlternative form = true)
      (onward : Spread known rest leaves) : Spread known (form :: rest) (form :: leaves)
  | union {spelling : Spelling} {members rest leaves : List TypeForm}
      (onward : Spread known (members.filter TypeForm.isPresent ++ rest) leaves) :
      Spread known (.union spelling members :: rest) leaves
  | annotated {base : TypeForm} {metadata : List Value} {rest leaves : List TypeForm}
      (onward : Spread known (base :: rest) leaves) :
      Spread known (.annotated base metadata :: rest) leaves
  | supertype {form supertype : TypeForm} {rest leaves : List TypeForm}
      (checked : form.isErased = false) (named : known.supertype? form = .ok (some supertype))
      (onward : Spread known (supertype :: rest) leaves) : Spread known (form :: rest) leaves

-- Whether the outermost union that a declared type is, or stands for, lists None.
inductive ListsNone (known : World) : TypeForm → Prop where
  | union {spelling : Spelling} {members : List TypeForm}
      (listed : members.any TypeForm.isNoneType = true) : ListsNone known (.union spelling members)
  | annotated {base : TypeForm} {metadata : List Value} (onward : ListsNone known base) :
      ListsNone known (.annotated base metadata)
  | supertype {form supertype : TypeForm} (checked : form.isErased = false)
      (named : known.supertype? form = .ok (some supertype))
      (onward : ListsNone known supertype) : ListsNone known form

-- The check of a value against an alternative, as the declared type is converted in one world
-- and the value is checked in another.
def checkFor (known later : World) (caller : Caller) (value : Value) (leaf : TypeForm) : Run Bool :=
  match leaf.class? with
  | some target =>
    if known.isValueType leaf then pure (value.typeOf == target)
    else later.isInstance caller value target
  | none => pure false

-- A check that asks the alternatives of declared types one after the other, in order.
def AsksInOrder (known : World) (forms : List TypeForm)
    (check : World → Caller → Value → Run Bool) : Prop :=
  ∃ leaves, known.Spread forms leaves ∧ (∀ leaf ∈ leaves, leaf.isErased = false) ∧
    ∀ later caller value,
      check later caller value = Run.anyOf (leaves.map (known.checkFor later caller value))

section Alternatives

variable {known : World} {form leaf base supertype : TypeForm} {members : List TypeForm}
  {spelling : Spelling} {metadata : List Value}

theorem not_final_of_supertype (checked : form.isErased = false)
    (named : known.supertype? form = .ok (some supertype)) : known.isAlternative form = false := by
  unfold isAlternative
  split
  · rfl
  · rfl
  · rw [checked, named]
    rfl

theorem alternative_of_erased (erased : form.isErased = true) :
    known.isAlternative form = true := by
  unfold isAlternative
  split
  · cases erased
  · cases erased
  · rw [erased]
    rfl

theorem alternative_itself (final : known.isAlternative form = true) :
    known.Alternative form leaf ↔ leaf = form := by
  constructor
  · rintro ⟨reached, _⟩
    cases reached with
    | here => rfl
    | member => cases final
    | annotated => cases final
    | supertype checked named =>
        rw [not_final_of_supertype checked named] at final
        cases final
  · rintro rfl
    exact ⟨.here leaf, final⟩

theorem alternative_union : known.Alternative (.union spelling members) leaf ↔
    ∃ member ∈ members.filter TypeForm.isPresent, known.Alternative member leaf := by
  constructor
  · rintro ⟨reached, final⟩
    cases reached with
    | here => cases final
    | member listed counted onward =>
        exact ⟨_, List.mem_filter.mpr ⟨listed, counted⟩, onward, final⟩
    | supertype _ named => cases named
  · rintro ⟨member, listed, reached, final⟩
    obtain ⟨within, counted⟩ := List.mem_filter.mp listed
    exact ⟨.member within counted reached, final⟩

theorem alternative_annotated :
    known.Alternative (.annotated base metadata) leaf ↔ known.Alternative base leaf := by
  constructor
  · rintro ⟨reached, final⟩
    cases reached with
    | here => cases final
    | annotated onward => exact ⟨onward, final⟩
    | supertype _ named => cases named
  · rintro ⟨reached, final⟩
    exact ⟨.annotated reached, final⟩

theorem alternative_supertype (checked : form.isErased = false)
    (named : known.supertype? form = .ok (some supertype)) :
    known.Alternative form leaf ↔ known.Alternative supertype leaf := by
  constructor
  · rintro ⟨reached, final⟩
    cases reached with
    | here =>
        rw [not_final_of_supertype checked named] at final
        cases final
    | member => cases named
    | annotated => cases named
    | supertype _ other onward =>
        rw [named] at other
        cases other
        exact ⟨onward, final⟩
  · rintro ⟨reached, final⟩
    exact ⟨.supertype checked named reached, final⟩

theorem lists_none_union : known.ListsNone (.union spelling members) ↔
    members.any TypeForm.isNoneType = true := by
  constructor
  · intro lists
    cases lists with
    | union listed => exact listed
    | supertype _ named => cases named
  · exact .union

theorem lists_none_annotated :
    known.ListsNone (.annotated base metadata) ↔ known.ListsNone base := by
  constructor
  · intro lists
    cases lists with
    | annotated onward => exact onward
    | supertype _ named => cases named
  · exact .annotated

theorem lists_none_supertype (checked : form.isErased = false)
    (named : known.supertype? form = .ok (some supertype)) :
    known.ListsNone form ↔ known.ListsNone supertype := by
  constructor
  · intro lists
    cases lists with
    | union => cases named
    | annotated => cases named
    | supertype _ other onward =>
        rw [named] at other
        cases other
        exact onward
  · exact .supertype checked named

theorem lists_none_not_alternative (final : known.isAlternative form = true) :
    ¬ known.ListsNone form := by
  intro lists
  cases lists with
  | union => cases final
  | annotated => cases final
  | supertype checked named =>
      rw [not_final_of_supertype checked named] at final
      cases final

end Alternatives

section ListedNone

variable {known : World} {form leaf goal : TypeForm}

theorem reaches_more {counts others : TypeForm → Bool}
    (wider : ∀ member, counts member = true → others member = true)
    (reached : known.Reaches counts form goal) : known.Reaches others form goal := by
  induction reached with
  | here form => exact .here form
  | member listed counted _ ih => exact .member listed (wider _ counted) ih
  | annotated _ ih => exact .annotated ih
  | supertype checked named _ ih => exact .supertype checked named ih

-- What is reached by way of all members is reached without the None that unions list, or is in
-- a union that lists it.
theorem reaches_without_listed (reached : known.Reaches (fun _ => true) form goal) :
    known.Reaches TypeForm.isPresent form goal ∨
      ∃ spelling members, known.Reaches (fun _ => true) form (.union spelling members) ∧
        members.any TypeForm.isNoneType = true := by
  induction reached with
  | here form => exact .inl (.here form)
  | @member spelling members member goal listed counted _ ih =>
      cases absent : member.isNoneType with
      | true => exact .inr ⟨spelling, members, .here _, List.any_eq_true.mpr ⟨member, listed, absent⟩⟩
      | false =>
          rcases ih with present | ⟨inner, within, path, lists⟩
          · exact .inl (.member listed (by simp [TypeForm.isPresent, absent]) present)
          · exact .inr ⟨inner, within, .member listed rfl path, lists⟩
  | annotated _ ih =>
      rcases ih with present | ⟨inner, within, path, lists⟩
      · exact .inl (.annotated present)
      · exact .inr ⟨inner, within, .annotated path, lists⟩
  | supertype checked named _ ih =>
      rcases ih with present | ⟨inner, within, path, lists⟩
      · exact .inl (.supertype checked named present)
      · exact .inr ⟨inner, within, .supertype checked named path, lists⟩

theorem none_of_lists_none (lists : known.ListsNone form) :
    known.Reaches (fun _ => true) form .noneType := by
  induction lists with
  | union listed =>
      obtain ⟨member, within, absent⟩ := List.any_eq_true.mp listed
      exact .member within rfl (TypeForm.noneType_of_absent absent ▸ .here _)
  | annotated _ ih => exact .annotated ih
  | supertype checked named _ ih => exact .supertype checked named ih

theorem none_is_alternative : known.isAlternative .noneType = true := by
  have bare : known.classSupertype? .noneType = none := by rfl
  simp [isAlternative, TypeForm.noneType, supertype?, bare]

end ListedNone

section Spread

variable {known : World} {forms others leaves rest : List TypeForm}

theorem spread_append (first : known.Spread forms leaves) (second : known.Spread others rest) :
    known.Spread (forms ++ others) (leaves ++ rest) := by
  induction first with
  | done => exact second
  | leaf final _ ih => exact .leaf final ih
  | union _ ih =>
      rw [List.append_assoc] at ih
      exact .union ih
  | annotated _ ih => exact .annotated ih
  | supertype checked named _ ih => exact .supertype checked named ih

-- What declared types spread into are their alternatives.
theorem mem_spread (spread : known.Spread forms leaves) (leaf : TypeForm) :
    leaf ∈ leaves ↔ ∃ form ∈ forms, known.Alternative form leaf := by
  induction spread with
  | done => simp
  | leaf final _ ih => simp [ih, alternative_itself final]
  | union _ ih =>
      rw [ih]
      simp only [List.mem_append, List.mem_cons, or_and_right, exists_or, exists_eq_left,
        alternative_union]
  | annotated _ ih => simp [ih, alternative_annotated]
  | supertype checked named _ ih => simp [ih, alternative_supertype checked named]

end Spread

section Convert

variable {known : World} {form : TypeForm} {nullable : Bool} {conversion : Conversion}

theorem accepts_with_nullable (later : World) (caller : Caller) (value : Value) (nullable : Bool)
    (conversion : Conversion) : (conversion.withNullable nullable).accepts later caller value =
      conversion.accepts later caller value := by
  cases conversion <;> rfl

theorem nullable_with_nullable (nullable : Bool) (conversion : Conversion) :
    (conversion.withNullable nullable).nullable = nullable := by
  cases conversion <;> rfl

theorem class_of_origin (known : World) {origin : ClassRef} (named : form.origin? = some origin) :
    form.class? = some origin ∧ known.isValueType form = false := by
  unfold TypeForm.origin? at named
  split at named
  · cases named
  · cases named
    exact ⟨by unfold TypeForm.class? TypeForm.origin?; simp_all, rfl⟩
  · cases named
    exact ⟨rfl, rfl⟩
  · cases named
    exact ⟨rfl, rfl⟩
  · cases named

theorem leaf_converts (found : known.leafConversion form nullable = .ok (some conversion)) :
    conversion.nullable = nullable ∧ ∀ later caller value,
      conversion.accepts later caller value = known.checkFor later caller value form := by
  unfold leafConversion at found
  split at found
  · cases found
  · rename_i origin _ named
    cases found
    obtain ⟨same, cast⟩ := class_of_origin known named
    refine ⟨rfl, ?_⟩
    intro later caller value
    simp [checkFor, same, cast, Conversion.accepts, World.isInstanceOf]
  · rename_i target named
    split at found
    · rename_i exact
      cases found
      refine ⟨rfl, ?_⟩
      intro later caller value
      simp [checkFor, TypeForm.class?, isValueType, exact, Conversion.accepts]
    · rename_i inexact
      cases found
      refine ⟨rfl, ?_⟩
      intro later caller value
      simp [checkFor, TypeForm.class?, isValueType, inexact, Conversion.accepts, World.isInstanceOf]
  · split at found <;> cases found

theorem options_ask {convert : TypeForm → Except UnsupportedType (Option Conversion)}
    {members : List TypeForm} {options : List Conversion}
    (found : optionsOf convert members = .ok (some options))
    (each : ∀ member conversion, convert member = .ok (some conversion) →
      known.AsksInOrder [member] fun later caller value =>
        conversion.accepts later caller value) :
    known.AsksInOrder members fun later caller value =>
      Conversion.acceptsAny later caller value options := by
  induction members generalizing options with
  | nil =>
      cases found
      exact ⟨[], .done, by simp, fun _ _ _ => rfl⟩
  | cons member rest ih =>
      obtain ⟨first, converted, found⟩ := ok_of_bind found
      cases first with
      | none => cases found
      | some option =>
          obtain ⟨later, others, found⟩ := ok_of_bind found
          cases later with
          | none => cases found
          | some options =>
              cases found
              obtain ⟨leaves, spread, checked, asks⟩ := each member option converted
              obtain ⟨further, onward, unerased, asksOn⟩ := ih others
              refine ⟨leaves ++ further, spread_append spread onward, ?_, ?_⟩
              · intro leaf listed
                exact (List.mem_append.mp listed).elim (checked leaf) (unerased leaf)
              · intro later caller value
                simp only [Conversion.acceptsAny, asks, asksOn, List.map_append, Run.any_of_append]

-- A union without a conversion has a member without one, if its members do not raise.
theorem erased_option {convert : TypeForm → Except UnsupportedType (Option Conversion)}
    {members : List TypeForm} (found : optionsOf convert members = .ok none) :
    ∃ member ∈ members, convert member = .ok none := by
  induction members with
  | nil => cases found
  | cons member rest ih =>
      obtain ⟨first, converted, found⟩ := ok_of_bind found
      cases first with
      | none => exact ⟨member, List.mem_cons_self, converted⟩
      | some option =>
          obtain ⟨later, others, found⟩ := ok_of_bind found
          cases later with
          | none =>
              obtain ⟨erased, listed, none⟩ := ih others
              exact ⟨erased, List.mem_cons_of_mem _ listed, none⟩
          | some options => cases found

theorem accepts_any_of (later : World) (caller : Caller) (value : Value)
    (options : List Conversion) : Conversion.acceptsAny later caller value options =
      Run.anyOf (options.map (Conversion.accepts later caller value)) := by
  induction options with
  | nil => rfl
  | cons option rest ih => rw [Conversion.acceptsAny, ih, List.map_cons, Run.anyOf]

-- The conversion of a union asks those of its members.
theorem union_accepts {options : List Conversion}
    (made : unionConversion nullable (some options) = some conversion) (later : World)
    (caller : Caller) (value : Value) : conversion.accepts later caller value =
      Conversion.acceptsAny later caller value options := by
  unfold unionConversion at made
  split at made
  · cases made
  · rename_i only same
    cases same
    cases made
    rw [accepts_with_nullable, accepts_any_of]
    exact (Run.any_of_single _).symm
  · rename_i several _ same
    cases same
    cases made
    rfl

theorem union_converts (nullable : Bool) (options : List Conversion) :
    ∃ conversion, unionConversion nullable (some options) = some conversion ∧
      conversion.nullable = nullable := by
  unfold unionConversion
  split
  · rename_i none
    cases none
  · rename_i only _
    exact ⟨_, rfl, nullable_with_nullable nullable only⟩
  · exact ⟨_, rfl, rfl⟩

theorem leaf_not_erased : known.leafConversion form nullable ≠ .ok none := by
  intro found
  unfold leafConversion at found
  split at found
  · cases found
  · cases found
  · split at found <;> cases found
  · split at found <;> cases found

theorem alternative_of_leaf (plain : form.isErased = false) (bare : known.supertype? form = .ok none)
    (whole : ∀ spelling members, form ≠ .union spelling members)
    (bald : ∀ base metadata, form ≠ .annotated base metadata) :
    known.isAlternative form = true := by
  unfold isAlternative
  split
  · exact absurd rfl (whole _ _)
  · exact absurd rfl (bald _ _)
  · rw [plain, bare]
    rfl

theorem within_asks {depth : Nat}
    (found : known.conversionWithin depth form nullable = .ok (some conversion)) :
    known.AsksInOrder [form] fun later caller value => conversion.accepts later caller value := by
  induction depth generalizing form nullable conversion with
  | zero => cases found
  | succ depth ih =>
      unfold conversionWithin at found
      split at found
      · cases found
        refine ⟨[.none], .leaf rfl .done, by simp [TypeForm.isErased], ?_⟩
        intro later caller value
        exact (Run.any_of_single _).symm
      · rename_i spelling members
        obtain ⟨options, converted, found⟩ := ok_of_bind found
        cases options with
        | none => cases found
        | some options =>
            obtain ⟨leaves, spread, checked, asks⟩ :=
              options_ask converted fun member conversion made => ih made
            refine ⟨leaves, .union (by rwa [List.append_nil]), checked, ?_⟩
            intro later caller value
            exact (union_accepts (Except.ok.inj found) later caller value).trans
              (asks later caller value)
      · obtain ⟨leaves, spread, checked, asks⟩ := ih found
        exact ⟨leaves, .annotated spread, checked, asks⟩
      · rename_i whole bald
        split at found
        · cases found
        · rename_i plain
          rw [Bool.not_eq_true] at plain
          split at found
          · rename_i supertype named
            obtain ⟨leaves, spread, checked, asks⟩ := ih found
            exact ⟨leaves, .supertype plain named spread, checked, asks⟩
          · rename_i bare
            refine ⟨[form], .leaf (alternative_of_leaf plain bare whole bald) .done,
              by simpa using plain, ?_⟩
            intro later caller value
            exact ((leaf_converts found).2 later caller value).trans (Run.any_of_single _).symm
          · cases found

-- Where there is no conversion, some alternative admits every value.
theorem within_erased {depth : Nat}
    (found : known.conversionWithin depth form nullable = .ok none) :
    ∃ leaf, known.Alternative form leaf ∧ leaf.isErased = true := by
  induction depth generalizing form nullable with
  | zero => cases found
  | succ depth ih =>
      unfold conversionWithin at found
      split at found
      · cases found
      · rename_i spelling members
        obtain ⟨options, converted, found⟩ := ok_of_bind found
        cases options with
        | some options =>
            obtain ⟨conversion, made, _⟩ :=
              union_converts (nullable || members.any TypeForm.isNoneType) options
            have same := Except.ok.inj found
            rw [made] at same
            cases same
        | none =>
            obtain ⟨member, listed, none⟩ := erased_option converted
            obtain ⟨leaf, reached, erased⟩ := ih none
            exact ⟨leaf, alternative_union.mpr ⟨member, listed, reached⟩, erased⟩
      · obtain ⟨leaf, reached, erased⟩ := ih found
        exact ⟨leaf, alternative_annotated.mpr reached, erased⟩
      · rename_i whole bald
        split at found
        · rename_i erased
          exact ⟨form, (alternative_itself (alternative_of_erased erased)).mpr rfl, erased⟩
        · rename_i plain
          rw [Bool.not_eq_true] at plain
          split at found
          · rename_i supertype named
            obtain ⟨leaf, reached, erased⟩ := ih found
            exact ⟨leaf, (alternative_supertype plain named).mpr reached, erased⟩
          · exact absurd found leaf_not_erased
          · cases found

-- The flag of a conversion follows the outermost union alone.
theorem within_nullable {depth : Nat}
    (found : known.conversionWithin depth form nullable = .ok (some conversion)) :
    conversion.nullable = true ↔ nullable = true ∨ known.ListsNone form := by
  induction depth generalizing form nullable conversion with
  | zero => cases found
  | succ depth ih =>
      unfold conversionWithin at found
      split at found
      · cases found
        have final : known.isAlternative .none = true := rfl
        simp [Conversion.nullable, lists_none_not_alternative final]
      · rename_i spelling members
        obtain ⟨options, converted, found⟩ := ok_of_bind found
        cases options with
        | none => cases found
        | some options =>
            obtain ⟨made, same, flag⟩ :=
              union_converts (nullable || members.any TypeForm.isNoneType) options
            have given := Except.ok.inj found
            rw [same] at given
            cases given
            rw [flag, Bool.or_eq_true, lists_none_union]
      · rw [ih found, lists_none_annotated]
      · rename_i whole bald
        split at found
        · cases found
        · rename_i plain
          rw [Bool.not_eq_true] at plain
          split at found
          · rename_i supertype named
            rw [ih found, lists_none_supertype plain named]
          · rename_i bare
            rw [(leaf_converts found).1]
            simp [lists_none_not_alternative (alternative_of_leaf plain bare whole bald)]
          · cases found

end Convert

end World

end MemberThunks
