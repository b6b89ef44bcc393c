import MemberThunks.Proofs.Admission
import MemberThunks.Proofs.Counterparts

set_option autoImplicit false

/- Conversions to types that count as one. Such types are converted both or neither, to checks of
   one kind, which let the same values through and refuse the others alike. Where several
   alternatives are asked their order may be another one, so that a value must not notice which of
   them it is asked for first. -/
namespace MemberThunks

namespace Run

variable {α β : Type}

-- Two ends of runs that only the words of a failure tell apart.
inductive SameEnd : Except Raised α × Store → Except Raised α × Store → Prop where
  | gives (result : α) (store : Store) : SameEnd (.ok result, store) (.ok result, store)
  | fails {one other : Raised} (kind : one.failure.kind = other.failure.kind) (store : Store) :
      SameEnd (.error one, store) (.error other, store)

theorem same_end_refl (ended : Except Raised α × Store) : SameEnd ended ended := by
  obtain ⟨outcome, store⟩ := ended
  cases outcome with
  | ok result => exact .gives result store
  | error raised => exact .fails rfl store

theorem same_end_bind {first second : Run α} {next other : α → Run β} {store : Store}
    (starts : SameEnd (first.execute store) (second.execute store))
    (goesOn : ∀ result after, first.execute store = (.ok result, after) →
      SameEnd ((next result).execute after) ((other result).execute after)) :
    SameEnd (Run.execute (first >>= next) store) (Run.execute (second >>= other) store) := by
  cases ran : first.execute store with
  | mk outcome after =>
      cases followed : second.execute store with
      | mk result final =>
          rw [ran, followed] at starts
          cases starts with
          | gives result =>
              rw [execute_bind_ok ran, execute_bind_ok followed]
              exact goesOn result after ran
          | fails kind =>
              rw [execute_bind_error ran, execute_bind_error followed]
              exact .fails kind after

end Run

namespace Conversion

-- Whether the refusal of a value is a refusal to unbox it.
def refusesUnboxing : Conversion → Bool
  | cast _ _ => false
  | unbox _ _ => true
  | union options _ => options.all isUnboxing

-- Two conversions of one kind.
structure Twin (first second : Conversion) : Prop where
  unboxing : second.isUnboxing = first.isUnboxing
  refusing : second.refusesUnboxing = first.refusesUnboxing

theorem kind_with_nullable (conversion : Conversion) (nullable : Bool) :
    (conversion.withNullable nullable).isUnboxing = conversion.isUnboxing ∧
      (conversion.withNullable nullable).refusesUnboxing = conversion.refusesUnboxing := by
  cases conversion <;> exact ⟨rfl, rfl⟩

theorem twin_with_nullable {first second : Conversion} (twin : first.Twin second)
    (flag other : Bool) : (first.withNullable flag).Twin (second.withNullable other) := by
  obtain ⟨unboxing, refusing⟩ := kind_with_nullable first flag
  obtain ⟨alsoUnboxing, alsoRefusing⟩ := kind_with_nullable second other
  exact ⟨by rw [alsoUnboxing, unboxing, twin.unboxing], by rw [alsoRefusing, refusing, twin.refusing]⟩

theorem refusal_by_kind (world : World) (conversion : Conversion) (value : Value) :
    (conversion.refusal world value).failure.kind =
      if conversion.refusesUnboxing then .unbox else .invalidCast := by
  cases conversion with
  | cast target nullable => rfl
  | unbox target nullable => rfl
  | union options nullable =>
      unfold refusal refusesUnboxing
      dsimp only
      split <;> rfl

end Conversion

namespace World

section Options

variable {convert other : TypeForm → Except UnsupportedType (Option Conversion)}
  {members : List TypeForm} {options : List Conversion}

-- The options of a union are the conversions of its members.
theorem options_converted (found : optionsOf convert members = .ok (some options)) :
    members.map convert = options.map fun option => .ok (some option) := by
  induction members generalizing options with
  | nil =>
      cases found
      rfl
  | cons member rest ih =>
      obtain ⟨first, converted, found⟩ := ok_of_bind found
      cases first with
      | none => cases found
      | some option =>
          obtain ⟨later, others, found⟩ := ok_of_bind found
          cases later with
          | none => cases found
          | some options =>
              cases found
              rw [List.map_cons, List.map_cons, converted, ih others]

theorem options_of_each (each : ∀ member ∈ members, ∃ option, convert member = .ok (some option)) :
    ∃ options, optionsOf convert members = .ok (some options) := by
  induction members with
  | nil => exact ⟨[], rfl⟩
  | cons member rest ih =>
      obtain ⟨option, converted⟩ := each member List.mem_cons_self
      obtain ⟨options, others⟩ := ih fun later listed => each later (List.mem_cons_of_mem _ listed)
      refine ⟨option :: options, ?_⟩
      simp only [optionsOf, converted, others, bind, Except.bind]
      rfl

theorem option_of_member (found : optionsOf convert members = .ok (some options))
    {member : TypeForm} (listed : member ∈ members) :
    ∃ option ∈ options, convert member = .ok (some option) := by
  have mapped := List.mem_map_of_mem (f := convert) listed
  rw [options_converted found] at mapped
  obtain ⟨option, held, same⟩ := List.mem_map.mp mapped
  exact ⟨option, held, same.symm⟩

theorem member_of_option (found : optionsOf convert members = .ok (some options))
    {option : Conversion} (listed : option ∈ options) :
    ∃ member ∈ members, convert member = .ok (some option) := by
  have mapped := List.mem_map_of_mem (f := fun option => (.ok (some option) :
    Except UnsupportedType (Option Conversion))) listed
  rw [← options_converted found] at mapped
  exact List.mem_map.mp mapped

theorem single_option {only : Conversion} (found : optionsOf convert members = .ok (some [only])) :
    ∃ member, members = [member] ∧ convert member = .ok (some only) :=
  List.map_eq_singleton_iff.mp (options_converted found)

theorem single_member {member : TypeForm}
    (found : optionsOf convert [member] = .ok (some options)) :
    ∃ only, options = [only] ∧ convert member = .ok (some only) := by
  obtain ⟨only, rfl, same⟩ := List.map_eq_singleton_iff.mp (options_converted found).symm
  exact ⟨only, rfl, same.symm⟩

theorem union_of_several (nullable : Bool) (several : ∀ only, options ≠ [only]) :
    unionConversion nullable (some options) = some (.union options nullable) := by
  unfold unionConversion
  split
  · rename_i none
    cases none
  · rename_i only same
    cases same
    exact absurd rfl (several only)
  · rename_i same
    cases same
    rfl

end Options

section Twins

variable {world : World} {left right form supertype : TypeForm} {depth : Nat} {nullable : Bool}
  {conversion : Conversion}

theorem within_supertype (checked : form.isErased = false)
    (named : world.supertype? form = .ok (some supertype)) :
    world.conversionWithin (depth + 1) form nullable =
      world.conversionWithin depth supertype nullable := by
  conv =>
    lhs
    unfold conversionWithin
  split
  · cases named
  · cases named
  · cases named
  · rw [if_neg (by simp [checked]), named]

theorem within_open (erased : form.isErased = true) :
    world.conversionWithin (depth + 1) form nullable = .ok none := by
  unfold conversionWithin
  split
  · cases erased
  · cases erased
  · cases erased
  · rw [if_pos erased]

theorem within_leaf (checked : form.isErased = false) (bare : world.supertype? form = .ok none)
    (present : form ≠ .none) (whole : ∀ spelling members, form ≠ .union spelling members)
    (bald : ∀ base metadata, form ≠ .annotated base metadata) :
    world.conversionWithin (depth + 1) form nullable = world.leafConversion form nullable := by
  unfold conversionWithin
  split
  · exact absurd rfl present
  · exact absurd rfl (whole _ _)
  · exact absurd rfl (bald _ _)
  · rw [if_neg (by simp [checked]), bare]

theorem within_union {spelling : Spelling} {members : List TypeForm}
    {options : Option (List Conversion)}
    (converted : optionsOf (fun member => world.conversionWithin depth member false)
      (members.filter TypeForm.isPresent) = .ok options) :
    world.conversionWithin (depth + 1) (.union spelling members) nullable =
      .ok (unionConversion (nullable || members.any TypeForm.isNoneType) options) := by
  change (optionsOf (fun member => world.conversionWithin depth member false)
    (members.filter TypeForm.isPresent) >>= _) = _
  rw [converted]
  rfl

theorem leaf_of_origin {origin : ClassRef} (named : form.origin? = some origin) :
    world.leafConversion form nullable = .ok (some (.cast (.cls origin) nullable)) := by
  unfold leafConversion
  split
  · cases named
  · rename_i found
    rw [named] at found
    cases found
    rfl
  · cases named
  · rename_i unnamed
    rw [named] at unnamed
    cases unnamed

-- The conversions to counterparts without parts.
theorem leaf_twin (found : world.leafConversion left nullable = .ok (some conversion))
    (same : world.Counterparts left right) (other : Bool) :
    ∃ twin, world.leafConversion right other = .ok (some twin) ∧ conversion.Twin twin := by
  unfold leafConversion at found
  split at found
  · cases found
  · rename_i origin _ named
    cases found
    exact ⟨_, leaf_of_origin ((origin_counterpart same).trans named), rfl, rfl⟩
  · rename_i target _
    obtain rfl := class_itself_counterpart same
    unfold leafConversion
    dsimp only [TypeForm.origin?]
    split at found
    · rename_i exact
      cases found
      exact ⟨.unbox (.cls target) other, if_pos exact, rfl, rfl⟩
    · rename_i inexact
      cases found
      exact ⟨.cast (.cls target) other, if_neg inexact, rfl, rfl⟩
  · split at found <;> cases found

-- The union of several options is of the kind of the union of their twins.
theorem union_twin {options others : List Conversion} {nullable : Bool} (flag : Bool)
    (several : ∀ only, options ≠ [only]) (alsoSeveral : ∀ only, others ≠ [only])
    (each : ∀ option ∈ options, ∃ twin ∈ others, option.Twin twin)
    (back : ∀ twin ∈ others, ∃ option ∈ options, option.Twin twin)
    (made : unionConversion nullable (some options) = some conversion) :
    ∃ twin, unionConversion flag (some others) = some twin ∧ conversion.Twin twin := by
  rw [union_of_several nullable several] at made
  cases made
  refine ⟨_, union_of_several flag alsoSeveral, rfl, ?_⟩
  apply Bool.eq_iff_iff.mpr
  simp only [Conversion.refusesUnboxing, List.all_eq_true]
  constructor
  · intro unboxes option listed
    obtain ⟨twin, found, alike⟩ := each option listed
    rw [← alike.unboxing]
    exact unboxes twin found
  · intro unboxes twin listed
    obtain ⟨option, found, alike⟩ := back twin listed
    rw [alike.unboxing]
    exact unboxes option found

section Partners

variable {members others : List TypeForm} {options alike : List Conversion}
  {convert : TypeForm → Except UnsupportedType (Option Conversion)}

-- The present members of two unions that are counterparts are converted to twins: each partner of
-- a member to a twin of the option of the member.
structure Partners (convert : TypeForm → Except UnsupportedType (Option Conversion))
    (options : List Conversion) (others : List TypeForm) : Prop where
  ofPartner : ∀ partner ∈ others.filter TypeForm.isPresent, ∃ option ∈ options, ∃ twin,
    convert partner = .ok (some twin) ∧ option.Twin twin
  ofOption : ∀ option ∈ options, ∃ partner ∈ others.filter TypeForm.isPresent, ∃ twin,
    convert partner = .ok (some twin) ∧ option.Twin twin

theorem partners_of_members
    (each : ∀ member ∈ members, ∃ partner ∈ others, world.Counterparts member partner)
    (back : ∀ partner ∈ others, ∃ member ∈ members, world.Counterparts partner member)
    (twins : ∀ member ∈ members, ∀ partner ∈ others, world.Counterparts member partner →
      ∀ option, convert member = .ok (some option) →
        ∃ twin, convert partner = .ok (some twin) ∧ option.Twin twin)
    (converted : optionsOf convert (members.filter TypeForm.isPresent) = .ok (some options)) :
    Partners convert options others := by
  constructor
  · intro partner listed
    obtain ⟨found, counted⟩ := List.mem_filter.mp listed
    obtain ⟨member, there, same⟩ := back partner found
    obtain ⟨option, held, made⟩ := option_of_member converted
      (List.mem_filter.mpr ⟨there, present_counterpart same counted⟩)
    obtain ⟨twin, alsoMade, kind⟩ :=
      twins member there partner found (counterparts_symm same) option made
    exact ⟨option, held, twin, alsoMade, kind⟩
  · intro option listed
    obtain ⟨member, kept, made⟩ := member_of_option converted listed
    obtain ⟨there, counted⟩ := List.mem_filter.mp kept
    obtain ⟨partner, found, same⟩ := each member there
    obtain ⟨twin, alsoMade, kind⟩ := twins member there partner found same option made
    exact ⟨partner, List.mem_filter.mpr ⟨found, present_counterpart same counted⟩, twin, alsoMade,
      kind⟩

theorem twins_of_partners (partners : Partners convert options others)
    (converted : optionsOf convert (others.filter TypeForm.isPresent) = .ok (some alike)) :
    (∀ option ∈ options, ∃ twin ∈ alike, option.Twin twin) ∧
      ∀ twin ∈ alike, ∃ option ∈ options, option.Twin twin := by
  constructor
  · intro option listed
    obtain ⟨partner, kept, twin, same, kind⟩ := partners.ofOption option listed
    obtain ⟨held, found, made⟩ := option_of_member converted kept
    rw [same] at made
    cases made
    exact ⟨_, found, kind⟩
  · intro twin listed
    obtain ⟨partner, kept, made⟩ := member_of_option converted listed
    obtain ⟨option, held, other, same, kind⟩ := partners.ofPartner partner kept
    rw [made] at same
    cases same
    exact ⟨option, held, kind⟩

end Partners

-- The members of two unions that are counterparts are converted to options of one kind each.
theorem options_twin {spelling other : Spelling} {members others : List TypeForm}
    {options : List Conversion} {convert : TypeForm → Except UnsupportedType (Option Conversion)}
    {nullable : Bool} {conversion : Conversion} (flag : Bool)
    (tidy : world.Tidy (.union spelling members)) (alsoTidy : world.Tidy (.union other others))
    (each : ∀ member ∈ members, ∃ partner ∈ others, world.Counterparts member partner)
    (back : ∀ partner ∈ others, ∃ member ∈ members, world.Counterparts partner member)
    (twins : ∀ member ∈ members, ∀ partner ∈ others, world.Counterparts member partner →
      ∀ option, convert member = .ok (some option) →
        ∃ twin, convert partner = .ok (some twin) ∧ option.Twin twin)
    (converted : optionsOf convert (members.filter TypeForm.isPresent) = .ok (some options))
    (made : unionConversion nullable (some options) = some conversion) :
    ∃ alike twin, optionsOf convert (others.filter TypeForm.isPresent) = .ok (some alike) ∧
      unionConversion flag (some alike) = some twin ∧ conversion.Twin twin := by
  have partners := partners_of_members each back twins converted
  obtain ⟨alike, alsoConverted⟩ := options_of_each fun partner listed => by
    obtain ⟨_, _, twin, same, _⟩ := partners.ofPartner partner listed
    exact ⟨twin, same⟩
  obtain ⟨toTwin, ofTwin⟩ := twins_of_partners partners alsoConverted
  refine ⟨alike, ?_⟩
  -- a union of one option is that option, and then its counterpart has one option too
  by_cases single : ∃ only, options = [only]
  · obtain ⟨only, rfl⟩ := single
    obtain ⟨member, alone, _⟩ := single_option converted
    obtain ⟨partner, paired, _⟩ := single_counterpart alsoTidy each back alone
    rw [paired] at alsoConverted
    obtain ⟨twin, rfl, _⟩ := single_member alsoConverted
    obtain ⟨option, held, kind⟩ := ofTwin twin List.mem_cons_self
    cases List.mem_singleton.mp held
    cases made
    exact ⟨twin.withNullable flag, by rw [paired]; exact alsoConverted, rfl,
      Conversion.twin_with_nullable kind nullable flag⟩
  · have several : ∀ only, options ≠ [only] := fun only same => single ⟨only, same⟩
    have alsoSeveral : ∀ only, alike ≠ [only] := by
      rintro only rfl
      obtain ⟨partner, alone, _⟩ := single_option alsoConverted
      obtain ⟨member, paired, _⟩ := single_counterpart tidy back each alone
      rw [paired] at converted
      obtain ⟨option, same, _⟩ := single_member converted
      exact several option same
    obtain ⟨twin, joined, kind⟩ := union_twin flag several alsoSeveral toTwin ofTwin made
    exact ⟨twin, alsoConverted, joined, kind⟩

-- A union whose members have twins for partners has a twin in the union of the partners.
theorem partners_convert {spelling other : Spelling} {members others : List TypeForm} (flag : Bool)
    (found : world.conversionWithin (depth + 1) (.union spelling members) nullable =
      .ok (some conversion))
    (tidy : world.Tidy (.union spelling members)) (alsoTidy : world.Tidy (.union other others))
    (each : ∀ member ∈ members, ∃ partner ∈ others, world.Counterparts member partner)
    (back : ∀ partner ∈ others, ∃ member ∈ members, world.Counterparts partner member)
    (twins : ∀ member ∈ members, ∀ partner ∈ others, world.Counterparts member partner →
      ∀ option, world.conversionWithin depth member false = .ok (some option) →
        ∃ twin, world.conversionWithin depth partner false = .ok (some twin) ∧
          option.Twin twin) :
    ∃ twin, world.conversionWithin (depth + 1) (.union other others) flag = .ok (some twin) ∧
      conversion.Twin twin := by
  obtain ⟨options, converted, found⟩ := ok_of_bind found
  cases options with
  | none => cases found
  | some options =>
      obtain ⟨alike, twin, alsoConverted, joined, kind⟩ :=
        options_twin (flag || others.any TypeForm.isNoneType) tidy alsoTidy each back twins
          converted (Except.ok.inj found)
      exact ⟨twin, (within_union alsoConverted).trans (congrArg _ joined), kind⟩

-- What has a conversion has counterparts with conversions of the same kind.
theorem counterpart_converts {other : Bool}
    (found : world.conversionWithin depth left nullable = .ok (some conversion))
    (same : world.Counterparts left right) (tidy : world.Tidy left) (alsoTidy : world.Tidy right) :
    ∃ twin, world.conversionWithin depth right other = .ok (some twin) ∧
      conversion.Twin twin := by
  induction depth generalizing left right nullable conversion other with
  | zero => cases found
  | succ depth ih =>
      unfold conversionWithin at found
      split at found
      · cases found
        obtain rfl := none_counterpart same
        exact ⟨_, rfl, rfl, rfl⟩
      · rename_i spelling members
        obtain ⟨_, others, rfl, each, back⟩ := union_counterpart same
        exact partners_convert other found tidy alsoTidy each back
          fun member listed partner there alike option made =>
            ih made alike (tidy_member tidy listed) (tidy_member alsoTidy there)
      · obtain ⟨base, marks, rfl, bases⟩ := annotated_counterpart same
        exact ih found bases (tidy_base tidy) (tidy_base alsoTidy)
      · rename_i present whole bald
        split at found
        · cases found
        · rename_i plain
          rw [Bool.not_eq_true] at plain
          have alsoPlain := (erased_counterpart same).trans plain
          split at found
          · rename_i supertype named
            obtain ⟨partner, told, partners⟩ := supertype_counterpart same tidy named
            rw [within_supertype alsoPlain told]
            exact ih found partners (tidy_supertype tidy plain named)
              (tidy_supertype alsoTidy alsoPlain told)
          · rename_i bare
            rw [within_leaf alsoPlain (bare_counterpart same alsoTidy bare)]
            · exact leaf_twin found same other
            · rintro rfl
              exact present (none_counterpart (counterparts_symm same))
            · rintro spelling members rfl
              obtain ⟨_, _, shape, _⟩ := union_counterpart (counterparts_symm same)
              exact whole _ _ shape
            · rintro base metadata rfl
              obtain ⟨_, _, shape, _⟩ := annotated_counterpart (counterparts_symm same)
              exact bald _ _ shape
          · cases found

end Twins

section Told

variable {world known : World} {form : TypeForm} {depth : Nat} {nullable : Bool}
  {made : Option Conversion}

theorem lookup_told (informed : world.Informed known) (target : ClassRef) (name : String) :
    known.lookup target name = world.lookup target name := by
  obtain ⟨classes, routines, told, supertypes⟩ := world
  obtain ⟨classes', routines', told', supertypes'⟩ := known
  obtain ⟨same, _⟩ := informed
  dsimp only at same
  subst same
  rfl

theorem value_class_told (informed : world.Informed known) (target : ClassRef) :
    known.isValueClass target = world.isValueClass target := by
  obtain ⟨classes, routines, told, supertypes⟩ := world
  obtain ⟨classes', routines', told', supertypes'⟩ := known
  obtain ⟨same, _⟩ := informed
  dsimp only at same
  subst same
  rfl

-- What a class names as its supertype is told alike, unless it is nothing that could be one.
theorem class_supertype_told (informed : world.Informed known) (target : ClassRef) :
    known.classSupertype? target = world.classSupertype? target ∨
      ∃ content other, known.classSupertype? target = some (.value content) ∧
        world.classSupertype? target = some (.value other) ∧ content.address? = none := by
  unfold classSupertype?
  rw [lookup_told informed]
  cases world.lookup target "__supertype__" with
  | none => exact .inl rfl
  | some entry =>
      obtain ⟨owner, kept⟩ := entry
      cases kept with
      | value content => cases content <;> exact .inl rfl
      | static callee => exact .inl rfl
      | classBound callee => exact .inl rfl
      | property definition => exact .inr ⟨_, _, rfl, rfl, rfl⟩
      | slot => exact .inr ⟨_, _, rfl, rfl, rfl⟩
      | reserved => exact .inr ⟨_, _, rfl, rfl, rfl⟩
      | native definition =>
          refine .inr ⟨known.rawValue owner "__supertype__" (.native definition), _, rfl, rfl, ?_⟩
          unfold rawValue
          dsimp only
          split
          · rfl
          · split <;> rfl

theorem asked_supertype_told (informed : world.Informed known) (tidy : world.Tidy form) :
    known.supertype? form = world.supertype? form ∨
      ∃ content other, known.supertype? form = .ok (some (.value content)) ∧
        world.supertype? form = .ok (some (.value other)) ∧ content.address? = none := by
  have ofClass : ∀ target, (.ok (known.classSupertype? target) :
      Except UnsupportedType (Option TypeForm)) = .ok (world.classSupertype? target) ∨
        ∃ content other, (.ok (known.classSupertype? target) :
          Except UnsupportedType (Option TypeForm)) = .ok (some (.value content)) ∧
            (.ok (world.classSupertype? target) :
              Except UnsupportedType (Option TypeForm)) = .ok (some (.value other)) ∧
            content.address? = none := by
    intro target
    rcases class_supertype_told informed target with same | ⟨content, other, named, told, bare⟩
    · exact .inl (congrArg _ same)
    · exact .inr ⟨content, other, congrArg _ named, congrArg _ told, bare⟩
  cases form
  case cls target => exact ofClass target
  case generic head origin arguments =>
    cases head
    case native => exact ofClass origin
    all_goals exact .inl rfl
  case newType name base => cases base <;> exact .inl rfl
  case value content =>
    refine .inl ?_
    simp only [supertype?, tidy.unasked content (.here _)]
  all_goals exact .inl rfl

-- There is no conversion to a value that is no object and no type.
theorem value_unconverted {content : Value} (bare : content.address? = none) :
    world.conversionWithin depth (.value content) nullable ≠ .ok made := by
  intro found
  cases depth with
  | zero => cases found
  | succ depth =>
      have unnamed : world.supertype? (.value content) = .ok none := by
        simp only [supertype?, bare]
      rw [within_leaf rfl unnamed (by simp) (by simp) (by simp)] at found
      unfold leafConversion at found
      dsimp only [TypeForm.origin?] at found
      split at found <;> cases found

theorem options_told {convert other : TypeForm → Except UnsupportedType (Option Conversion)}
    {members : List TypeForm} {options : Option (List Conversion)}
    (told : ∀ member ∈ members, ∀ made, convert member = .ok made → other member = .ok made)
    (found : optionsOf convert members = .ok options) :
    optionsOf other members = .ok options := by
  induction members generalizing options with
  | nil => exact found
  | cons member rest ih =>
      obtain ⟨first, converted, found⟩ := ok_of_bind found
      have alsoConverted := told member List.mem_cons_self first converted
      have later : ∀ {options}, optionsOf convert rest = .ok options →
          optionsOf other rest = .ok options :=
        ih fun other listed => told other (List.mem_cons_of_mem _ listed)
      cases first with
      | none =>
          simp only [optionsOf, alsoConverted, bind, Except.bind]
          exact found
      | some option =>
          obtain ⟨options, others, found⟩ := ok_of_bind found
          simp only [optionsOf, alsoConverted, later others, bind, Except.bind]
          exact found

theorem leaf_told (informed : world.Informed known)
    (found : known.leafConversion form nullable = .ok made) :
    world.leafConversion form nullable = .ok made := by
  unfold leafConversion at found ⊢
  split at found
  · cases found
  · exact found
  · rw [value_class_told informed] at found
    exact found
  · split at found <;> cases found

-- What has a conversion once all objects have been asked has it before, where no object stands
-- for a type.
theorem conversion_told (informed : world.Informed known) (tidy : world.Tidy form)
    (found : known.conversionWithin depth form nullable = .ok made) :
    world.conversionWithin depth form nullable = .ok made := by
  induction depth generalizing form nullable made with
  | zero => cases found
  | succ depth ih =>
      unfold conversionWithin at found
      split at found
      · exact found
      · rename_i spelling members
        obtain ⟨options, converted, found⟩ := ok_of_bind found
        have told : ∀ member ∈ members.filter TypeForm.isPresent, ∀ made,
            known.conversionWithin depth member false = .ok made →
              world.conversionWithin depth member false = .ok made :=
          fun member listed made => ih (tidy_member tidy (List.mem_filter.mp listed).1)
        rw [within_union (options_told told converted)]
        exact found
      · exact ih (tidy_base tidy) found
      · rename_i present whole bald
        cases erased : form.isErased with
        | true =>
            rw [if_pos erased] at found
            rw [within_open erased]
            exact found
        | false =>
            rw [if_neg (by simp [erased])] at found
            rcases asked_supertype_told informed tidy with same | ⟨content, _, named, _, bare⟩
            · rw [same] at found
              split at found
              · rename_i supertype named
                rw [within_supertype erased named]
                exact ih (tidy_supertype tidy erased named) found
              · rename_i bare
                rw [within_leaf erased bare present whole bald]
                exact leaf_told informed found
              · cases found
            · rw [named] at found
              exact absurd found (value_unconverted bare)

end Told

-- A declared type as the language gives it, of which no object is asked what it equals or what it
-- stands for, and which has a conversion if one of its alternatives admits every value.
structure Plain (world : World) (form : TypeForm) : Prop where
  written : Written form
  unjudged : world.holdsJudgeInForm form = false
  tidy : world.Tidy form
  converted : (∃ leaf, world.Alternative form leaf ∧ leaf.isErased = true) →
    ∃ made, world.conversionFor form false = .ok made

-- Two conversions of one kind, or two types that admit every value.
inductive Alike : Option Conversion → Option Conversion → Prop where
  | unasked : Alike none none
  | asked {conversion twin : Conversion} (kind : conversion.Twin twin) :
      Alike (some conversion) (some twin)

section Plain

variable {world : World} {left right form leaf : TypeForm} {made : Option Conversion}

theorem unasked_of_erased {nullable : Bool}
    (found : world.conversionFor form nullable = .ok made)
    (reached : world.Alternative form leaf) (erased : leaf.isErased = true) : made = none := by
  cases made with
  | none => rfl
  | some conversion =>
      obtain ⟨leaves, spread, checked, _⟩ := within_asks found
      have listed : leaf ∈ leaves := (mem_spread spread leaf).mpr ⟨form, by simp, reached⟩
      rw [checked leaf listed] at erased
      cases erased

-- What can be converted has counterparts that can be converted alike.
theorem counterpart_converted (found : world.conversionFor left false = .ok made)
    (same : world.Counterparts left right) (plain : world.Plain left)
    (alsoPlain : world.Plain right) :
    ∃ other, world.conversionFor right false = .ok other ∧ Alike made other := by
  cases made with
  | none =>
      obtain ⟨leaf, reached, erased⟩ := within_erased found
      obtain ⟨partner, alternative, alike⟩ :=
        alternative_counterpart same plain.tidy alsoPlain.tidy reached
      have alsoErased := (erased_counterpart alike).trans erased
      obtain ⟨other, converted⟩ := alsoPlain.converted ⟨partner, alternative, alsoErased⟩
      obtain rfl := unasked_of_erased converted alternative alsoErased
      exact ⟨none, converted, .unasked⟩
  | some conversion =>
      obtain ⟨twin, converted, kind⟩ := counterpart_converts found same plain.tidy alsoPlain.tidy
      exact ⟨some twin, converted, .asked kind⟩

end Plain

section Asked

variable {world later : World} {caller : Caller} {left right : TypeForm} {store : Store}
  {value : Value} {made other : Option Conversion}

-- Whether a check can be made of every value, and leaves no trace of itself.
def IsSteadfast (leaf : TypeForm) : Prop :=
  ∀ target, leaf.class? = some target → Askable target ∧ ¬ IsAbstract target

-- A value that does not notice in which order it is asked for the alternatives of a type: it is
-- asked for one at most, or it is candid and the checks leave no trace.
inductive Indifferent (world later : World) (store : Store) (value : Value) (form : TypeForm) :
    Prop where
  | unasked {leaf : TypeForm} (reached : world.Alternative form leaf)
      (erased : leaf.isErased = true)
  | sole {leaf : TypeForm} (alone : world.Sole form leaf)
  | candid (candid : later.Candid store value)
      (steadfast : ∀ leaf, world.Alternative form leaf → IsSteadfast leaf)

-- Two alternatives that a value is held against alike.
structure CheckedAlike (world : World) (leaf partner : TypeForm) : Prop where
  classes : partner.class? = leaf.class?
  values : world.isValueType partner = world.isValueType leaf

-- Two types with alternatives that a value is held against alike, which list None both or neither.
structure AskedAlike (world : World) (left right : TypeForm) : Prop where
  each : ∀ leaf, world.Alternative left leaf →
    ∃ partner, world.Alternative right partner ∧ world.CheckedAlike leaf partner
  back : ∀ partner, world.Alternative right partner →
    ∃ leaf, world.Alternative left leaf ∧ world.CheckedAlike leaf partner
  sole : ∀ leaf, world.Sole left leaf →
    ∃ partner, world.Sole right partner ∧ world.CheckedAlike leaf partner
  lists : world.ListsNone right ↔ world.ListsNone left

theorem checked_alike_symm {leaf partner : TypeForm} (alike : world.CheckedAlike leaf partner) :
    world.CheckedAlike partner leaf := ⟨alike.classes.symm, alike.values.symm⟩

theorem checked_alike_of_counterparts {leaf partner : TypeForm}
    (same : world.Counterparts leaf partner) : world.CheckedAlike leaf partner :=
  ⟨(class_counterpart same).1, (class_counterpart same).2⟩

theorem asked_alike_of_counterparts (same : world.Counterparts left right)
    (tidy : world.Tidy left) (alsoTidy : world.Tidy right) : world.AskedAlike left right where
  each leaf alternative := by
    obtain ⟨partner, found, alike⟩ := alternative_counterpart same tidy alsoTidy alternative
    exact ⟨partner, found, checked_alike_of_counterparts alike⟩
  back partner alternative := by
    obtain ⟨leaf, found, alike⟩ :=
      alternative_counterpart (counterparts_symm same) alsoTidy tidy alternative
    exact ⟨leaf, found, checked_alike_symm (checked_alike_of_counterparts alike)⟩
  sole leaf alone := by
    obtain ⟨partner, found, alike⟩ := sole_counterpart alone same tidy alsoTidy
    exact ⟨partner, found, checked_alike_of_counterparts alike⟩
  lists := ⟨lists_none_counterpart (counterparts_symm same) alsoTidy tidy,
    lists_none_counterpart same tidy alsoTidy⟩

theorem check_alike {leaf partner : TypeForm} (alike : world.CheckedAlike leaf partner) :
    world.checkFor later caller value partner = world.checkFor later caller value leaf := by
  unfold checkFor
  rw [alike.classes, alike.values]

theorem check_still (candid : later.Candid store value) (current : store.current value = value)
    {leaf : TypeForm} (steadfast : IsSteadfast leaf) :
    (world.checkFor later caller value leaf).execute store =
      (.ok ((world.checkFor later caller value leaf).succeeds store), store) := by
  have answered : ∃ answer, (world.checkFor later caller value leaf).execute store =
      (.ok answer, store) := by
    unfold checkFor
    cases named : leaf.class? with
    | none => exact ⟨false, rfl⟩
    | some target =>
        obtain ⟨askable, concrete⟩ := steadfast target named
        cases world.isValueType leaf with
        | true => exact ⟨_, rfl⟩
        | false =>
            exact ⟨_, instance_still (later.agrees_refl store) candid current askable concrete⟩
  obtain ⟨answer, ran⟩ := answered
  rw [Run.succeeds, ran]

theorem any_of_still {α : Type} {items : List α} {check : α → Run Bool}
    (still : ∀ item ∈ items, (check item).execute store =
      (.ok ((check item).succeeds store), store)) :
    (Run.anyOf (items.map check)).execute store =
      (.ok (items.any fun item => (check item).succeeds store), store) := by
  have answers : (Run.anyOf (items.map check)).Answers (· = store)
      (items.any fun item => (check item).succeeds store) := by
    apply Run.any_of_answers
    rintro item listed _ rfl
    exact ⟨_, still item listed, rfl⟩
  obtain ⟨_, ran, rfl⟩ := answers store rfl
  exact ran

-- A conversion whose checks leave no trace leaves none on a candid value.
theorem conversion_still (found : world.conversionFor left false = .ok made)
    (candid : later.Candid store value)
    (steadfast : ∀ leaf, world.Alternative left leaf → IsSteadfast leaf) :
    ((Conversion.applyOptional later caller made value).execute store).2 = store := by
  cases made with
  | none => rfl
  | some conversion =>
      rw [Conversion.applyOptional]
      cases absent : (store.current value).isNone && conversion.nullable with
      | true => rw [Conversion.apply_lets_through absent]
      | false =>
          obtain ⟨leaves, spread, _, asks⟩ := within_asks found
          have answered : (Run.anyOf (leaves.map
              (world.checkFor later caller (store.current value)))).execute store =
              (.ok (leaves.any fun leaf =>
                (world.checkFor later caller (store.current value) leaf).succeeds store), store) :=
            any_of_still fun leaf listed =>
              check_still (candid_current candid) (store.current_current value)
                (steadfast leaf (by simpa using (mem_spread spread leaf).mp listed))
          rw [Conversion.apply_asks absent,
            show conversion.accepts later caller (store.current value) = _ from asks _ _ _,
            Run.execute_bind_ok answered]
          split <;> rfl

-- What an alternative finds of a value is found by one that is checked alike as well.
theorem any_alike (same : world.AskedAlike left right) {leaves partners : List TypeForm}
    (spread : world.Spread [left] leaves) (alsoSpread : world.Spread [right] partners)
    (store : Store) :
    leaves.any (fun leaf => (world.checkFor later caller value leaf).succeeds store) =
      partners.any fun leaf => (world.checkFor later caller value leaf).succeeds store := by
  apply Bool.eq_iff_iff.mpr
  rw [List.any_eq_true, List.any_eq_true]
  constructor
  · rintro ⟨leaf, listed, succeeds⟩
    obtain ⟨partner, found, alike⟩ :=
      same.each leaf (by simpa using (mem_spread spread leaf).mp listed)
    refine ⟨partner, (mem_spread alsoSpread partner).mpr ⟨right, by simp, found⟩, ?_⟩
    rwa [check_alike alike]
  · rintro ⟨partner, listed, succeeds⟩
    obtain ⟨leaf, found, alike⟩ :=
      same.back partner (by simpa using (mem_spread alsoSpread partner).mp listed)
    refine ⟨leaf, (mem_spread spread leaf).mpr ⟨left, by simp, found⟩, ?_⟩
    rwa [check_alike alike] at succeeds

theorem accepts_alike (caller : Caller) {conversion twin : Conversion}
    (found : world.conversionFor left false = .ok (some conversion))
    (alsoFound : world.conversionFor right false = .ok (some twin))
    (same : world.AskedAlike left right) (indifferent : world.Indifferent later store value left) :
    (conversion.accepts later caller (store.current value)).execute store =
      (twin.accepts later caller (store.current value)).execute store := by
  obtain ⟨leaves, spread, _, asks⟩ := within_asks found
  obtain ⟨partners, alsoSpread, _, alsoAsks⟩ := within_asks alsoFound
  rw [show conversion.accepts later caller (store.current value) = _ from asks _ _ _,
    show twin.accepts later caller (store.current value) = _ from alsoAsks _ _ _]
  cases indifferent with
  | unasked reached erased => cases unasked_of_erased found reached erased
  | sole alone =>
      obtain ⟨partner, alsoAlone, alike⟩ := same.sole _ alone
      obtain rfl := sole_spread alone spread
      obtain rfl := sole_spread alsoAlone alsoSpread
      simp only [List.map_cons, List.map_nil, check_alike alike]
  | candid candid steadfast =>
      have frank := candid_current candid
      have current := store.current_current value
      rw [any_of_still, any_of_still, any_alike same spread alsoSpread store]
      · intro partner listed
        obtain ⟨leaf, alternative, alike⟩ :=
          same.back partner (by simpa using (mem_spread alsoSpread partner).mp listed)
        rw [check_alike alike]
        exact check_still frank current (steadfast leaf alternative)
      · intro leaf listed
        have reached : world.Alternative left leaf := by
          simpa using (mem_spread spread leaf).mp listed
        exact check_still frank current (steadfast leaf reached)

theorem nullable_alike {nullable : Bool} {conversion twin : Conversion}
    (found : world.conversionFor left nullable = .ok (some conversion))
    (alsoFound : world.conversionFor right nullable = .ok (some twin))
    (same : world.AskedAlike left right) : twin.nullable = conversion.nullable := by
  apply Bool.eq_iff_iff.mpr
  rw [within_nullable alsoFound, within_nullable found]
  exact or_congr_right same.lists

-- Conversions to counterparts end in the same way on a value that does not notice their order.
theorem counterparts_convert (caller : Caller) (found : world.conversionFor left false = .ok made)
    (alsoFound : world.conversionFor right false = .ok other)
    (same : world.Counterparts left right) (tidy : world.Tidy left) (alsoTidy : world.Tidy right)
    (alike : Alike made other) (indifferent : world.Indifferent later store value left) :
    Run.SameEnd ((Conversion.applyOptional later caller made value).execute store)
      ((Conversion.applyOptional later caller other value).execute store) := by
  have asked := asked_alike_of_counterparts same tidy alsoTidy
  cases alike with
  | unasked => exact Run.same_end_refl _
  | @asked conversion twin kind =>
      have flags := nullable_alike found alsoFound asked
      cases absent : (store.current value).isNone && conversion.nullable with
      | true =>
          rw [Conversion.applyOptional, Conversion.applyOptional,
            Conversion.apply_lets_through absent,
            Conversion.apply_lets_through (by rwa [flags])]
          exact .gives value store
      | false =>
          rw [Conversion.applyOptional, Conversion.applyOptional, Conversion.apply_asks absent,
            Conversion.apply_asks (by rwa [flags])]
          have answers := accepts_alike caller found alsoFound asked indifferent
          apply Run.same_end_bind
          · rw [answers]
            exact Run.same_end_refl _
          · intro accepted after _
            cases accepted with
            | true => exact .gives value after
            | false =>
                refine .fails ?_ after
                rw [Conversion.refusal_by_kind, Conversion.refusal_by_kind, kind.refusing]

end Asked

end World

end MemberThunks
