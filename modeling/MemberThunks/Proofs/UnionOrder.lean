import MemberThunks.Proofs.EqualConversions

set_option autoImplicit false

/- A union in another order. The members of a union are converted in the order in which they are
   written, up to the first that admits every value, and a value is held against them in that order,
   up to the first that lets it through. What comes of it hangs on the order only where the members
   or the value do something when they are asked: two unions of the same members are converted
   both or neither, and let the same values through. -/
namespace MemberThunks

namespace Run

variable {α β : Type}

-- Two answers that only the words of a failure tell apart.
inductive SameAnswer : Except Raised α → Except Raised α → Prop where
  | gives (result : α) : SameAnswer (.ok result) (.ok result)
  | fails {one other : Raised} (kind : one.failure.kind = other.failure.kind) :
      SameAnswer (.error one) (.error other)

theorem same_answer_refl (outcome : Except Raised α) : SameAnswer outcome outcome := by
  cases outcome with
  | ok result => exact .gives result
  | error raised => exact .fails rfl

theorem same_answer_bind {first second : Run α} {next other : α → Run β} {store : Store}
    (starts : SameAnswer (first.execute store).1 (second.execute store).1)
    (goesOn : ∀ result after final,
      SameAnswer ((next result).execute after).1 ((other result).execute final).1) :
    SameAnswer (Run.execute (first >>= next) store).1 (Run.execute (second >>= other) store).1 := by
  cases ran : first.execute store with
  | mk outcome after =>
      cases followed : second.execute store with
      | mk result final =>
          rw [ran, followed] at starts
          cases starts with
          | gives result =>
              rw [execute_bind_ok ran, execute_bind_ok followed]
              exact goesOn result after final
          | fails kind =>
              rw [execute_bind_error ran, execute_bind_error followed]
              exact .fails kind

end Run

namespace World

-- A declared type that is taken apart into its alternatives within a depth.
inductive NestsWithin (known : World) : Nat → TypeForm → Prop where
  | leaf {depth : Nat} {form : TypeForm} (final : known.isAlternative form = true) :
      NestsWithin known (depth + 1) form
  | union {depth : Nat} {spelling : Spelling} {members : List TypeForm}
      (each : ∀ member ∈ members, member.isPresent = true → NestsWithin known depth member) :
      NestsWithin known (depth + 1) (.union spelling members)
  | annotated {depth : Nat} {base : TypeForm} {metadata : List Value}
      (onward : NestsWithin known depth base) :
      NestsWithin known (depth + 1) (.annotated base metadata)
  | supertype {depth : Nat} {form supertype : TypeForm} (checked : form.isErased = false)
      (named : known.supertype? form = .ok (some supertype))
      (onward : NestsWithin known depth supertype) : NestsWithin known (depth + 1) form

-- An alternative that has no class to check for, and the fault that is found with it.
structure Unconvertible (known : World) (leaf : TypeForm) (fault : UnsupportedType) : Prop where
  classless : leaf.class? = none
  kind : (fault.failure none).kind = .unsupportedMember
  asked : fault.question? ≠ none → known.isUnheard [Value.ofForm leaf] = true

section Refusal

variable {known : World} {form leaf : TypeForm} {depth : Nat} {nullable : Bool}
  {fault : UnsupportedType}

theorem error_option {convert : TypeForm → Except UnsupportedType (Option Conversion)}
    {members : List TypeForm} (found : optionsOf convert members = .error fault) :
    ∃ member ∈ members, convert member = .error fault := by
  induction members with
  | nil => cases found
  | cons member rest ih =>
      cases converted : convert member with
      | error other =>
          simp only [optionsOf, converted, bind, Except.bind] at found
          cases found
          exact ⟨member, List.mem_cons_self, converted⟩
      | ok first =>
          simp only [optionsOf, converted, bind, Except.bind] at found
          cases first with
          | none => cases found
          | some option =>
              cases others : optionsOf convert rest with
              | error other =>
                  rw [others] at found
                  cases found
                  obtain ⟨later, listed, failed⟩ := ih others
                  exact ⟨later, List.mem_cons_of_mem _ listed, failed⟩
              | ok options =>
                  rw [others] at found
                  cases found

theorem leaf_unconvertible (present : leaf ≠ .none)
    (refused : known.leafConversion leaf nullable = .error fault) :
    known.Unconvertible leaf fault := by
  unfold leafConversion at refused
  split at refused
  · cases refused
    exact ⟨rfl, rfl, fun asked => absurd rfl asked⟩
  · cases refused
  · split at refused <;> cases refused
  · rename_i leaf _ _ _ typed bare
    have classless : leaf.class? = none := by
      unfold TypeForm.class?
      split
      · exact absurd rfl present
      · exact absurd rfl (typed _)
      · assumption
    split at refused
    · rename_i unheard
      cases refused
      exact ⟨classless, rfl, fun _ => unheard⟩
    · cases refused
      exact ⟨classless, rfl, fun asked => absurd rfl asked⟩

-- What has no conversion, though it does not nest too deep, has an alternative without a class.
theorem nests_refused (nests : known.NestsWithin depth form)
    (found : known.conversionWithin depth form nullable = .error fault) :
    ∃ leaf, known.Alternative form leaf ∧ known.Unconvertible leaf fault := by
  induction nests generalizing nullable with
  | @leaf depth form final =>
      cases erased : form.isErased with
      | true =>
          rw [within_open erased] at found
          cases found
      | false =>
          have present : form ≠ .none := by
            rintro rfl
            cases found
          rw [within_leaf erased (bare_of_final final erased) present
            (by rintro _ _ rfl; cases final) (by rintro _ _ rfl; cases final)] at found
          exact ⟨form, (alternative_itself final).mpr rfl, leaf_unconvertible present found⟩
  | @union depth spelling members each ih =>
      cases converted : optionsOf (fun member => known.conversionWithin depth member false)
          (members.filter TypeForm.isPresent) with
      | ok options =>
          rw [within_union converted] at found
          cases found
      | error other =>
          change (optionsOf (fun member => known.conversionWithin depth member false)
            (members.filter TypeForm.isPresent) >>= _) = _ at found
          rw [converted] at found
          cases found
          obtain ⟨member, kept, failed⟩ := error_option converted
          obtain ⟨listed, counted⟩ := List.mem_filter.mp kept
          obtain ⟨leaf, reached, unconvertible⟩ := ih member listed counted failed
          exact ⟨leaf, alternative_union.mpr ⟨member, kept, reached⟩, unconvertible⟩
  | annotated _ ih =>
      obtain ⟨leaf, reached, unconvertible⟩ := ih found
      exact ⟨leaf, alternative_annotated.mpr reached, unconvertible⟩
  | supertype checked named _ ih =>
      rw [within_supertype checked named] at found
      obtain ⟨leaf, reached, unconvertible⟩ := ih found
      exact ⟨leaf, (alternative_supertype checked named).mpr reached, unconvertible⟩

-- What objects say of their texts makes no type nest deeper.
theorem nests_told {world : World} (informed : world.Informed known)
    (nests : world.NestsWithin depth form) (tidy : world.Tidy form) :
    known.NestsWithin depth form := by
  induction nests with
  | @leaf depth form final =>
      cases erased : form.isErased with
      | true => exact .leaf (alternative_of_erased erased)
      | false =>
          have bare := bare_of_final final erased
          rcases asked_supertype_told informed tidy with same | ⟨_, _, _, named, _⟩
          · exact .leaf (alternative_of_leaf erased (same.trans bare)
              (by rintro _ _ rfl; cases final) (by rintro _ _ rfl; cases final))
          · rw [bare] at named
            cases named
  | union _ ih =>
      exact .union fun member listed counted =>
        ih member listed counted (tidy_member tidy listed)
  | annotated _ ih => exact .annotated (ih (tidy_base tidy))
  | supertype checked named onward ih =>
      rcases asked_supertype_told informed tidy with same | ⟨content, other, told, _, bare⟩
      · exact .supertype checked (same.trans named) (ih (tidy_supertype tidy checked named))
      · have final : known.isAlternative (.value content) = true := by
          simp [isAlternative, supertype?, bare]
        cases onward <;> exact .supertype checked told (.leaf final)

end Refusal

-- The same members, in any order.
structure SameMembers (world : World) (members others : List TypeForm) : Prop where
  each : ∀ member ∈ members, ∃ partner ∈ others, world.Counterparts member partner
  back : ∀ partner ∈ others, ∃ member ∈ members, world.Counterparts partner member

-- No alternative of a type admits every value while another one has no class to check for.
def Unmixed (world : World) (form : TypeForm) : Prop :=
  ∀ leaf, world.Alternative form leaf → leaf.isErased = true →
    ∀ other, world.Alternative form other → other.class? ≠ none

section SameMembers

variable {world : World} {members others : List TypeForm} {spelling other : Spelling}
  {depth : Nat} {leaf : TypeForm} {nullable : Bool} {made : Option Conversion}

theorem same_members_symm (same : world.SameMembers members others) :
    world.SameMembers others members := ⟨same.back, same.each⟩

theorem same_members_of_equal
    (equal : (TypeForm.union spelling members).equal (.union other others) = true) :
    world.SameMembers members others := by
  have same : world.Counterparts (.union spelling members) (.union other others) :=
    counterparts_of_equal equal
  obtain ⟨_, _, shape, each, back⟩ := union_counterpart same
  cases shape
  exact ⟨each, back⟩

theorem nests_of_partners
    (back : ∀ partner ∈ others, ∃ member ∈ members, world.Counterparts partner member)
    (nests : ∀ member ∈ members, member.isPresent = true →
      ∀ partner ∈ others, world.Counterparts member partner → world.NestsWithin depth partner) :
    world.NestsWithin (depth + 1) (.union spelling others) := by
  refine .union ?_
  intro partner listed counted
  obtain ⟨member, found, same⟩ := back partner listed
  exact nests member found (present_counterpart same counted) partner listed
    (counterparts_symm same)

theorem nests_counterpart {left right : TypeForm} (nests : world.NestsWithin depth left)
    (same : world.Counterparts left right) (tidy : world.Tidy left) (alsoTidy : world.Tidy right) :
    world.NestsWithin depth right := by
  induction nests generalizing right with
  | leaf final => exact .leaf (final_counterpart same alsoTidy final)
  | union _ ih =>
      obtain ⟨_, others, rfl, _, back⟩ := union_counterpart same
      exact nests_of_partners back fun member listed counted partner found partners =>
        ih member listed counted partners (tidy_member tidy listed) (tidy_member alsoTidy found)
  | annotated _ ih =>
      obtain ⟨_, _, rfl, bases⟩ := annotated_counterpart same
      exact .annotated (ih bases (tidy_base tidy) (tidy_base alsoTidy))
  | supertype checked named _ ih =>
      obtain ⟨_, told, partners⟩ := supertype_counterpart same tidy named
      have plain := (erased_counterpart same).trans checked
      exact .supertype plain told
        (ih partners (tidy_supertype tidy checked named) (tidy_supertype alsoTidy plain told))

section Matched

variable (same : world.SameMembers members others) (tidy : world.Tidy (.union spelling members))
  (alsoTidy : world.Tidy (.union other others))
include same tidy alsoTidy

theorem nests_same_members (nests : world.NestsWithin depth (.union spelling members)) :
    world.NestsWithin depth (.union other others) := by
  cases nests with
  | leaf final => cases final
  | union each =>
      exact nests_of_partners same.back fun member listed counted partner found partners =>
        nests_counterpart (each member listed counted) partners (tidy_member tidy listed)
          (tidy_member alsoTidy found)
  | supertype _ named => cases named

theorem alternative_same_members (alternative : world.Alternative (.union spelling members) leaf) :
    ∃ partner, world.Alternative (.union other others) partner ∧
      world.Counterparts leaf partner := by
  obtain ⟨member, kept, reached⟩ := alternative_union.mp alternative
  obtain ⟨listed, counted⟩ := List.mem_filter.mp kept
  obtain ⟨partner, found, partners⟩ := same.each member listed
  obtain ⟨twin, onward, alike⟩ := alternative_counterpart partners (tidy_member tidy listed)
    (tidy_member alsoTidy found) reached
  have present := List.mem_filter.mpr ⟨found, present_counterpart partners counted⟩
  exact ⟨twin, alternative_union.mpr ⟨partner, present, onward⟩, alike⟩

theorem sole_same_members (alone : world.Sole (.union spelling members) leaf) :
    ∃ partner, world.Sole (.union other others) partner ∧ world.Counterparts leaf partner := by
  cases alone with
  | leaf final => cases final
  | union single onward =>
      obtain ⟨partner, paired, partners⟩ :=
        single_counterpart alsoTidy same.each same.back single
      have listed := (List.mem_filter.mp (single ▸ List.mem_singleton_self _)).1
      have found := (List.mem_filter.mp (paired ▸ List.mem_singleton_self partner)).1
      obtain ⟨twin, alsoAlone, alike⟩ := sole_counterpart onward partners
        (tidy_member tidy listed) (tidy_member alsoTidy found)
      exact ⟨twin, .union paired alsoAlone, alike⟩
  | supertype _ named => cases named

-- What is converted is converted alike in any order.
theorem same_members_convert (nests : world.NestsWithin nestingLimit (.union spelling members))
    (unmixed : world.Unmixed (.union spelling members))
    (found : world.conversionFor (.union spelling members) nullable = .ok made) :
    ∃ twin, world.conversionFor (.union other others) nullable = .ok twin ∧ Alike made twin := by
  cases made with
  | some conversion =>
      have within : world.conversionWithin (999 + 1) (.union spelling members) nullable =
        .ok (some conversion) := found
      obtain ⟨twin, converted, kind⟩ := partners_convert nullable within tidy alsoTidy same.each
        same.back fun member listed partner there alike option made =>
          counterpart_converts made alike (tidy_member tidy listed) (tidy_member alsoTidy there)
      exact ⟨some twin, converted, .asked kind⟩
  | none =>
      obtain ⟨leaf, reached, erased⟩ := within_erased found
      cases converted : world.conversionFor (.union other others) nullable with
      | ok twin =>
          obtain ⟨partner, alternative, alike⟩ :=
            alternative_same_members same tidy alsoTidy reached
          obtain rfl := unasked_of_erased converted alternative
            ((erased_counterpart alike).trans erased)
          exact ⟨none, rfl, .unasked⟩
      | error fault =>
          obtain ⟨worst, alternative, unconvertible⟩ :=
            nests_refused (nests_same_members same tidy alsoTidy nests) converted
          obtain ⟨partner, alsoReached, alike⟩ :=
            alternative_same_members (same_members_symm same) alsoTidy tidy alternative
          exact absurd ((class_counterpart alike).1.trans unconvertible.classless)
            (unmixed leaf reached erased partner alsoReached)

theorem unmixed_same_members (unmixed : world.Unmixed (.union spelling members)) :
    world.Unmixed (.union other others) := by
  intro leaf reached erased worst alternative classless
  obtain ⟨partner, alsoReached, alike⟩ :=
    alternative_same_members (same_members_symm same) alsoTidy tidy reached
  obtain ⟨twin, alsoAlternative, kind⟩ :=
    alternative_same_members (same_members_symm same) alsoTidy tidy alternative
  exact unmixed partner alsoReached ((erased_counterpart alike).trans erased) twin alsoAlternative
    ((class_counterpart kind).1.trans classless)

end Matched

end SameMembers

-- A value that is judged alike in whatever order it is held against the alternatives of a type:
-- it is held against one at most; its class lets it tell nothing but its class, and there is no
-- alternative of which no value can be asked; or it answers each check in one way, whichever other
-- checks come before.
inductive Unswayed (world later : World) (caller : Caller) (store : Store) (value : Value)
    (form : TypeForm) : Prop where
  | sole {leaf : TypeForm} (alone : world.Sole form leaf)
  | candid (candid : later.Candid store value)
      (askable : ∀ leaf, world.Alternative form leaf → leaf.isErased = false → IsAskable leaf)
  | settled (kept : Store → Prop) (here : kept store)
      (answers : ∀ leaf, world.Alternative form leaf → leaf.isErased = false →
        (world.checkFor later caller (store.current value) leaf).Answers kept
          ((world.checkFor later caller (store.current value) leaf).succeeds store))

section Judged

variable {world later : World} {caller : Caller} {left right : TypeForm} {store : Store}
  {value : Value} {nullable : Bool}

-- Where each check has one answer, the first that succeeds is found in any order.
theorem settled_alike (same : world.AskedAlike left right) {kept : Store → Prop}
    {leaves partners : List TypeForm} (here : kept store) (spread : world.Spread [left] leaves)
    (alsoSpread : world.Spread [right] partners)
    (answers : ∀ leaf ∈ leaves, (world.checkFor later caller value leaf).Answers kept
      ((world.checkFor later caller value leaf).succeeds store)) :
    Run.SameAnswer
      ((Run.anyOf (leaves.map (world.checkFor later caller value))).execute store).1
      ((Run.anyOf (partners.map (world.checkFor later caller value))).execute store).1 := by
  have alsoAnswers : ∀ partner ∈ partners, (world.checkFor later caller value partner).Answers kept
      ((world.checkFor later caller value partner).succeeds store) := by
    intro partner listed
    obtain ⟨leaf, alternative, alike⟩ :=
      same.back partner (by simpa using (mem_spread alsoSpread partner).mp listed)
    rw [check_alike alike]
    exact answers leaf ((mem_spread spread leaf).mpr ⟨left, by simp, alternative⟩)
  obtain ⟨_, ran, _⟩ := Run.any_of_answers answers store here
  obtain ⟨_, followed, _⟩ := Run.any_of_answers alsoAnswers store here
  rw [ran, followed, any_alike same spread alsoSpread]
  exact .gives _

theorem accepts_unswayed {conversion twin : Conversion} (same : world.AskedAlike left right)
    (found : world.conversionFor left nullable = .ok (some conversion))
    (alsoFound : world.conversionFor right nullable = .ok (some twin))
    (unswayed : world.Unswayed later caller store value left) :
    Run.SameAnswer ((conversion.accepts later caller (store.current value)).execute store).1
      ((twin.accepts later caller (store.current value)).execute store).1 := by
  obtain ⟨leaves, spread, checked, asks⟩ := within_asks found
  obtain ⟨partners, alsoSpread, _, alsoAsks⟩ := within_asks alsoFound
  have reached : ∀ leaf ∈ leaves, world.Alternative left leaf :=
    fun leaf listed => by simpa using (mem_spread spread leaf).mp listed
  rw [show conversion.accepts later caller (store.current value) = _ from asks _ _ _,
    show twin.accepts later caller (store.current value) = _ from alsoAsks _ _ _]
  cases unswayed with
  | sole alone =>
      obtain ⟨partner, alsoAlone, alike⟩ := same.sole _ alone
      obtain rfl := sole_spread alone spread
      obtain rfl := sole_spread alsoAlone alsoSpread
      simp only [List.map_cons, List.map_nil, check_alike alike]
      exact Run.same_answer_refl _
  | candid candid askable =>
      refine settled_alike same (later.agrees_refl store) spread alsoSpread ?_
      intro leaf listed
      exact answers_of_steady (check_steady (candid_current candid) (store.current_current value)
        (askable leaf (reached leaf listed) (checked leaf listed)))
  | settled kept here answers =>
      exact settled_alike same here spread alsoSpread fun leaf listed =>
        answers leaf (reached leaf listed) (checked leaf listed)

-- Conversions that ask alike let the same values through and refuse the others alike.
theorem asked_alike_judge {made partner : Option Conversion} (same : world.AskedAlike left right)
    (alike : Alike made partner) (found : world.conversionFor left nullable = .ok made)
    (alsoFound : world.conversionFor right nullable = .ok partner)
    (unswayed : world.Unswayed later caller store value left) :
    Run.SameAnswer ((Conversion.applyOptional later caller made value).execute store).1
      ((Conversion.applyOptional later caller partner value).execute store).1 := by
  cases alike with
  | unasked => exact .gives value
  | @asked conversion twin kind =>
      have flags := nullable_alike found alsoFound same
      rw [Conversion.applyOptional, Conversion.applyOptional]
      cases absent : (store.current value).isNone && conversion.nullable with
      | true =>
          rw [Conversion.apply_lets_through absent, Conversion.apply_lets_through (by rwa [flags])]
          exact .gives value
      | false =>
          rw [Conversion.apply_asks absent, Conversion.apply_asks (by rwa [flags])]
          apply Run.same_answer_bind (accepts_unswayed same found alsoFound unswayed)
          intro accepted _ _
          cases accepted with
          | true => exact .gives value
          | false =>
              refine .fails ?_
              rw [Conversion.refusal_by_kind, Conversion.refusal_by_kind, kind.refusing]

section Members

variable {members others : List TypeForm} {spelling other : Spelling}

theorem none_same_members (same : world.SameMembers members others)
    (lists : members.any TypeForm.isNoneType = true) : others.any TypeForm.isNoneType = true := by
  obtain ⟨member, listed, absent⟩ := List.any_eq_true.mp lists
  obtain ⟨partner, found, alike⟩ := same.each member listed
  exact List.any_eq_true.mpr ⟨partner, found, (none_type_counterpart alike).trans absent⟩

theorem asked_alike_same_members (same : world.SameMembers members others)
    (tidy : world.Tidy (.union spelling members)) (alsoTidy : world.Tidy (.union other others)) :
    world.AskedAlike (.union spelling members) (.union other others) where
  each leaf alternative := by
    obtain ⟨partner, found, alike⟩ := alternative_same_members same tidy alsoTidy alternative
    exact ⟨partner, found, checked_alike_of_counterparts alike⟩
  back partner alternative := by
    obtain ⟨leaf, found, alike⟩ :=
      alternative_same_members (same_members_symm same) alsoTidy tidy alternative
    exact ⟨leaf, found, checked_alike_symm (checked_alike_of_counterparts alike)⟩
  sole leaf alone := by
    obtain ⟨partner, found, alike⟩ := sole_same_members same tidy alsoTidy alone
    exact ⟨partner, found, checked_alike_of_counterparts alike⟩
  lists := by
    rw [lists_none_union, lists_none_union]
    exact ⟨none_same_members (same_members_symm same), none_same_members same⟩

-- Conversions to the same members let the same values through and refuse the others alike.
theorem same_members_judge (same : world.SameMembers members others)
    (tidy : world.Tidy (.union spelling members)) (alsoTidy : world.Tidy (.union other others))
    {made partner : Option Conversion} (alike : Alike made partner)
    (found : world.conversionFor (.union spelling members) nullable = .ok made)
    (alsoFound : world.conversionFor (.union other others) nullable = .ok partner)
    (unswayed : world.Unswayed later caller store value (.union spelling members)) :
    Run.SameAnswer ((Conversion.applyOptional later caller made value).execute store).1
      ((Conversion.applyOptional later caller partner value).execute store).1 :=
  asked_alike_judge (asked_alike_same_members same tidy alsoTidy) alike found alsoFound unswayed

end Members

end Judged

section Classes

variable {world : World} {spelling : Spelling} {targets : List ClassRef}
  (bare : ∀ target ∈ targets, world.classSupertype? target = none)
include bare

theorem nests_classes (depth : Nat) :
    world.NestsWithin (depth + 2) (.union spelling (targets.map TypeForm.cls)) := by
  refine .union ?_
  intro member listed _
  obtain ⟨target, found, rfl⟩ := List.mem_map.mp listed
  exact .leaf (class_final (bare target found))

theorem unmixed_classes : world.Unmixed (.union spelling (targets.map TypeForm.cls)) := by
  intro _ _ _ other alternative
  obtain ⟨target, _, rfl⟩ := alternative_of_classes bare alternative
  simp [TypeForm.class?]

end Classes

end World

namespace Strategy

-- How it is told that a type has no conversion. It is said in words; and where they show an object
-- that says what its text is, the exception that the object raises comes out instead.
inductive Unsupported (world : World) (form : TypeForm) :
    Except CompileFault (Option Conversion) → Prop where
  | told (fault : CompileFault) (kind : fault.failure.kind = .unsupportedMember) :
      Unsupported world form (.error fault)
  | escaped (raised : Raised) {leaf : TypeForm} (reached : world.Alternative form leaf)
      (classless : leaf.class? = none) (unheard : world.isUnheard [Value.ofForm leaf] = true) :
      Unsupported world form (.error (.escaped raised))

section Conversion

variable {world : World} {caller : Caller} {form : TypeForm} {nullable : Bool} {store : Store}

theorem conversion_made {made : Option Conversion}
    (found : world.conversionFor form nullable = .ok made) :
    (conversion world caller form nullable).run.run store = (.ok made, store) :=
  Making.settling_first found store

theorem conversion_refused {fault : UnsupportedType} (tidy : world.Tidy form)
    (nests : world.NestsWithin World.nestingLimit form)
    (found : world.conversionFor form nullable = .error fault) :
    Unsupported world form ((conversion world caller form nullable).run.run store).1 := by
  obtain ⟨leaf, reached, unconvertible⟩ := World.nests_refused nests found
  cases asked : fault.question? with
  | none =>
      have decided : ∀ other, world.conversionFor form nullable = .error other →
          other.question? = none := by
        intro other failed
        cases found.symm.trans failed
        exact asked
      rw [conversion, Making.settling_decided world caller UnsupportedType.question? .unsupported
        (fun known => known.conversionFor form nullable) decided store, found]
      exact .told _ unconvertible.kind
  | some question =>
      have unheard := unconvertible.asked (by simp [asked])
      have settled := Making.settling_settled world caller UnsupportedType.question? .unsupported
        (fun known => known.conversionFor form nullable) store
      rw [conversion]
      generalize ((Making.settling world caller UnsupportedType.question? .unsupported
        fun known => known.conversionFor form nullable).run.run store).1 = outcome at settled
      cases settled with
      | escaped raised => exact .escaped raised reached unconvertible.classless unheard
      | made known made informed tried =>
          cases found.symm.trans (World.conversion_told informed tidy tried)
      | refused known other informed tried decided =>
          obtain ⟨_, _, alsoUnconvertible⟩ :=
            World.nests_refused (World.nests_told informed nests tidy) tried
          exact .told _ alsoUnconvertible.kind

end Conversion

section Order

variable {world : World} {spelling other : Spelling} {members others : List TypeForm}

end Order

-- Two ways to write that something with a length, a text or None is let through.
def measured (spelling : Spelling) (targets : List ClassRef) : TypeForm :=
  .union spelling (targets.map TypeForm.cls)

def sizedFirst : List ClassRef := [.builtin (.abstract .sized), .builtin .str, .noneType]

def noneFirst : List ClassRef := [.noneType, .builtin .str, .builtin (.abstract .sized)]

-- Classes whose objects raise an exception when they are asked for their class, for what they say
-- of themselves or for the type that they stand for, and a class that stands for itself.
def contraries : World :=
  (((World.empty.declare (.ofMembers "Riddle" [.property "__class__" (some (.routine
      ⟨some (Formal.named "self"), [], none, [.fail .valueFault "boom"]⟩)) none])).declare
    (.ofMembers "Mute" [.method "__repr__" .toTarget (.routine
      ⟨some (Formal.named "self"), [], none, [.fail .valueFault "boom"]⟩)])).declare
    (.ofMembers "Puzzle" [.property "__supertype__" (some (.routine
      ⟨some (Formal.named "self"), [], none, [.fail .valueFault "boom"]⟩)) none])).declare
    (.ofMembers "Loop" [.value "__supertype__" (.cls (.declared 3))])

-- How a value fails to be converted, if it fails.
def failureOf (form : TypeForm) (value : Value) : Option FailureKind :=
  match (conversion contraries (contraries.call World.callLimit) form false).run.run .empty with
  | (.error fault, _) => some fault.failure.kind
  | (.ok made, store) =>
    match ((Conversion.applyOptional contraries (contraries.call World.callLimit) made
        value).execute store).1 with
    | .ok _ => none
    | .error raised => some raised.failure.kind

-- Two types make two unions that are found equal, and that fail in different ways.
def OrderShows (first second : TypeForm) (value : Value) (one other : Option FailureKind) : Prop :=
  one ≠ other ∧
  (TypeForm.union .subscript [first, second]).equal (.union .subscript [second, first]) = true ∧
  failureOf (.union .subscript [first, second]) value = one ∧
  failureOf (.union .subscript [second, first]) value = other

instance (first second : TypeForm) (value : Value) (one other : Option FailureKind) :
    Decidable (OrderShows first second value one other) :=
  inferInstanceAs (Decidable (_ ∧ _ ∧ _ ∧ _))

def freeParameter : TypeForm := .parameter "T" .invariant false

end Strategy

end MemberThunks
