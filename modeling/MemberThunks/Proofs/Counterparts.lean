import MemberThunks.Proofs.DeclaredAlternatives
import MemberThunks.World.Likeness

set_option autoImplicit false

/- Declared types that count as one. Two types that are found equal need not be written alike: a
   union may list its members in another order, and what an alias or an annotated type stands for
   may be written in another way as well. But part by part they have counterparts in each other,
   and so each alternative of the one has an alternative of the other that is checked alike. -/
namespace MemberThunks

namespace TypeForm

-- Whether a type has no class and no parts, so that nothing can be checked for it.
def isClassless : TypeForm → Bool
  | special _ | literal _ _ | parameter _ _ _ | text _ | forward _ | classVar _ | final _
  | value _ => true
  | _ => false

-- Two types of one shape, the parts of which are related.
inductive Paired (related : TypeForm → TypeForm → Prop) : TypeForm → TypeForm → Prop where
  | same (form : TypeForm) : Paired related form form
  | union {spelling other : Spelling} {members others : List TypeForm}
      (each : ∀ member ∈ members, ∃ partner ∈ others, related member partner)
      (back : ∀ partner ∈ others, ∃ member ∈ members, related member partner) :
      Paired related (.union spelling members) (.union other others)
  | annotated {base other : TypeForm} {metadata marks : List Value} (bases : related base other) :
      Paired related (.annotated base metadata) (.annotated other marks)
  | newType {name : String} {base other : TypeForm} (bases : related base other) :
      Paired related (.newType name base) (.newType name other)
  | generic {head : Head} {origin : ClassRef} {arguments others : List TypeForm} :
      Paired related (.generic head origin arguments) (.generic head origin others)
  | callable {parameters others : List TypeForm} {result other : TypeForm} :
      Paired related (.callable parameters result) (.callable others other)
  | classless {left right : TypeForm} (bare : left.isClassless = true)
      (alsoBare : right.isClassless = true) : Paired related left right

theorem paired_symm {related : TypeForm → TypeForm → Prop} {left right : TypeForm}
    (symm : ∀ one other, related one other → related other one)
    (paired : Paired related left right) : Paired related right left := by
  cases paired with
  | same => exact .same _
  | union each back =>
      refine .union ?_ ?_
      · intro partner listed
        obtain ⟨member, found, alike⟩ := back partner listed
        exact ⟨member, found, symm _ _ alike⟩
      · intro member listed
        obtain ⟨partner, found, alike⟩ := each member listed
        exact ⟨partner, found, symm _ _ alike⟩
  | annotated bases => exact .annotated (symm _ _ bases)
  | newType bases => exact .newType (symm _ _ bases)
  | generic => exact .generic
  | callable => exact .callable
  | classless bare alsoBare => exact .classless alsoBare bare

theorem paired_mono {one other : TypeForm → TypeForm → Prop}
    {left right : TypeForm} (wider : ∀ left right, one left right → other left right)
    (paired : Paired one left right) : Paired other left right := by
  cases paired with
  | same => exact .same _
  | union each back =>
      refine .union ?_ ?_
      · intro member listed
        obtain ⟨partner, found, alike⟩ := each member listed
        exact ⟨partner, found, wider _ _ alike⟩
      · intro partner listed
        obtain ⟨member, found, alike⟩ := back partner listed
        exact ⟨member, found, wider _ _ alike⟩
  | annotated bases => exact .annotated (wider _ _ bases)
  | newType bases => exact .newType (wider _ _ bases)
  | generic => exact .generic
  | callable => exact .callable
  | classless bare alsoBare => exact .classless bare alsoBare

theorem within_gives {lefts rights : List TypeForm} (found : within lefts rights = true) :
    ∀ left ∈ lefts, ∃ right ∈ rights, left.equal right = true := by
  induction lefts with
  | nil => simp
  | cons left rest ih =>
      rw [within, Bool.and_eq_true] at found
      intro other listed
      cases List.mem_cons.mp listed with
      | inl same => exact same ▸ List.any_eq_true.mp found.1
      | inr later => exact ih found.2 other later

theorem any_equal_gives {lefts : List TypeForm} {right : TypeForm}
    (found : anyEqual lefts right = true) : ∃ left ∈ lefts, left.equal right = true := by
  induction lefts with
  | nil => cases found
  | cons left rest ih =>
      rw [anyEqual, Bool.or_eq_true] at found
      rcases found with first | later
      · exact ⟨left, List.mem_cons_self, first⟩
      · obtain ⟨other, listed, alike⟩ := ih later
        exact ⟨other, List.mem_cons_of_mem _ listed, alike⟩

theorem paired_of_equal {left right : TypeForm} (found : left.equal right = true) :
    Paired (fun one other => one.equal other = true) left right := by
  rw [TypeForm.equal.eq_def] at found
  split at found
  · exact eq_of_beq found ▸ .same _
  · exact .same _
  · exact .classless rfl rfl
  · obtain ⟨names, origins⟩ := Bool.and_eq_true_iff.mp found
    exact eq_of_beq names ▸ eq_of_beq origins ▸ .same _
  · obtain ⟨each, back⟩ := Bool.and_eq_true_iff.mp found
    exact .union (within_gives each)
      (fun partner listed => any_equal_gives (List.all_eq_true.mp back partner listed))
  · obtain ⟨shape, _⟩ := Bool.and_eq_true_iff.mp found
    obtain ⟨origins, heads⟩ := Bool.and_eq_true_iff.mp shape
    exact eq_of_beq origins ▸ eq_of_beq heads ▸ .generic
  · exact .callable
  · exact .annotated (Bool.and_eq_true_iff.mp found).1
  · obtain ⟨names, bases⟩ := Bool.and_eq_true_iff.mp found
    exact eq_of_beq names ▸ .newType bases
  · exact .classless rfl rfl
  · exact .classless rfl rfl
  · exact .classless rfl rfl
  · exact .classless rfl rfl
  · exact .classless rfl rfl
  · exact .classless rfl rfl
  · exact .classless rfl rfl
  · cases found

end TypeForm

namespace World

-- Whether one type is found equal to another one, be it where their values are compared by their
-- hashes or not.
def Matches (world : World) (left right : TypeForm) : Prop :=
  left.equal right = true ∨ TypeForm.compare world left right = .ok true

-- Two types that are one, or of which one is found equal to the other.
def Counterparts (world : World) (left right : TypeForm) : Prop :=
  left = right ∨ world.Matches left right ∨ world.Matches right left

section Counterparts

variable {world : World} {left right : TypeForm}

theorem counterparts_refl (world : World) (form : TypeForm) : world.Counterparts form form :=
  .inl rfl

theorem counterparts_symm (same : world.Counterparts left right) :
    world.Counterparts right left := by
  rcases same with rfl | found | found
  · exact .inl rfl
  · exact .inr (.inr found)
  · exact .inr (.inl found)

theorem counterparts_of_equal (found : left.equal right = true) : world.Counterparts left right :=
  .inr (.inl (.inl found))

theorem paired_of_compare (found : TypeForm.compare world left right = .ok true) :
    TypeForm.Paired world.Counterparts left right := by
  rw [TypeForm.compare.eq_def] at found
  split at found
  · exact .classless rfl rfl
  · split at found
    · rename_i shape
      exact shape.1 ▸ shape.2 ▸ .generic
    · cases found
  · exact .callable
  · obtain ⟨bases, compared, found⟩ := ok_of_bind found
    cases bases with
    | false => cases found
    | true => exact .annotated (.inr (.inl (.inr compared)))
  · exact .classless rfl rfl
  · exact .classless rfl rfl
  · exact TypeForm.paired_mono (fun _ _ => counterparts_of_equal)
      (TypeForm.paired_of_equal (Except.ok.inj found))

theorem paired_of_matches (found : world.Matches left right) :
    TypeForm.Paired world.Counterparts left right := by
  rcases found with equal | compared
  · exact TypeForm.paired_mono (fun _ _ => counterparts_of_equal) (TypeForm.paired_of_equal equal)
  · exact paired_of_compare compared

-- What counterparts have in common.
theorem counterparts_paired (same : world.Counterparts left right) :
    TypeForm.Paired world.Counterparts left right := by
  rcases same with rfl | found | found
  · exact .same _
  · exact paired_of_matches found
  · exact TypeForm.paired_symm (fun _ _ => counterparts_symm) (paired_of_matches found)

end Counterparts

section Compared

variable {world : World} {call : Caller} {left right : TypeForm} {depth : Nat}
  {store after : Store}

-- A type as values are written in the places of types: what is a class, None, a text or a form
-- does not stand there as any other value.
def Written (form : TypeForm) : Prop := (Value.ofForm form).toForm = form

-- Equal values stand for equal types, unless they are objects.
theorem forms_of_equal_values {first second : Value} (bare : first.address? = none)
    (alsoBare : second.address? = none) (same : first.equal second = true) :
    first.toForm.equal second.toForm = true := by
  -- what is itself in the place of a type is compared as it is, and the rest equals nothing else
  cases first <;> cases second <;> first
    | exact same
    | simp_all [Value.equal, Value.address?, Value.isNone, Value.isText, Value.payload,
      Value.hasMagnitude, Value.magnitude?, Value.isMarked, Value.isComplex, Value.isOctets]

theorem value_of_address (written : Written left) {address : Nat}
    (kept : (Value.ofForm left).address? = some address) :
    ∃ content, left = .value content ∧ content.address? = some address := by
  cases left
  case value content => exact ⟨content, rfl, kept⟩
  all_goals cases kept

-- Types that are one are found equal, or one object stands for both.
theorem equal_of_one (written : Written left) (alsoWritten : Written right)
    (one : (Value.ofForm left).isOne (Value.ofForm right) = true) :
    left.equal right = true ∨ ∃ content other, left = .value content ∧ right = .value other ∧
      content.address?.isSome = true := by
  unfold Value.isOne at one
  split at one
  · rename_i values mark others mark' first second
    refine .inl ?_
    rw [← written, ← alsoWritten, first, second]
    simp only [Bool.and_eq_true, Bool.or_eq_true, bne_iff_ne, ne_eq, beq_iff_eq] at one
    obtain ⟨rfl, marked | equal⟩ := one
    · simp [Value.toForm, TypeForm.equal, marked]
    · rwa [first, second] at equal
  · split at one
    · rename_i address other kept found
      obtain ⟨content, rfl, held⟩ := value_of_address written kept
      obtain ⟨content', rfl, _⟩ := value_of_address alsoWritten found
      exact .inr ⟨content, content', rfl, rfl, by rw [held]; rfl⟩
    · rename_i bare alsoBare
      simp only [Bool.and_eq_true] at one
      have equal := forms_of_equal_values bare alsoBare one.2
      rw [written, alsoWritten] at equal
      exact .inl equal
    · cases one

theorem same_forms_counterparts (written : Written left) (alsoWritten : Written right)
    (unjudged : world.holdsJudgeInForm left = false)
    (alsoUnjudged : world.holdsJudgeInForm right = false)
    (same : (world.sameForms call depth left right).execute store = (.ok true, after)) :
    world.Counterparts left right ∨ ∃ content other, left = .value content ∧
      right = .value other ∧ content.address?.isSome = true := by
  unfold sameForms at same
  split at same
  · cases same
  · rename_i depth
    split at same
    · rename_i one
      exact (equal_of_one written alsoWritten one).imp counterparts_of_equal id
    · unfold alikeForms at same
      split at same
      · cases same
      · rw [unjudged, alsoUnjudged] at same
        cases compared : TypeForm.compare world left right with
        | error fault =>
            rw [compared] at same
            cases same
        | ok found =>
            rw [compared] at same
            cases same
            exact .inl (.inr (.inl (.inr compared)))

end Compared

-- A declared type in which no object stands for a type, and no union lists a type twice.
structure Tidy (world : World) (form : TypeForm) : Prop where
  unasked : ∀ content, world.Reaches (fun _ => true) form (.value content) →
    content.address? = none
  eachOnce : ∀ spelling members, world.Reaches (fun _ => true) form (.union spelling members) →
    members.Pairwise fun first second =>
      ∀ other, world.Counterparts other first → ¬ world.Counterparts other second

section Tidy

variable {world : World} {form part supertype : TypeForm}

theorem tidy_onward (tidy : world.Tidy form)
    (onward : ∀ goal, world.Reaches (fun _ => true) part goal →
      world.Reaches (fun _ => true) form goal) : world.Tidy part where
  unasked content reached := tidy.unasked content (onward _ reached)
  eachOnce spelling members reached := tidy.eachOnce spelling members (onward _ reached)

theorem tidy_member {spelling : Spelling} {members : List TypeForm}
    (tidy : world.Tidy (.union spelling members)) (listed : part ∈ members) : world.Tidy part :=
  tidy_onward tidy fun _ reached => .member listed rfl reached

theorem tidy_base {metadata : List Value} (tidy : world.Tidy (.annotated part metadata)) :
    world.Tidy part :=
  tidy_onward tidy fun _ reached => .annotated reached

theorem tidy_supertype (tidy : world.Tidy form) (checked : form.isErased = false)
    (named : world.supertype? form = .ok (some supertype)) : world.Tidy supertype :=
  tidy_onward tidy fun _ reached => .supertype checked named reached

-- A type that leads nowhere is tidy if it is no value.
theorem tidy_leaf (typed : ∀ content, form ≠ .value content)
    (whole : ∀ spelling members, form ≠ .union spelling members)
    (bald : ∀ base metadata, form ≠ .annotated base metadata)
    (bare : world.supertype? form = .ok none) : world.Tidy form := by
  have stays : ∀ goal, world.Reaches (fun _ => true) form goal → goal = form := by
    intro goal reached
    cases reached with
    | here => rfl
    | member => exact absurd rfl (whole _ _)
    | annotated => exact absurd rfl (bald _ _)
    | supertype _ named =>
        rw [bare] at named
        cases named
  refine ⟨?_, ?_⟩
  · intro content reached
    exact absurd (stays _ reached).symm (typed content)
  · intro spelling members reached
    exact absurd (stays _ reached).symm (whole spelling members)

theorem tidy_union (spelling : Spelling) {members : List TypeForm}
    (each : ∀ member ∈ members, world.Tidy member)
    (distinct : members.Pairwise fun first second =>
      ∀ other, world.Counterparts other first → ¬ world.Counterparts other second) :
    world.Tidy (.union spelling members) := by
  refine ⟨?_, ?_⟩
  · intro content reached
    cases reached with
    | member listed _ onward => exact (each _ listed).unasked content onward
    | supertype _ named => cases named
  · intro other others reached
    cases reached with
    | here => exact distinct
    | member listed _ onward => exact (each _ listed).eachOnce other others onward
    | supertype _ named => cases named

theorem tidy_distinct {spelling : Spelling} {members : List TypeForm}
    (tidy : world.Tidy (.union spelling members)) :
    members.Pairwise fun first second =>
      ∀ other, world.Counterparts other first → ¬ world.Counterparts other second :=
  tidy.eachOnce spelling members (.here _)

theorem classless_bare (tidy : world.Tidy form) (bare : form.isClassless = true) :
    world.supertype? form = .ok none := by
  cases form
  case value content =>
    have address := tidy.unasked content (.here _)
    simp only [supertype?, address]
  all_goals first | rfl | cases bare

theorem bare_of_final (final : world.isAlternative form = true) (checked : form.isErased = false) :
    world.supertype? form = .ok none := by
  unfold isAlternative at final
  split at final
  · cases final
  · cases final
  · rw [checked, Bool.false_or] at final
    split at final
    · assumption
    · cases final

theorem supertype_told (tidy : world.Tidy form) {fault : UnsupportedType} :
    world.supertype? form ≠ .error fault := by
  intro failed
  cases form
  case value content =>
    rw [classless_bare tidy rfl] at failed
    cases failed
  case newType name base => cases base <;> cases failed
  case generic head origin arguments => cases head <;> cases failed
  all_goals cases failed

end Tidy

section Alternatives

variable {world : World} {left right leaf supertype : TypeForm}

theorem erased_counterpart (same : world.Counterparts left right) :
    right.isErased = left.isErased := by
  cases counterparts_paired same with
  | classless bare alsoBare =>
      cases left <;> cases bare <;> cases right <;> cases alsoBare <;> rfl
  | _ => rfl

theorem none_type_counterpart (same : world.Counterparts left right) :
    right.isNoneType = left.isNoneType := by
  cases counterparts_paired same with
  | classless bare alsoBare =>
      cases left <;> cases bare <;> cases right <;> cases alsoBare <;> rfl
  | _ => rfl

theorem union_counterpart {spelling : Spelling} {members : List TypeForm}
    (same : world.Counterparts (.union spelling members) right) :
    ∃ other others, right = .union other others ∧
      (∀ member ∈ members, ∃ partner ∈ others, world.Counterparts member partner) ∧
      ∀ partner ∈ others, ∃ member ∈ members, world.Counterparts partner member := by
  cases counterparts_paired same with
  | same =>
      have each : ∀ member ∈ members, ∃ partner ∈ members, world.Counterparts member partner :=
        fun member listed => ⟨member, listed, counterparts_refl world member⟩
      exact ⟨spelling, members, rfl, each, each⟩
  | union each back =>
      refine ⟨_, _, rfl, each, ?_⟩
      intro partner listed
      obtain ⟨member, found, alike⟩ := back partner listed
      exact ⟨member, found, counterparts_symm alike⟩
  | classless bare => cases bare

theorem annotated_counterpart {base : TypeForm} {metadata : List Value}
    (same : world.Counterparts (.annotated base metadata) right) :
    ∃ other marks, right = .annotated other marks ∧ world.Counterparts base other := by
  cases counterparts_paired same with
  | same => exact ⟨base, metadata, rfl, counterparts_refl world base⟩
  | annotated bases => exact ⟨_, _, rfl, bases⟩
  | classless bare => cases bare

theorem none_counterpart (same : world.Counterparts .none right) : right = .none := by
  cases counterparts_paired same with
  | same => rfl
  | classless bare _ => cases bare

-- What a type stands for has a counterpart in what a counterpart of the type stands for.
theorem supertype_counterpart (same : world.Counterparts left right) (tidy : world.Tidy left)
    (named : world.supertype? left = .ok (some supertype)) :
    ∃ other, world.supertype? right = .ok (some other) ∧ world.Counterparts supertype other := by
  cases counterparts_paired same with
  | same => exact ⟨supertype, named, counterparts_refl world supertype⟩
  | @newType name base other bases =>
      have present : ∀ one, one ≠ TypeForm.none →
          world.supertype? (.newType name one) = .ok (some one) := by
        intro one present
        cases one <;> first | rfl | exact absurd rfl present
      have written : base ≠ .none := by
        rintro rfl
        cases named
      have alsoWritten : other ≠ .none := by
        rintro rfl
        exact written (none_counterpart (counterparts_symm bases))
      rw [present base written] at named
      cases named
      exact ⟨other, present other alsoWritten, bases⟩
  | @generic head origin arguments others =>
      refine ⟨supertype, ?_, counterparts_refl world supertype⟩
      cases head <;> exact named
  | classless bare _ =>
      rw [classless_bare tidy bare] at named
      cases named
  | _ => cases named

theorem present_counterpart (same : world.Counterparts left right)
    (present : left.isPresent = true) : right.isPresent = true := by
  rw [TypeForm.isPresent, none_type_counterpart same]
  exact present

theorem bare_counterpart (same : world.Counterparts left right) (alsoTidy : world.Tidy right)
    (bare : world.supertype? left = .ok none) : world.supertype? right = .ok none := by
  cases told : world.supertype? right with
  | error fault => exact absurd told (supertype_told alsoTidy)
  | ok named =>
      cases named with
      | none => rfl
      | some supertype =>
          obtain ⟨other, found, _⟩ := supertype_counterpart (counterparts_symm same) alsoTidy told
          rw [bare] at found
          cases found

theorem final_counterpart (same : world.Counterparts left right) (alsoTidy : world.Tidy right)
    (final : world.isAlternative left = true) : world.isAlternative right = true := by
  cases erased : right.isErased with
  | true => exact alternative_of_erased erased
  | false =>
      have plain : left.isErased = false := (erased_counterpart same).symm.trans erased
      refine alternative_of_leaf erased
        (bare_counterpart same alsoTidy (bare_of_final final plain)) ?_ ?_
      · rintro spelling members rfl
        obtain ⟨_, _, rfl, _⟩ := union_counterpart (counterparts_symm same)
        cases final
      · rintro base metadata rfl
        obtain ⟨_, _, rfl, _⟩ := annotated_counterpart (counterparts_symm same)
        cases final

theorem origin_counterpart (same : world.Counterparts left right) :
    right.origin? = left.origin? := by
  cases counterparts_paired same with
  | same => rfl
  | classless bare alsoBare =>
      cases left <;> cases bare <;> cases right <;> cases alsoBare <;> rfl
  | generic =>
      unfold TypeForm.origin?
      split <;> split <;> grind
  | _ => rfl

theorem class_itself_counterpart {target : ClassRef}
    (same : world.Counterparts (.cls target) right) : right = .cls target := by
  cases counterparts_paired same with
  | same => rfl
  | classless bare _ => cases bare

-- A union of different classes that stand for nothing else.
theorem tidy_classes (spelling : Spelling) {targets : List ClassRef} (distinct : targets.Nodup)
    (bare : ∀ target ∈ targets, world.classSupertype? target = none) :
    world.Tidy (.union spelling (targets.map TypeForm.cls)) := by
  apply tidy_union
  · intro member listed
    obtain ⟨target, found, rfl⟩ := List.mem_map.mp listed
    exact tidy_leaf (by simp) (by simp) (by simp) (congrArg Except.ok (bare target found))
  · refine List.pairwise_map.mpr (distinct.imp ?_)
    intro first second apart other same alsoSame
    obtain rfl := class_itself_counterpart (counterparts_symm same)
    cases class_itself_counterpart alsoSame
    exact apart rfl

theorem class_final {target : ClassRef} (bare : world.classSupertype? target = none) :
    world.isAlternative (.cls target) = true := by
  cases erased : (TypeForm.cls target).isErased with
  | true => exact alternative_of_erased erased
  | false => exact alternative_of_leaf erased (congrArg Except.ok bare) (by simp) (by simp)

-- The alternatives of such a union are its classes.
theorem alternative_of_classes {spelling : Spelling} {targets : List ClassRef}
    (bare : ∀ target ∈ targets, world.classSupertype? target = none)
    (alternative : world.Alternative (.union spelling (targets.map TypeForm.cls)) leaf) :
    ∃ target ∈ targets, leaf = .cls target := by
  obtain ⟨member, kept, reached⟩ := alternative_union.mp alternative
  obtain ⟨target, listed, rfl⟩ := List.mem_map.mp (List.mem_filter.mp kept).1
  exact ⟨target, listed, (alternative_itself (class_final (bare target listed))).mp reached⟩

-- What can be asked for of counterparts is the same.
theorem class_counterpart (same : world.Counterparts left right) :
    right.class? = left.class? ∧ world.isValueType right = world.isValueType left := by
  have origins := origin_counterpart same
  cases left
  case cls target =>
    obtain rfl := class_itself_counterpart same
    exact ⟨rfl, rfl⟩
  case none =>
    obtain rfl := none_counterpart same
    exact ⟨rfl, rfl⟩
  all_goals
    cases right
    case cls target => cases class_itself_counterpart (counterparts_symm same)
    case none => cases none_counterpart (counterparts_symm same)
    all_goals exact ⟨origins, rfl⟩

-- Each alternative of a type has a counterpart among the alternatives of a counterpart.
theorem alternative_counterpart (same : world.Counterparts left right) (tidy : world.Tidy left)
    (alsoTidy : world.Tidy right) (alternative : world.Alternative left leaf) :
    ∃ other, world.Alternative right other ∧ world.Counterparts leaf other := by
  obtain ⟨reached, final⟩ := alternative
  induction reached generalizing right with
  | here form =>
      have alsoFinal := final_counterpart same alsoTidy final
      exact ⟨right, (alternative_itself alsoFinal).mpr rfl, same⟩
  | member listed counted _ ih =>
      obtain ⟨spelling, others, rfl, each, _⟩ := union_counterpart same
      obtain ⟨partner, found, partners⟩ := each _ listed
      obtain ⟨other, reached, alike⟩ := ih partners (tidy_member tidy listed)
        (tidy_member alsoTidy found) final
      exact ⟨other, alternative_union.mpr ⟨partner, List.mem_filter.mpr
        ⟨found, present_counterpart partners counted⟩, reached⟩, alike⟩
  | annotated _ ih =>
      obtain ⟨base, marks, rfl, bases⟩ := annotated_counterpart same
      obtain ⟨other, reached, alike⟩ := ih bases (tidy_base tidy) (tidy_base alsoTidy) final
      exact ⟨other, alternative_annotated.mpr reached, alike⟩
  | supertype checked named _ ih =>
      obtain ⟨found, told, partners⟩ := supertype_counterpart same tidy named
      have plain := (erased_counterpart same).trans checked
      obtain ⟨other, reached, alike⟩ := ih partners (tidy_supertype tidy checked named)
        (tidy_supertype alsoTidy plain told) final
      exact ⟨other, (alternative_supertype plain told).mpr reached, alike⟩

theorem lists_none_counterpart (same : world.Counterparts left right) (tidy : world.Tidy left)
    (alsoTidy : world.Tidy right) (lists : world.ListsNone left) : world.ListsNone right := by
  induction lists generalizing right with
  | union listed =>
      obtain ⟨other, others, rfl, each, _⟩ := union_counterpart same
      obtain ⟨member, found, absent⟩ := List.any_eq_true.mp listed
      obtain ⟨partner, there, partners⟩ := each member found
      refine .union (List.any_eq_true.mpr ⟨partner, there, ?_⟩)
      rw [none_type_counterpart partners]
      exact absent
  | annotated _ ih =>
      obtain ⟨base, marks, rfl, bases⟩ := annotated_counterpart same
      exact .annotated (ih bases (tidy_base tidy) (tidy_base alsoTidy))
  | supertype checked named _ ih =>
      obtain ⟨found, told, partners⟩ := supertype_counterpart same tidy named
      have plain := (erased_counterpart same).trans checked
      exact .supertype plain told (ih partners (tidy_supertype tidy checked named)
        (tidy_supertype alsoTidy plain told))

-- A union that lists one type beside None has for counterparts only unions that do so too.
theorem single_counterpart {spelling : Spelling} {members others : List TypeForm}
    {member : TypeForm} (alsoTidy : world.Tidy (.union spelling others))
    (each : ∀ member ∈ members, ∃ partner ∈ others, world.Counterparts member partner)
    (back : ∀ partner ∈ others, ∃ member ∈ members, world.Counterparts partner member)
    (single : members.filter TypeForm.isPresent = [member]) :
    ∃ partner, others.filter TypeForm.isPresent = [partner] ∧
      world.Counterparts member partner := by
  have partnersOfIt : ∀ partner ∈ others.filter TypeForm.isPresent,
      world.Counterparts member partner := by
    intro partner listed
    obtain ⟨found, counted⟩ := List.mem_filter.mp listed
    obtain ⟨origin, there, alike⟩ := back partner found
    have kept := List.mem_filter.mpr ⟨there, present_counterpart alike counted⟩
    rw [single, List.mem_singleton] at kept
    exact kept ▸ counterparts_symm alike
  obtain ⟨listed, counted⟩ : member ∈ members ∧ member.isPresent = true := by
    rw [← List.mem_filter, single]
    exact List.mem_singleton_self member
  obtain ⟨partner, found, alike⟩ := each member listed
  have kept := List.mem_filter.mpr ⟨found, present_counterpart alike counted⟩
  have distinct := (tidy_distinct alsoTidy).filter TypeForm.isPresent
  revert partnersOfIt kept distinct
  generalize others.filter TypeForm.isPresent = present
  intro partnersOfIt kept distinct
  match present with
  | [] => cases kept
  | [only] => exact ⟨only, rfl, partnersOfIt only List.mem_cons_self⟩
  | first :: second :: rest =>
      -- no type is the same as two that the union lists
      have apart := (List.pairwise_cons.mp distinct).1 second List.mem_cons_self member
        (partnersOfIt first List.mem_cons_self)
      exact absurd (partnersOfIt second (List.mem_cons_of_mem _ List.mem_cons_self)) apart

end Alternatives

-- Whether a type leads to one alternative and to no other on the way.
inductive Sole (world : World) : TypeForm → TypeForm → Prop where
  | leaf {form : TypeForm} (final : world.isAlternative form = true) : Sole world form form
  | union {spelling : Spelling} {members : List TypeForm} {member leaf : TypeForm}
      (single : members.filter TypeForm.isPresent = [member]) (onward : Sole world member leaf) :
      Sole world (.union spelling members) leaf
  | annotated {base leaf : TypeForm} {metadata : List Value} (onward : Sole world base leaf) :
      Sole world (.annotated base metadata) leaf
  | supertype {form supertype leaf : TypeForm} (checked : form.isErased = false)
      (named : world.supertype? form = .ok (some supertype))
      (onward : Sole world supertype leaf) : Sole world form leaf

section Sole

variable {world : World} {left right leaf : TypeForm} {forms leaves : List TypeForm}

theorem sole_counterpart (sole : world.Sole left leaf) (same : world.Counterparts left right)
    (tidy : world.Tidy left) (alsoTidy : world.Tidy right) :
    ∃ other, world.Sole right other ∧ world.Counterparts leaf other := by
  induction sole generalizing right with
  | leaf final => exact ⟨right, .leaf (final_counterpart same alsoTidy final), same⟩
  | @union spelling members member _ single _ ih =>
      obtain ⟨_, others, rfl, each, back⟩ := union_counterpart same
      obtain ⟨partner, alone, partners⟩ := single_counterpart alsoTidy each back single
      have listed : member ∈ members :=
        (List.mem_filter.mp (single ▸ List.mem_singleton_self member)).1
      have found : partner ∈ others :=
        (List.mem_filter.mp (alone ▸ List.mem_singleton_self partner)).1
      obtain ⟨other, onward, alike⟩ :=
        ih partners (tidy_member tidy listed) (tidy_member alsoTidy found)
      exact ⟨other, .union alone onward, alike⟩
  | annotated _ ih =>
      obtain ⟨base, marks, rfl, bases⟩ := annotated_counterpart same
      obtain ⟨other, onward, alike⟩ := ih bases (tidy_base tidy) (tidy_base alsoTidy)
      exact ⟨other, .annotated onward, alike⟩
  | supertype checked named _ ih =>
      obtain ⟨found, told, partners⟩ := supertype_counterpart same tidy named
      have plain := (erased_counterpart same).trans checked
      obtain ⟨other, onward, alike⟩ := ih partners (tidy_supertype tidy checked named)
        (tidy_supertype alsoTidy plain told)
      exact ⟨other, .supertype plain told onward, alike⟩

-- A type with a sole alternative spreads into that one.
theorem sole_spread (sole : world.Sole left leaf) (spread : world.Spread [left] leaves) :
    leaves = [leaf] := by
  induction sole generalizing leaves with
  | leaf final =>
      cases spread with
      | leaf _ onward =>
          cases onward
          rfl
      | union => cases final
      | annotated => cases final
      | supertype checked named =>
          rw [not_final_of_supertype checked named] at final
          cases final
  | union single _ ih =>
      cases spread with
      | leaf final => cases final
      | union onward =>
          rw [single, List.append_nil] at onward
          exact ih onward
      | supertype _ named => cases named
  | annotated _ ih =>
      cases spread with
      | leaf final => cases final
      | annotated onward => exact ih onward
      | supertype _ named => cases named
  | supertype checked named _ ih =>
      cases spread with
      | leaf final =>
          rw [not_final_of_supertype checked named] at final
          cases final
      | union => cases named
      | annotated => cases named
      | supertype _ told onward =>
          rw [named] at told
          cases told
          exact ih onward

end Sole

end World

end MemberThunks
