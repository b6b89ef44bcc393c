import MemberThunks.Proofs.RepeatedMembers

set_option autoImplicit false

/- Classes with arguments. What is checked of a value is its class, so that a declared type is
   converted alike if the classes that stand in it, at any depth, lose their arguments. But a class
   with arguments is always cast to, also where the class itself is a value class. -/
namespace MemberThunks

namespace TypeForm

mutual

-- A declared type in which the classes have lost their arguments.
def bare : TypeForm → TypeForm
  | generic head origin arguments =>
    match (generic head origin arguments).origin? with
    | some target => cls target
    | Option.none => generic head origin arguments
  | union spelling members => union spelling (bareAll members)
  | annotated base metadata => annotated base.bare metadata
  | newType name base => newType name base.bare
  | form => form

def bareAll : List TypeForm → List TypeForm
  | [] => []
  | member :: rest => member.bare :: bareAll rest

end

mutual

-- The classes that stand with arguments in a declared type, and how these were given.
def parameterised : TypeForm → List (Head × ClassRef)
  | generic head origin arguments =>
    match (generic head origin arguments).origin? with
    | some target => [(head, target)]
    | Option.none => []
  | union _ members => parameterisedAll members
  | annotated base _ => base.parameterised
  | newType _ base => base.parameterised
  | _ => []

def parameterisedAll : List TypeForm → List (Head × ClassRef)
  | [] => []
  | member :: rest => member.parameterised ++ parameterisedAll rest

end

theorem bare_all (members : List TypeForm) : bareAll members = members.map bare := by
  induction members with
  | nil => rfl
  | cons member rest ih => rw [bareAll, ih, List.map_cons]

theorem parameterised_member {members : List TypeForm} {member : TypeForm}
    (listed : member ∈ members) {entry : Head × ClassRef} (found : entry ∈ member.parameterised) :
    entry ∈ parameterisedAll members := by
  induction members with
  | nil => cases listed
  | cons first rest ih =>
      rw [parameterisedAll, List.mem_append]
      rcases List.mem_cons.mp listed with rfl | later
      · exact .inl found
      · exact .inr (ih later)

theorem generic_origin {head : Head} {origin target : ClassRef} {arguments : List TypeForm}
    (named : (generic head origin arguments).origin? = some target) : target = origin := by
  unfold origin? at named
  split at named
  · cases named
  · rename_i same
    cases same
    cases named
    rfl
  · rename_i same
    cases same
  · rename_i same
    cases same
  · cases named

theorem bare_present {form : TypeForm} (present : form ≠ none) : form.bare ≠ none := by
  cases form
  case none => exact absurd rfl present
  case generic head origin arguments =>
    rw [bare]
    split <;> simp
  all_goals simp [bare]

end TypeForm

namespace World

-- A class the check of which does not hang on whether it has arguments. It is cast to, or it names
-- a supertype and its arguments do not hide that.
structure ChecksBare (world : World) (head : Head) (target : ClassRef) : Prop where
  checked : (TypeForm.cls target).isErased = false
  present : (TypeForm.cls target).isNoneType = false
  named : head ≠ .native → world.classSupertype? target = none
  inexact : world.classSupertype? target = none → world.isValueClass target = false

-- A declared type in which all classes with arguments are such classes.
def KeepsChecks (world : World) (form : TypeForm) : Prop :=
  ∀ entry ∈ form.parameterised, world.ChecksBare entry.1 entry.2

section Bare

variable {world known : World} {form : TypeForm} {depth : Nat} {nullable : Bool}

theorem bare_absent (keeps : known.KeepsChecks form) : form.bare.isNoneType = form.isNoneType := by
  cases form
  case generic head origin arguments =>
    rw [TypeForm.bare]
    split
    · rename_i target named
      have entry : (head, target) ∈ (TypeForm.generic head origin arguments).parameterised := by
        rw [TypeForm.parameterised, named]
        exact List.mem_singleton_self _
      exact (keeps _ entry).present
    · rfl
  all_goals rfl

theorem options_congr {convert : TypeForm → Except UnsupportedType (Option Conversion)}
    {members : List TypeForm} {change : TypeForm → TypeForm}
    (same : ∀ member ∈ members, convert (change member) = convert member) :
    optionsOf convert (members.map change) = optionsOf convert members := by
  induction members with
  | nil => rfl
  | cons member rest ih =>
      rw [List.map_cons, optionsOf, optionsOf, same member List.mem_cons_self,
        ih fun later listed => same later (List.mem_cons_of_mem _ listed)]

-- A class with arguments is converted as the class.
theorem bare_class {head : Head} {origin : ClassRef} {arguments : List TypeForm}
    (checks : known.ChecksBare head origin)
    (named : (TypeForm.generic head origin arguments).origin? = some origin) :
    known.conversionWithin (depth + 1) (.cls origin) nullable =
      known.conversionWithin (depth + 1) (.generic head origin arguments) nullable := by
  have supertypes : known.supertype? (.generic head origin arguments) =
      known.supertype? (.cls origin) := by
    cases head with
    | native => rfl
    | parametric => exact congrArg Except.ok (checks.named (by simp)).symm
    | vocabulary name => exact congrArg Except.ok (checks.named (by simp)).symm
  rw [within_undivided rfl, within_undivided rfl, checks.checked, supertypes,
    show (TypeForm.generic head origin arguments).isErased = false from rfl]
  cases none : known.classSupertype? origin with
  | some supertype => rw [show known.supertype? (.cls origin) = .ok (some supertype) by rw [supertype?, none]]
  | none =>
      rw [show known.supertype? (.cls origin) = .ok Option.none by rw [supertype?, none]]
      simp only [Bool.false_eq_true, if_false]
      rw [leaf_of_origin named]
      change (if known.isValueClass origin then _ else _) = _
      rw [checks.inexact none]
      rfl

theorem bare_within (keeps : known.KeepsChecks form) :
    known.conversionWithin depth form.bare nullable =
      known.conversionWithin depth form nullable := by
  induction depth generalizing form nullable with
  | zero => rfl
  | succ depth ih =>
      cases form
      case generic head origin arguments =>
        rw [TypeForm.bare]
        split
        · rename_i target named
          obtain rfl := TypeForm.generic_origin named
          refine bare_class (keeps (head, target) ?_) named
          rw [TypeForm.parameterised, named]
          exact List.mem_singleton_self _
        · rfl
      case union spelling members =>
        have each : ∀ member ∈ members, known.KeepsChecks member :=
          fun member listed entry found => keeps entry (TypeForm.parameterised_member listed found)
        obtain ⟨present, lists⟩ := present_map fun member listed => bare_absent (each member listed)
        have converted : optionsOf (fun member => known.conversionWithin depth member false)
            ((members.filter TypeForm.isPresent).map TypeForm.bare) =
              optionsOf (fun member => known.conversionWithin depth member false)
                (members.filter TypeForm.isPresent) :=
          options_congr fun member listed => ih (each member (List.mem_filter.mp listed).1)
        change (optionsOf _ ((TypeForm.bareAll members).filter TypeForm.isPresent) >>= fun options =>
          .ok (unionConversion (nullable || (TypeForm.bareAll members).any TypeForm.isNoneType)
            options)) = _
        rw [TypeForm.bare_all, present, lists, converted]
        rfl
      case annotated base metadata => exact ih keeps
      case newType name base =>
        by_cases present : base = .none
        · rw [present]
          rfl
        · rw [TypeForm.bare, within_supertype rfl (named_by_new_type name present),
            within_supertype rfl (named_by_new_type name (TypeForm.bare_present present))]
          exact ih keeps
      all_goals rfl

theorem checks_bare_told {head : Head} {target : ClassRef} (informed : world.Informed known)
    (checks : world.ChecksBare head target) : known.ChecksBare head target := by
  have unnamed : known.classSupertype? target = none ↔ world.classSupertype? target = none := by
    rcases class_supertype_told informed target with same | ⟨_, _, named, alsoNamed, _⟩
    · rw [same]
    · rw [named, alsoNamed]
      exact iff_of_false (by simp) (by simp)
  exact ⟨checks.checked, checks.present, fun other => unnamed.mpr (checks.named other),
    fun absent => (value_class_told informed target).trans (checks.inexact (unnamed.mp absent))⟩

theorem bare_converts (informed : world.Informed known) (keeps : world.KeepsChecks form) :
    known.conversionFor form.bare nullable = known.conversionFor form nullable :=
  bare_within fun entry found => checks_bare_told informed (keeps entry found)

-- A value class is cast to once it has arguments, though it is unboxed without them.
theorem value_class_cast {head : Head} {origin : ClassRef} {arguments : List TypeForm}
    (named : (TypeForm.generic head origin arguments).origin? = some origin)
    (checked : (TypeForm.cls origin).isErased = false)
    (bare : world.classSupertype? origin = none) (exact : world.isValueClass origin = true) :
    world.conversionFor (.generic head origin arguments) nullable =
        .ok (some (.cast (.cls origin) nullable)) ∧
      world.conversionFor (.cls origin) nullable =
        .ok (some (.unbox (.cls origin) nullable)) := by
  have unnamed : world.supertype? (.generic head origin arguments) = .ok none := by
    cases head with
    | native => exact congrArg Except.ok bare
    | parametric => rfl
    | vocabulary name => rfl
  constructor
  · change world.conversionWithin (999 + 1) _ _ = _
    rw [within_leaf rfl unnamed (by simp) (by simp) (by simp), leaf_of_origin named]
  · change world.conversionWithin (999 + 1) _ _ = _
    rw [within_leaf checked (congrArg Except.ok bare) (by simp) (by simp) (by simp)]
    exact if_pos exact

end Bare

end World

namespace Strategy

section Bare

variable {world : World} {form : TypeForm}

-- A declared type is converted as it is without the arguments of its classes, whatever is asked on
-- the way. If two members of a union become one by this, the union that is left asks less often,
-- and judges each value in the same way that does not notice this.
theorem arguments_change_no_check (keeps : world.KeepsChecks form) (caller : Caller)
    (nullable : Bool) (store : Store) :
    (conversion world caller form.bare nullable).run.run store =
        (conversion world caller form nullable).run.run store ∧
      ∀ made after,
        (conversion world caller form nullable).run.run store = (.ok made, after) →
        (∀ known, world.Informed known → known.Relistable form.bare) →
          ∃ known twin, world.Informed known ∧
            (conversion world caller form.bare.relisted nullable).run.run store =
              (.ok twin, after) ∧
            World.Alike made twin ∧
            ∀ (later : World) (asker : Caller) (value : Value) (before : Store),
              known.Unswayed later asker before value form.bare →
                Run.SameAnswer
                  ((Conversion.applyOptional later asker made value).execute before).1
                  ((Conversion.applyOptional later asker twin value).execute before).1 := by
  have alike : (conversion world caller form.bare nullable).run.run store =
      (conversion world caller form nullable).run.run store :=
    Making.settling_congr (fun known informed => World.bare_converts informed keeps) store
  refine ⟨alike, ?_⟩
  intro made after ran relistable
  rw [← alike] at ran
  obtain ⟨known, twin, informed, found, converted, kind, followed⟩ := relisted_made relistable ran
  refine ⟨known, twin, informed, followed, kind, ?_⟩
  intro later asker value before unswayed
  exact World.asked_alike_judge (World.relisted_replaces (relistable known informed)).asked kind
    found converted unswayed

end Bare

-- Rows that are numbers or texts, or an index of them that is declared under another name.
def rows : TypeForm :=
  .union .subscript [.generic .native (.builtin .list) [.cls (.builtin .int)],
    .generic .native (.builtin .list) [.cls (.builtin .str)],
    .newType "Index" (.generic .native (.builtin .dict) [.cls (.builtin .str),
      .cls (.builtin .int)])]

theorem rows_keep_checks : World.empty.KeepsChecks rows := by
  have entries : rows.parameterised = [(.native, .builtin .list), (.native, .builtin .list),
    (.native, .builtin .dict)] := rfl
  intro entry found
  rw [entries] at found
  simp only [List.mem_cons, List.not_mem_nil, or_false] at found
  rcases found with rfl | rfl | rfl <;>
    exact ⟨rfl, rfl, fun _ => by with_unfolding_all rfl, fun _ => by with_unfolding_all rfl⟩

theorem rows_relistable (known : World) : known.Relistable rows.bare := by
  have bared : rows.bare = .union .subscript [.cls (.builtin .list), .cls (.builtin .list),
    .newType "Index" (.cls (.builtin .dict))] := rfl
  rw [bared]
  refine .union ?_ ?_ ?_ (.inr (.inl (by decide)))
  · intro member listed
    simp only [List.mem_cons, List.not_mem_nil, or_false] at listed
    rcases listed with rfl | rfl | rfl <;> simp
  · intro member listed
    simp only [List.mem_cons, List.not_mem_nil, or_false] at listed
    rcases listed with rfl | rfl | rfl <;> exact .unchanged rfl
  · intro first listed member found equal
    refine .inl ?_
    simp only [TypeForm.relistedAll, TypeForm.relisted, List.mem_cons, List.not_mem_nil, or_false]
      at listed found
    rcases listed with rfl | rfl | rfl <;> rcases found with rfl | rfl | rfl <;>
      first
        | rfl
        | cases equal

theorem rows_askable {known : World} {leaf : TypeForm}
    (alternative : known.Alternative rows.bare leaf) : World.IsAskable leaf := by
  have spread : known.Spread [rows.bare]
      [.cls (.builtin .list), .cls (.builtin .list), .cls (.builtin .dict)] :=
    .union (.leaf rfl (.leaf rfl (.supertype rfl rfl (.leaf rfl .done))))
  have listed := (World.mem_spread spread leaf).mpr ⟨rows.bare, by simp, alternative⟩
  intro target named
  simp only [List.mem_cons, List.not_mem_nil, or_false] at listed
  rcases listed with rfl | rfl | rfl <;> cases named <;> trivial

-- Lists of whatever are rows, listed once where there were two types of them.
theorem rows_checked_without_arguments :
    World.empty.KeepsChecks rows ∧
    (∀ known, World.empty.Informed known → known.Relistable rows.bare) ∧
    ∃ made twin,
      (conversion .empty (World.empty.call World.callLimit) rows false).run.run .empty =
        (.ok made, .empty) ∧
      (conversion .empty (World.empty.call World.callLimit) rows.bare false).run.run .empty =
        (.ok made, .empty) ∧
      (conversion .empty (World.empty.call World.callLimit) rows.bare.relisted false).run.run
        .empty = (.ok twin, .empty) ∧
      World.Alike made twin ∧
      ∀ (asker : Caller) (value : Value), World.empty.Candid .empty value →
        Run.SameAnswer
          ((Conversion.applyOptional .empty asker made value).execute .empty).1
          ((Conversion.applyOptional .empty asker twin value).execute .empty).1 := by
  obtain ⟨made, ran⟩ : ∃ made, (conversion .empty (World.empty.call World.callLimit) rows
      false).run.run .empty = (.ok made, .empty) := ⟨_, rfl⟩
  obtain ⟨alike, judged⟩ := arguments_change_no_check rows_keep_checks
    (World.empty.call World.callLimit) false .empty
  obtain ⟨known, twin, _, followed, kind, same⟩ :=
    judged made .empty ran fun known _ => rows_relistable known
  refine ⟨rows_keep_checks, fun known _ => rows_relistable known, made, twin, ran,
    alike.trans ran, followed, kind, ?_⟩
  intro asker value candid
  exact same .empty asker value .empty
    (.candid candid fun leaf alternative _ => rows_askable alternative)

-- A value class with a type parameter, a class that derives from it, and a class with a type
-- parameter that names a supertype.
def ratios : World :=
  ((World.empty.declare { ClassDecl.ofMembers "Ratio" [] with
      bases := [.builtin .int], typeParameters := [.parameter "T" .invariant false] }).declare
    { ClassDecl.ofMembers "Half" [] with bases := [.declared 0] }).declare
    { ClassDecl.ofMembers "Share" [.value "__supertype__" (.cls (.builtin .int))] with
      typeParameters := [.parameter "T" .invariant false] }

-- How a value fails to be converted to a declared type in a world, if it fails.
def failureIn (world : World) (form : TypeForm) (value : Value) : Option FailureKind :=
  match (conversion world (world.call World.callLimit) form false).run.run .empty with
  | (.error fault, _) => some fault.failure.kind
  | (.ok made, store) =>
    match ((Conversion.applyOptional world (world.call World.callLimit) made
        value).execute store).1 with
    | .ok _ => none
    | .error raised => some raised.failure.kind

def texted (place : Nat) : TypeForm :=
  .generic .parametric (.declared place) [.cls (.builtin .str)]

-- With arguments the value class lets an object of a derived class through, and refuses a text as
-- what cannot be cast; and no argument of the other class lets a number stand for it.
theorem arguments_weaken_check :
    failureIn ratios (texted 0) (.wrapped 0 (.declared 1) (.int 5)) = none ∧
    failureIn ratios (texted 0).bare (.wrapped 0 (.declared 1) (.int 5)) = some .unbox ∧
    failureIn ratios (texted 0) (.text "a") = some .invalidCast ∧
    failureIn ratios (texted 0).bare (.text "a") = some .unbox ∧
    failureIn ratios (texted 2) (.int 5) = some .invalidCast ∧
    failureIn ratios (texted 2).bare (.int 5) = none :=
  ⟨by decide +kernel, by decide +kernel, by decide +kernel, by decide +kernel, by decide +kernel,
    by decide +kernel⟩

end Strategy

end MemberThunks
