import MemberThunks.Conversion.Basic
import MemberThunks.Proofs.ObjectAccess
import MemberThunks.Proofs.QuietRuns

set_option autoImplicit false

/- What the checks of conversions give and leave. A conversion gives back the value that it was
   given, if it gives anything; and it is quiet on a candid value, since all that a check asks of
   an object is the class that the object says it has. -/
namespace MemberThunks

namespace World

section Candid

variable {world : World} {call : Caller} {store : Store} {value : Value}

theorem candid_of_classes {other : Store} (same : other.classes = store.classes)
    (candid : world.Candid store value) : world.Candid other value := by
  rw [Candid, Store.current_of_classes same]
  exact candid

theorem candid_current (candid : world.Candid store value) :
    world.Candid store (store.current value) := by
  rw [Candid, store.current_current, store.address_current]
  exact candid

theorem attribute_of_get {name : String} {told : Value} {after : Store}
    (ran : (world.normalGet call value name).execute store = (.ok told, after)) :
    (world.attribute? call value name).execute store = (.ok (some told), after) := by
  have wrapped : (some <$> world.normalGet call value name : Run (Option Value)).execute store =
      (.ok (some told), after) := by
    have followed := run_map some (world.normalGet call value name) store
    rwa [show (world.normalGet call value name).run.run store = (.ok told, after) from ran]
      at followed
  simp only [attribute?, Run.execute, tryCatch, tryCatchThe, MonadExceptOf.tryCatch,
    ExceptT.tryCatch, ExceptT.run, ExceptT.mk, StateT.run, bind, StateT.bind]
  rw [show (some <$> world.normalGet call value name : Run (Option Value)) store =
    (.ok (some told), after) from wrapped]
  rfl

theorem verdict_quiet (kind : Abstract) (target : ClassRef) :
    Run.Quiet world store (world.verdict kind target) := by
  intro before _
  obtain ⟨after, ran, unmoved⟩ := verdict_agrees before kind target
  rw [ran]
  exact unmoved

theorem stated_class_quiet (candid : world.Candid store value) :
    Run.Quiet world store (world.statedClass call value) := by
  apply Run.quiet_of_still
  intro before same
  rw [statedClass]
  split
  · rename_i address kept
    rw [class_told_by_candid kept (candid_of_classes same candid)]
  · rfl

theorem claimed_class_quiet (candid : world.Candid store value) :
    Run.Quiet world store (world.claimedClass? call value) := by
  apply Run.quiet_of_still
  intro before same
  rw [claimedClass?]
  split
  · rfl
  · rename_i address kept
    rw [Run.execute_bind_ok
      (attribute_of_get (class_told_by_candid kept (candid_of_classes same candid)))]
    rfl

theorem abstract_instance_quiet (candid : world.Candid store value) (kind : Abstract) :
    Run.Quiet world store (world.isAbstractInstance call kind value) := by
  apply Run.quiet_bind (stated_class_quiet candid)
  intro told
  cases told
  case cls target =>
    apply Run.quiet_bind (verdict_quiet kind target)
    intro found
    cases found with
    | true => exact Run.quiet_pure true
    | false =>
        change Run.Quiet world store (if target = value.typeOf then pure false
          else world.verdict kind value.typeOf)
        split
        · exact Run.quiet_pure false
        · exact verdict_quiet kind value.typeOf
  all_goals exact Run.quiet_fail _

theorem instance_quiet (candid : world.Candid store value) (target : ClassRef) :
    Run.Quiet world store (world.isInstance call value target) := by
  -- a value is asked only by an abstract class and by a class that it does not derive from
  unfold isInstance
  split
  · exact Run.quiet_fail _
  · exact Run.quiet_fail _
  · split
    · exact Run.quiet_pure true
    · exact abstract_instance_quiet candid _
  · split <;> exact Run.quiet_pure _
  · split
    · exact Run.quiet_pure true
    · apply Run.quiet_bind (claimed_class_quiet candid)
      intro claimed
      cases claimed with
      | none => exact Run.quiet_pure false
      | some target => exact Run.quiet_pure _

theorem instance_unmoved {declaring : ClassRef} {outcome : Except Raised Bool} {after : Store}
    (candid : world.Candid store value)
    (ran : (world.isInstance call (store.current value) declaring).execute store =
      (outcome, after)) : world.Unmoved store after := by
  have kept : world.Unmoved store
      ((world.isInstance call (store.current value) declaring).execute store).2 :=
    instance_quiet (candid_current candid) declaring store rfl
  rwa [ran] at kept

theorem counts_as_quiet (target ancestor : ClassRef) :
    Run.Quiet world store (world.countsAs target ancestor) := by
  unfold countsAs
  split
  · exact verdict_quiet _ target
  · exact Run.quiet_pure _

theorem instance_of_member_quiet (form : TypeForm) :
    Run.Quiet world store (world.isInstanceOfMember value form) := by
  unfold isInstanceOfMember
  split <;> first | exact counts_as_quiet _ _ | exact Run.quiet_fail _

theorem instance_of_bar_member_quiet (candid : world.Candid store value) (form : TypeForm) :
    Run.Quiet world store (world.isInstanceOfBarMember call value form) := by
  unfold isInstanceOfBarMember
  split
  · exact instance_quiet candid _
  · exact Run.quiet_fail _
  · exact Run.quiet_pure false

mutual

theorem instance_of_quiet (candid : world.Candid store value) :
    ∀ form, Run.Quiet world store (world.isInstanceOf call value form)
  | .cls target => instance_quiet candid target
  | .shorthand _ target => counts_as_quiet value.typeOf target
  | .special _ => Run.quiet_fail _
  | .union .subscript members => by
      apply Run.quiet_any_of
      intro check listed
      obtain ⟨form, _, same⟩ := List.mem_map.mp listed
      exact same ▸ instance_of_member_quiet form
  | .union .bar members => by
      apply Run.quiet_any_of
      intro check listed
      obtain ⟨form, _, same⟩ := List.mem_map.mp listed
      exact same ▸ instance_of_bar_member_quiet candid form
  | .value content => instance_of_value_quiet candid content
  | .generic head _ _ => by cases head <;> exact Run.quiet_fail _
  | .none | .callable _ _ | .annotated _ _ | .newType _ _ | .literal _ _ | .parameter _ _ _
  | .text _ | .forward _ | .classVar _ | .final _ => Run.quiet_fail _
termination_by structural form => form

theorem instance_of_value_quiet (candid : world.Candid store value) :
    ∀ content, Run.Quiet world store (world.isInstanceOfValue call value content)
  | .cls target => instance_quiet candid target
  | .form written => instance_of_quiet candid written
  | .tuple items => instance_of_any_quiet candid items
  | .wrapped _ _ content => by
      cases content
      case tuple items => exact instance_of_any_quiet candid items
      all_goals exact Run.quiet_fail _
  | .none | .bool _ | .int _ | .float _ | .nan _ | .complex _ _ | .text _ | .octets _ | .buffer _
  | .list _ | .dict _ | .set _ | .frozenset _ | .object _ _ | .enumMember _ _ _ _ | .function _ _
  | .callable _ _ | .native _ | .bound _ _ | .foreign _ _ | .holder _ _ _ => Run.quiet_fail _
termination_by structural content => content

theorem instance_of_any_quiet (candid : world.Candid store value) :
    ∀ contents, Run.Quiet world store (world.isInstanceOfAny call value contents)
  | [] => Run.quiet_pure false
  | content :: rest => by
      apply Run.quiet_bind (instance_of_value_quiet candid content)
      intro found
      cases found with
      | true => exact Run.quiet_pure true
      | false => exact instance_of_any_quiet candid rest
termination_by structural contents => contents

end

end Candid

end World

namespace Conversion

theorem apply_then {α : Type} (world : World) (caller : Caller)
    (conversion : Conversion) (value : Value) (next : Value → Run α) :
    (conversion.apply world caller value >>= next) =
      conversion.apply world caller value >>= fun _ => next value := by
  simp only [Conversion.apply, bind_assoc]
  congr 1
  funext store
  by_cases absent : ((store.current value).isNone && conversion.nullable) = true
  · rw [if_pos absent, pure_bind, pure_bind]
  · rw [if_neg absent, bind_assoc, bind_assoc]
    congr 1
    funext accepted
    cases accepted with
    | true => simp
    | false => rfl

theorem apply_gives_back {world : World} {caller : Caller} {conversion : Conversion}
    {value result : Value} {store after : Store}
    (ran : (conversion.apply world caller value).execute store = (.ok result, after)) :
    result = value := by
  have followed := apply_then world caller conversion value pure
  rw [bind_pure] at followed
  have again : Run.execute (conversion.apply world caller value >>= fun _ => pure value) store =
      Run.execute (pure value) after := Run.execute_bind_ok ran
  rw [← followed, ran] at again
  injection again with same _
  exact Except.ok.inj same

theorem optional_gives_back {world : World} {caller : Caller} {conversion : Option Conversion}
    {value result : Value} {store after : Store}
    (ran : (applyOptional world caller conversion value).execute store = (.ok result, after)) :
    result = value := by
  cases conversion with
  | none =>
      cases ran
      rfl
  | some conversion => exact apply_gives_back ran

section Apply

variable {world : World} {caller : Caller} {conversion : Conversion} {value : Value} {store : Store}

theorem refusal_kind (world : World) (conversion : Conversion) (value : Value) :
    (conversion.refusal world value).failure.kind = .unbox ∨
      (conversion.refusal world value).failure.kind = .invalidCast := by
  cases conversion with
  | cast target nullable => exact .inr rfl
  | unbox target nullable => exact .inl rfl
  | union options nullable =>
      unfold refusal
      dsimp only
      split
      · exact .inl rfl
      · exact .inr rfl

-- What becomes of a value that is not let through unasked.
theorem apply_asks (asked : ((store.current value).isNone && conversion.nullable) = false) :
    (conversion.apply world caller value).execute store =
      ((conversion.accepts world caller (store.current value) >>= fun found =>
        if found then pure value
        else Run.fail (conversion.refusal world (store.current value)) : Run Value).execute
          store) := by
  have started : (get : Run Store).execute store = (.ok store, store) := rfl
  rw [apply, Run.execute_bind_ok started]
  simp only [asked, Bool.false_eq_true, if_false]

-- What becomes of a target that is to be narrowed to a class.
theorem cast_asks (world : World) (caller : Caller) (declaring : ClassRef) (target : Value)
    (store : Store) :
    ((Conversion.cast (.cls declaring) false).apply world caller target).execute store =
      ((world.isInstance caller (store.current target) declaring >>= fun found =>
        if found then pure target
        else Run.fail (.notCast ((store.current target).typeName world)
          ((TypeForm.cls declaring).name world)) : Run Value).execute store) := by
  have required : ((store.current target).isNone &&
      (Conversion.cast (.cls declaring) false).nullable) = false := by
    simp [Conversion.nullable]
  rw [apply_asks required]
  simp only [accepts, World.isInstanceOf, refusal, describe, Bool.false_eq_true, if_false]

theorem cast_admits {declaring : ClassRef} {target : Value} {after : Store}
    (admits : (world.isInstance caller (store.current target) declaring).execute store =
      (.ok true, after)) :
    ((Conversion.cast (.cls declaring) false).apply world caller target).execute store =
      (.ok target, after) := by
  rw [cast_asks, Run.execute_bind_ok admits]
  rfl

theorem apply_lets_through (absent : ((store.current value).isNone && conversion.nullable) = true) :
    (conversion.apply world caller value).execute store = (.ok value, store) := by
  have started : (get : Run Store).execute store = (.ok store, store) := rfl
  rw [apply, Run.execute_bind_ok started]
  simp only [absent, if_true]
  rfl

end Apply

section Candid

variable {world : World} {caller : Caller} {store : Store} {value : Value}

mutual

theorem accepts_quiet (candid : world.Candid store value) :
    ∀ conversion : Conversion, Run.Quiet world store (conversion.accepts world caller value)
  | .cast target _ => World.instance_of_quiet candid target
  | .unbox target _ => by cases target <;> exact Run.quiet_pure _
  | .union options _ => accepts_any_quiet candid options
termination_by structural conversion => conversion

theorem accepts_any_quiet (candid : world.Candid store value) :
    ∀ options : List Conversion, Run.Quiet world store (acceptsAny world caller value options)
  | [] => Run.quiet_pure false
  | option :: rest => by
      apply Run.quiet_bind (accepts_quiet candid option)
      intro accepted
      cases accepted with
      | true => exact Run.quiet_pure true
      | false => exact accepts_any_quiet candid rest
termination_by structural options => options

end

theorem apply_quiet (candid : world.Candid store value) (conversion : Conversion) :
    Run.Quiet world store (conversion.apply world caller value) := by
  apply Run.quiet_get
  intro before same
  rw [Store.current_of_classes same]
  dsimp only
  split
  · exact Run.quiet_pure value
  · apply Run.quiet_bind (accepts_quiet (World.candid_current candid) conversion)
    intro accepted
    cases accepted with
    | true => exact Run.quiet_pure value
    | false => exact Run.quiet_fail _

theorem optional_quiet (candid : world.Candid store value) (conversion : Option Conversion) :
    Run.Quiet world store (applyOptional world caller conversion value) := by
  cases conversion with
  | none => exact Run.quiet_pure value
  | some conversion => exact apply_quiet candid conversion

end Candid

end Conversion

end MemberThunks
