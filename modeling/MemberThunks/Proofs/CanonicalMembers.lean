import MemberThunks.Proofs.MemberKinds
import MemberThunks.Proofs.ResolutionOrder
import MemberThunks.Proofs.VirtualWrites

set_option autoImplicit false

/- A member is described at the class that declares it as at any class that comes to it. The two
   searches for it, of namespaces and of field declarations, both begin with the class itself there:
   so a method or property is the same at the class whose namespace has it, and a field at the class
   that declares it, unless that class itself resolves the name to what is no field. -/
namespace MemberThunks

namespace World

variable {world : World}

theorem ordered_of_listed (built : world.Built) {target ancestor : ClassRef}
    (known : world.Has target) (listed : ancestor ∈ world.order target) :
    world.Ordered ancestor :=
  have linear := built_linear built
  linear ancestor ((linear target known).known ancestor listed)

-- A class that has a name in its own namespace resolves the name to that.
theorem lookup_of_own {target : ClassRef} {name : String} {found : Attribute}
    (ordered : world.Ordered target) (own : world.ownAttribute? target name = some found) :
    world.lookup target name = some (target, found) := by
  obtain ⟨rest, starts⟩ := ordered.starts
  rw [lookup, starts, lookupAlong, List.findSome?_cons, own]
  rfl

theorem lookup_at_holder (built : world.Built) {target holder : ClassRef} {name : String}
    {found : Attribute} (known : world.Has target)
    (resolved : world.lookup target name = some (holder, found)) :
    world.lookup holder name = some (holder, found) := by
  obtain ⟨listed, own⟩ := held_of_lookup resolved
  exact lookup_of_own (ordered_of_listed built known listed) own

end World

namespace Value

theorem one_of_texts (left right : String) : (text left).isOne (text right) = (left == right) := by
  change (!(text left).isFresh && (text left).typeOf == (text right).typeOf &&
    (text left).equal (text right)) = _
  rw [equal]
  rfl

def plainText? : Value → Option String
  | text content => some content
  | _ => Option.none

theorem texts_of_plain {items : List Value} {names : List String}
    (plain : items.mapM plainText? = some names) : items = names.map text := by
  induction items generalizing names with
  | nil =>
      cases plain
      rfl
  | cons item rest ih =>
      rw [List.mapM_cons] at plain
      obtain ⟨name, first, plain⟩ := Option.bind_eq_some_iff.mp plain
      obtain ⟨others, later, same⟩ := Option.bind_eq_some_iff.mp plain
      cases same
      unfold plainText? at first
      split at first
      · cases first
        rw [List.map_cons, ← ih later]
      · cases first

end Value

namespace Describe

-- The slots that a class names by texts alone, if it does so.
def plainSlots? (world : World) (target : ClassRef) : Option (List String) :=
  match world.ownAttribute? target "__slots__" with
  | none => some []
  | some (.value (.text slot)) => some [slot]
  | some (.value (.tuple items)) | some (.value (.list items)) => items.mapM Value.plainText?
  | _ => none

section Slots

variable {world : World} {caller : Caller} {target : ClassRef}

theorem same_of_texts (left right : String) :
    world.isSame caller (.text left) (.text right) = pure (left == right) := by
  unfold World.isSame World.nestingDepth
  rw [World.same, Value.one_of_texts]
  cases same : left == right with
  | true => rfl
  | false =>
      rw [World.alike]
      change World.alikeInside _ _ _ _ _ = _
      rw [World.alikeInside]
      change (pure ((Value.text left).equal (.text right)) : Run Bool) = _
      rw [Value.equal]
      exact congrArg pure same

theorem listed_of_plain {names : List String} (plain : plainSlots? world target = some names) :
    slots world caller target = pure (names.map Value.text) := by
  unfold plainSlots? at plain
  unfold slots
  split at plain
  · rename_i absent
    cases plain
    rw [absent]
    rfl
  · rename_i held
    cases plain
    rw [held]
    rfl
  · rename_i items held
    rw [held, Value.texts_of_plain plain]
    rfl
  · rename_i items held
    rw [held, Value.texts_of_plain plain]
    rfl
  · cases plain

-- A class that names its slots by texts is asked for one without a call.
theorem has_slot_of_plain {names : List String} (plain : plainSlots? world target = some names)
    (name : String) : hasSlot world caller target name = pure (names.any (· == name)) := by
  rw [hasSlot, listed_of_plain plain, pure_bind]
  clear plain
  induction names with
  | nil => rfl
  | cons slot rest ih =>
      rw [List.map_cons, List.map_cons, Run.anyOf, same_of_texts, pure_bind, List.any_cons]
      cases slot == name with
      | true => rfl
      | false => exact ih

end Slots

section Declarers

variable {world : World} {caller : Caller} {name : String}

-- The class that is found stands behind classes that declare no such field, and is found first of
-- any list that it begins.
theorem declarer_splits {classes : List ClassRef} {owner : ClassRef} {before after : Store}
    (told : (declarer? world caller name classes).run.run before = (.ok (some owner), after)) :
    ∃ ahead behind between, classes = ahead ++ owner :: behind ∧
      (declarer? world caller name ahead).run.run before = (.ok none, between) ∧
      ∀ others, (declarer? world caller name (owner :: others)).run.run between =
        (.ok (some owner), after) := by
  induction classes generalizing before with
  | nil => cases told
  | cons target rest ih =>
      rw [declarer_cons] at told
      obtain ⟨found, between, asked, told⟩ := ok_of_run_bind told
      cases found with
      | true =>
          cases told
          refine ⟨[], rest, before, rfl, rfl, fun others => ?_⟩
          rw [declarer_cons, run_bind, asked]
          rfl
      | false =>
          obtain ⟨ahead, behind, middle, split, none, first⟩ := ih told
          refine ⟨target :: ahead, behind, middle, congrArg (target :: ·) split, ?_, first⟩
          rw [declarer_cons, run_bind, asked]
          exact none

-- A class whose slots are asked for one without a trace.
def AskedStill (world : World) (caller : Caller) (target : ClassRef) (name : String) : Prop :=
  ∀ store, ((hasSlot world caller target name).run.run store).2 = store

theorem asked_still_of_plain {target : ClassRef} {names : List String}
    (plain : plainSlots? world target = some names) : AskedStill world caller target name := by
  intro store
  rw [has_slot_of_plain plain]
  rfl

theorem declares_still {target : ClassRef} (still : AskedStill world caller target name)
    (store : Store) : ((declares world caller name target).run.run store).2 = store := by
  unfold declares
  split
  · rfl
  · split
    · rfl
    · rw [asking, run_adapt]
      exact still store

theorem declarer_still {classes : List ClassRef}
    (still : ∀ target ∈ classes, AskedStill world caller target name) (store : Store) :
    ((declarer? world caller name classes).run.run store).2 = store := by
  induction classes with
  | nil => rfl
  | cons target rest ih =>
      have here := declares_still (still target List.mem_cons_self) store
      rw [declarer_cons, run_bind]
      split
      · rename_i found after asked
        rw [asked] at here
        cases here
        cases found with
        | true => rfl
        | false => exact ih fun other listed => still other (List.mem_cons_of_mem _ listed)
      · rename_i asked
        rwa [asked] at here

end Declarers

section Holders

variable {world : World} {caller : Caller} {target other : ClassRef} {name : String}
  {before after : Store}

-- A field is described again at the class that declares it, from what the classes ahead of it have
-- left, unless that class resolves the name to what is no field.
theorem field_at_declarer {told : FieldMember}
    (given : (field world caller target name).run.run before = (.ok told, after)) :
    told.name = name ∧ ∃ ahead behind between,
      world.order target = ahead ++ told.declaring :: behind ∧
      (declarer? world caller name ahead).run.run before = (.ok none, between) ∧
      (world.Ordered told.declaring → hiding? world told.declaring name = none →
        (field world caller told.declaring name).run.run between = (.ok told, after)) := by
  rw [field] at given
  split at given
  · cases given
  · obtain ⟨found, declared, searched, given⟩ := ok_of_run_bind given
    cases found with
    | none => cases given
    | some owner =>
        obtain ⟨ahead, behind, between, split, none, first⟩ := declarer_splits searched
        have made := given
        obtain ⟨type, typed, _, made⟩ := ok_of_run_bind made
        obtain ⟨_, _, _, made⟩ := ok_of_run_bind made
        cases made
        refine ⟨rfl, ahead, behind, between, split, none, fun ordered open_ => ?_⟩
        obtain ⟨rest, starts⟩ := ordered.starts
        rw [field, open_]
        dsimp only
        rw [starts, run_bind, first rest]
        exact given

theorem method_at_holder {told : MethodMember}
    (given : (method world caller target name).run.run before = (.ok told, after)) :
    told.name = name ∧ ∃ found, world.lookup target name = some (told.declaring, found) := by
  rw [method] at given
  split at given
  · cases given
  · rename_i owner found resolved
    obtain ⟨called, _, _, given⟩ := ok_of_run_bind given
    obtain ⟨formals, _, _, given⟩ := ok_of_run_bind given
    obtain ⟨hints, last, _, given⟩ := ok_of_run_bind given
    cases made : methodMember world owner name called.attachment formals hints with
    | error fault =>
        rw [made] at given
        cases given
    | ok details =>
        rw [made] at given
        cases given
        obtain ⟨parameters, _, made⟩ := ok_of_bind made
        obtain ⟨_, _, made⟩ := ok_of_bind made
        cases made
        exact ⟨rfl, found, resolved⟩

theorem property_of_kind {owner : ClassRef} {found : Attribute}
    (kind : kindOf world (some (owner, found)) = .property) :
    ∃ definition, found = .property definition := by
  have guarded : found.isProperty = true := by
    cases guarded : found.isProperty with
    | true => rfl
    | false =>
        simp only [kindOf, guarded, Bool.false_eq_true, if_false] at kind
        split at kind <;> cases kind
  cases found with
  | property definition => exact ⟨definition, rfl⟩
  | value _ | static _ | classBound _ | native _ | slot | reserved => cases guarded

-- Classes that resolve a name to the same have the same member there, if it is no field.
theorem member_of_resolved {entry : ClassRef × Attribute}
    (here : world.lookup target name = some entry) (there : world.lookup other name = some entry)
    (unfielded : kindOf world (some entry) ≠ .field) :
    member world caller target name = member world caller other name := by
  obtain ⟨owner, found⟩ := entry
  rw [member_by_kind, member_by_kind, here, there]
  split
  · rw [method, method, here, there]
  · rename_i kind
    obtain ⟨definition, rfl⟩ := property_of_kind kind
    rw [property, property, here, there]
  · rename_i kind
    exact absurd kind unfielded

end Holders

-- A class with a method, one that derives from it and declares a field of the name of the method,
-- and one that derives from that and has a plain value under the name.
def casks : World :=
  ((World.empty.declare (.ofMembers "Cask" [.method "x" .toTarget (.routine
    ⟨some (Formal.named "self"), [], none, [.give (.constant (.int 1))]⟩)])).declare
    { ClassDecl.ofMembers "Barrel" [.field "x" (.cls (.builtin .int)) none,
        .field "y" (.cls (.builtin .str)) none] with
      bases := [.declared 0] }).declare
    { ClassDecl.ofMembers "Keg" [.value "x" (.int 5)] with
      bases := [.declared 1]
      slots := some ["z"] }

def caskCaller : Caller := casks.call World.callLimit

theorem casks_built : casks.Built :=
  .declared (.declared (.declared .empty _ (List.forall_mem_nil _)) _
    (List.forall_mem_singleton.mpr (.placed rfl rfl))) _
    (List.forall_mem_singleton.mpr (.placed rfl rfl))

theorem keg_known : casks.Has (.declared 2) := .placed rfl rfl

theorem keg_described : (member casks caskCaller (.declared 2) "y").run.run .empty =
    (.ok (.field ⟨.declared 1, "y", .cls (.builtin .str)⟩), .empty) := by
  with_unfolding_all rfl

end Describe

end MemberThunks
