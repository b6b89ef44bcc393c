import MemberThunks.Member.Describe
import MemberThunks.Proofs.FieldThunks
import MemberThunks.Proofs.MemberReading

set_option autoImplicit false

/- The thunks of a field leave no room for the program. Once the target has been found to be an
   instance of the class that declares the field, the read and the store are direct ones, past
   every hook of the class of the target; so nothing is called but what that class itself resolves
   the name to, and nothing changes but what the place of the name holds. -/
namespace MemberThunks

namespace Builtin

-- An entry by which a class declares no field, by a type or by a slot.
def declaresNone : String × Attribute → Bool
  | ("__annotations__", .value _) => false
  | ("__slots__", .value (.tuple [])) => true
  | ("__slots__", _) => false
  | _ => true

theorem form_entries_declare_none (name : String) :
    (((FormEntries.ofClass? name).getD (reserved ["__doc__"])).all declaresNone) = true := by
  unfold FormEntries.ofClass?
  split <;> rfl

theorem accessors_declare_none (name : String) : ((accessors name).all declaresNone) = true := by
  unfold accessors
  split
  · rfl
  · split <;> rfl

theorem entries_declare_none (kind : Builtin) : (kind.entries.all declaresNone) = true := by
  unfold entries
  split
  case h_24 name => exact form_entries_declare_none name
  case h_26 home name _ _ _ _ =>
    rw [List.all_append, accessors_declare_none, Bool.true_and]
    split
    · by_cases aliased : name = "GenericAlias"
      · rw [if_pos aliased]
        rfl
      · rw [if_neg aliased]
        rfl
    · rfl
  all_goals rfl

end Builtin

namespace Describe

variable {world : World} {caller : Caller}

theorem own_of_builtin {kind : Builtin} {name : String} {held : Attribute}
    (found : world.ownAttribute? (.builtin kind) name = some held) :
    Builtin.declaresNone (name, held) = true := by
  have listed : (name, held) ∈ kind.entries := by
    obtain ⟨before, after, split, _⟩ := List.lookup_eq_some_iff.mp found
    rw [show kind.entries = before ++ (name, held) :: after from split]
    simp
  exact List.all_eq_true.mp kind.entries_declare_none _ listed

theorem builtin_declares_none (kind : Builtin) (name : String) :
    hasDeclaration world (.builtin kind) name = false := by
  cases found : world.ownValue? (.builtin kind) "__annotations__" with
  | none =>
      simp only [hasDeclaration, World.fieldsOf, found]
      rfl
  | some content =>
      unfold World.ownValue? at found
      split at found
      · rename_i own
        cases own_of_builtin own
      · cases found

theorem nothing_of_empty (world : World) (caller : Caller) :
    world.elements caller (.tuple []) = pure [] := by
  rfl

theorem builtin_has_no_slot (kind : Builtin) (name : String) (store : Store) :
    (hasSlot world caller (.builtin kind) name).run.run store = (.ok false, store) := by
  have listed : slots world caller (.builtin kind) = pure [] := by
    unfold slots
    cases found : world.ownAttribute? (.builtin kind) "__slots__" with
    | none => rfl
    | some held =>
        have empty := own_of_builtin found
        unfold Builtin.declaresNone at empty
        split at empty
        · cases empty
        · rename_i same
          cases same
          exact nothing_of_empty world caller
        · cases empty
        · rename_i other
          exact absurd rfl (other held)
  rw [hasSlot, listed]
  rfl

-- Whether a class declares a field, by a type or by a slot, where its declarations can be told.
def declares (world : World) (caller : Caller) (name : String) (target : ClassRef) :
    Describing Bool :=
  match declarationFault? world target with
  | some fault => throw fault
  | none =>
    if hasDeclaration world target name then pure true
    else asking .escaped (hasSlot world caller target name)

theorem declarer_cons (name : String) (target : ClassRef) (rest : List ClassRef) :
    declarer? world caller name (target :: rest) =
      declares world caller name target >>= fun found =>
        if found then pure (some target) else declarer? world caller name rest := by
  rw [declarer?, declares]
  cases declarationFault? world target with
  | some fault => rfl
  | none =>
      cases hasDeclaration world target name with
      | true => rfl
      | false => rfl

theorem placed_of_declares {name : String} {target : ClassRef} {before after : Store}
    (found : (declares world caller name target).run.run before = (.ok true, after)) :
    ∃ place, target.place? = some place := by
  cases target with
  | builtin kind =>
      rw [declares, builtin_declares_none] at found
      split at found
      · cases found
      · rw [if_neg Bool.false_ne_true, asking, run_adapt, builtin_has_no_slot] at found
        cases found
  | declared place => exact ⟨place, rfl⟩
  | enumeration place transparent => exact ⟨place, rfl⟩

-- A class that declares a field is one of the list, and a class of the world.
theorem declarer_tells {name : String} {classes : List ClassRef} {owner : ClassRef}
    {before after : Store}
    (told : (declarer? world caller name classes).run.run before = (.ok (some owner), after)) :
    owner ∈ classes ∧ ∃ place, owner.place? = some place := by
  induction classes generalizing before with
  | nil => cases told
  | cons target rest ih =>
      rw [declarer_cons] at told
      obtain ⟨found, between, asked, told⟩ := ok_of_run_bind told
      cases found with
      | true =>
          cases told
          exact ⟨List.mem_cons_self, placed_of_declares asked⟩
      | false =>
          obtain ⟨listed, placed⟩ := ih told
          exact ⟨List.mem_cons_of_mem _ listed, placed⟩

-- A field is described under its name, and as one of a class of the order that is of the world.
theorem field_tells {start : ClassRef} {name : String} {field : FieldMember}
    {before after : Store}
    (told : (Describe.field world caller start name).run.run before = (.ok field, after)) :
    field.name = name ∧ world.isSubclass start field.declaring = true ∧
      ∃ place, field.declaring.place? = some place := by
  rw [Describe.field] at told
  split at told
  · cases told
  · obtain ⟨found, between, declared, told⟩ := ok_of_run_bind told
    cases found with
    | none => cases told
    | some owner =>
        obtain ⟨listed, placed⟩ := declarer_tells declared
        obtain ⟨type, _, _, told⟩ := ok_of_run_bind told
        obtain ⟨_, _, _, told⟩ := ok_of_run_bind told
        cases told
        exact ⟨rfl, List.contains_iff_mem.mpr listed, placed⟩

end Describe

namespace World

-- What a class holds that a direct read calls nothing of.
def ReadsSilently (world : World) : Attribute → Prop
  | .property definition => definition.getter = none
  | .value content => world.operation? content "__get__" = none
  | _ => True

-- What a class holds that a direct store calls nothing of.
def StoresSilently (world : World) : Attribute → Prop
  | .property definition => definition.setter = none
  | .value content => world.operation? content "__set__" = none
  | _ => True

-- A class that has its objects read under a name without a call.
def ReadsDirectly (world : World) (target : ClassRef) (name : String) : Prop :=
  ∀ owner held, world.lookup target name = some (owner, held) → world.ReadsSilently held

-- A class that has its objects store under a name without a call. Under two names, which no class
-- has to define, an object is given another class or another dictionary.
structure StoresDirectly (world : World) (target : ClassRef) (name : String) : Prop where
  silent : ∀ owner held, world.lookup target name = some (owner, held) → world.StoresSilently held
  kept : ∀ owner, world.lookup target name = some (owner, .reserved) →
    name ≠ "__class__" ∧ name ≠ "__dict__"

section Direct

variable {world : World} {call : Caller} {store : Store} {target value : Value} {name : String}

theorem get_of_property {owner : ClassRef} {definition : Property}
    (found : world.lookup (store.current target).typeOf name = some (owner, .property definition))
    (unread : definition.getter = none) :
    ∃ outcome, (world.directGet call target name).execute store = (outcome, store) := by
  have started : (get : Run Store).execute store = (.ok store, store) := rfl
  rw [directGet, Run.execute_bind_ok started]
  dsimp only
  split
  · exact ⟨_, rfl⟩
  · rename_i same
    cases found.symm.trans same
    rw [unread]
    exact ⟨_, rfl⟩
  · rename_i same
    cases found.symm.trans same
  · rename_i same
    cases found.symm.trans same
  · rename_i same
    cases found.symm.trans same
  · rename_i other _ _ _
    exact absurd found (other owner definition)

theorem direct_get_silent (direct : world.ReadsDirectly (store.current target).typeOf name) :
    ∃ outcome, (world.directGet call target name).execute store = (outcome, store) := by
  by_cases guarded : ∃ owner definition,
      world.lookup (store.current target).typeOf name = some (owner, .property definition)
  · obtain ⟨owner, definition, found⟩ := guarded
    exact get_of_property found (direct owner _ found)
  · have inert : ∀ owner held, world.lookup (store.current target).typeOf name =
        some (owner, held) → world.Inert held := by
      intro owner held found
      have silent := direct owner held found
      cases held with
      | property definition => exact guarded ⟨owner, definition, found⟩
      | value content => exact silent
      | static _ | classBound _ | native _ | slot | reserved => trivial
    obtain ⟨outcome, ran, _⟩ := direct_get_inert call inert
    exact ⟨outcome, ran⟩

theorem reserved_puts {object : Value} {owner : ClassRef}
    (found : world.lookup object.typeOf name = some (owner, .reserved))
    (kept : name ≠ "__class__" ∧ name ≠ "__dict__") :
    world.Puts object value name store (world.storeReserved owner object name value) := by
  unfold storeReserved
  split
  · exact .inr ⟨_, rfl⟩
  · exact absurd rfl kept.1
  · exact absurd rfl kept.2
  · apply entry_puts
    intro holder slotted
    cases found.symm.trans slotted

-- A direct store that calls nothing puts the value in the place of the name, or fails and leaves
-- all as it was.
theorem direct_set_silent (direct : world.StoresDirectly (store.current target).typeOf name) :
    world.Puts (store.current target) value name store
      (world.directSet call target name value) := by
  have started : (get : Run Store).execute store = (.ok store, store) := rfl
  rw [Puts, directSet, Run.execute_bind_ok started, ← Puts]
  dsimp only
  split
  · exact .inr ⟨_, rfl⟩
  · split
    · rename_i owner definition found
      have unset : definition.setter = none := direct.silent owner _ found
      rw [unset]
      exact .inr ⟨_, rfl⟩
    · rename_i owner found
      exact slot_puts found
    · rename_i owner found
      exact reserved_puts found (direct.kept owner found)
    · rename_i owner content found
      have unset : world.operation? content "__set__" = none := direct.silent owner _ found
      rw [unset]
      dsimp only
      split
      · exact .inr ⟨_, rfl⟩
      · apply entry_puts
        intro holder slotted
        cases found.symm.trans slotted
    · rename_i unslotted _ _
      exact entry_puts fun owner slotted => unslotted owner slotted

end Direct

end World

namespace Conversion

mutual

-- Whether a conversion asks for the class of the value by more than its own class.
def asks : Conversion → Bool
  | cast _ _ => true
  | unbox _ _ => false
  | union options _ => anyAsks options
termination_by structural conversion => conversion

def anyAsks : List Conversion → Bool
  | [] => false
  | option :: rest => option.asks || anyAsks rest
termination_by structural options => options

end

section Unasking

variable {world : World} {call : Caller} {value : Value}

mutual

theorem accepts_unasked (conversion : Conversion) (unasking : conversion.asks = false) :
    ∃ found, conversion.accepts world call value = pure found := by
  cases conversion with
  | cast target nullable => cases unasking
  | unbox target nullable =>
      cases target <;> exact ⟨_, rfl⟩
  | union options nullable =>
      rw [asks] at unasking
      rw [accepts]
      exact accepts_any_unasked options unasking

theorem accepts_any_unasked (options : List Conversion) (unasking : anyAsks options = false) :
    ∃ found, acceptsAny world call value options = pure found := by
  cases options with
  | nil => exact ⟨false, rfl⟩
  | cons option rest =>
      rw [anyAsks, Bool.or_eq_false_iff] at unasking
      obtain ⟨found, first⟩ := accepts_unasked option unasking.1
      rw [acceptsAny, first, pure_bind]
      cases found with
      | true => exact ⟨true, rfl⟩
      | false => exact accepts_any_unasked rest unasking.2

end

theorem apply_unasked {conversion : Conversion} (unasking : conversion.asks = false)
    (store : Store) :
    ∃ outcome, (conversion.apply world call value).execute store = (outcome, store) := by
  by_cases absent : ((store.current value).isNone && conversion.nullable) = true
  · exact ⟨_, apply_lets_through absent⟩
  · obtain ⟨found, answered⟩ : ∃ found,
        conversion.accepts world call (store.current value) = pure found :=
      accepts_unasked conversion unasking
    rw [apply_asks (Bool.eq_false_iff.mpr absent), answered, pure_bind]
    cases found with
    | true => exact ⟨_, rfl⟩
    | false => exact ⟨_, rfl⟩

-- A value that no conversion asks, or that is asked in the way of the language, is converted
-- without a trace.
theorem optional_unmoved {conversion : Option Conversion} {store after : Store}
    {outcome : Except Raised Value}
    (candid : conversion.any asks = true → world.Candid store value)
    (ran : (applyOptional world call conversion value).execute store = (outcome, after)) :
    world.Unmoved store after := by
  by_cases asking : conversion.any asks = true
  · have quiet : Run.Quiet world store (applyOptional world call conversion value) :=
      optional_quiet (candid asking) conversion
    have unmoved := quiet store rfl
    rwa [ran] at unmoved
  · cases conversion with
    | none =>
        cases ran
        exact world.unmoved_refl store
    | some present =>
        have unasking : present.asks = false := Bool.eq_false_iff.mpr asking
        obtain ⟨given, still⟩ : ∃ outcome,
            (present.apply world call value).execute store = (outcome, store) :=
          apply_unasked unasking store
        cases still.symm.trans ran
        exact world.unmoved_refl store

end Unasking

end Conversion

namespace World

-- What has called nothing, and changed at most what the place of one name of an object holds.
structure ChangesOnly (world : World) (object : Value) (name : String) (before after : Store) :
    Prop where
  held : ∀ place query, after.heldAt? query place ≠ before.heldAt? query place →
    query = name ∧ world.placeOf? object name = some place
  trace : after.trace = before.trace
  classes : after.classes = before.classes
  fresh : after.fresh = before.fresh
  pool : after.pool = before.pool

section Changes

variable {world : World} {object : Value} {name : String} {before after : Store}

theorem changes_of_unmoved (unmoved : world.Unmoved before after) :
    world.ChangesOnly object name before after where
  held := fun place query changed => absurd (Store.held_of_alike unmoved.alike query place) changed
  trace := unmoved.alike.trace
  classes := unmoved.alike.classes
  fresh := unmoved.alike.fresh
  pool := unmoved.alike.pool

theorem changes_of_put {between : Store} (unmoved : world.Unmoved before between) {place : Place}
    (kept : world.placeOf? object name = some place) (value : Value) :
    world.ChangesOnly object name before (between.putAt name value place) := by
  obtain ⟨trace, classes, fresh, pool⟩ := Store.put_beside between name value place
  refine ⟨?_, trace.trans unmoved.alike.trace, classes.trans unmoved.alike.classes,
    fresh.trans unmoved.alike.fresh, pool.trans unmoved.alike.pool⟩
  intro asked query changed
  by_cases same : (asked, query) = (place, name)
  · cases same
    exact ⟨rfl, kept⟩
  · rw [Store.held_put_other same, Store.held_of_alike unmoved.alike] at changed
    exact absurd rfl changed

end Changes

end World

section Fields

variable {world : World} {caller : Caller} {field : FieldMember} {target : Value} {store : Store}
  {place : Nat}

theorem Reading.fetch_direct (placed : field.declaring.place? = some place)
    (derives : world.isSubclass (store.current target).typeOf field.declaring = true)
    (direct : world.ReadsDirectly (store.current target).typeOf field.name) :
    ∃ outcome, (fetch world caller field target).execute store = (outcome, store) := by
  rw [fetch, Run.execute_bind_ok (World.narrow_of_subclass placed derives)]
  exact World.direct_get_silent direct

theorem Writing.checked_direct {conversion : Option Conversion} {value : Value}
    (placed : field.declaring.place? = some place)
    (derives : world.isSubclass (store.current target).typeOf field.declaring = true)
    (candid : conversion.any Conversion.asks = true → world.Candid store value)
    (direct : world.StoresDirectly (store.current target).typeOf field.name) :
    ∃ outcome after, (checked world caller (.field field) conversion target value).execute store =
        (outcome, after) ∧
      world.ChangesOnly (store.current target) field.name store after := by
  have narrowed : ((Conversion.cast (.cls (Member.field field).declaring) false).apply world caller
      target).execute store = (.ok target, store) := World.narrow_of_subclass placed derives
  rw [checked, Run.execute_bind_ok narrowed]
  cases converting : (Conversion.applyOptional world caller conversion value).execute store with
  | mk outcome ready =>
      have unmoved := Conversion.optional_unmoved candid converting
      cases outcome with
      | error raised =>
          rw [Run.execute_bind_error converting]
          exact ⟨_, ready, rfl, World.changes_of_unmoved unmoved⟩
      | ok result =>
          have same := Store.current_of_alike unmoved.alike target
          rw [Run.execute_bind_ok converting, storing]
          have puts : world.Puts (ready.current target) value field.name ready
              (world.directSet caller target field.name value) :=
            World.direct_set_silent (by rwa [same])
          rcases puts with ⟨spot, kept, put⟩ | ⟨raised, failed⟩
          · rw [Run.execute_bind_ok put]
            rw [same] at kept
            exact ⟨_, _, rfl, World.changes_of_put unmoved kept value⟩
          · rw [Run.execute_bind_error failed]
            exact ⟨_, ready, rfl, World.changes_of_unmoved unmoved⟩

end Fields

namespace Strategy

section Thunks

variable {world : World} {caller : Caller} {before after : Store}

end Thunks

-- A class with a field and one that keeps its dictionary in a field, a class that derives from the
-- first and has every hook, one that derives from it and has a property of the name, and a class
-- whose objects are seen when they are asked for their class.
def hatches : World :=
  ((((World.empty.declare (.ofMembers "Shelf" [.field "x" (.cls (.builtin .str)) none])).declare
    { ClassDecl.ofMembers "Hooked" [] with
      bases := [.declared 0]
      guard := some "locked"
      mask := some [("x", .int 5)]
      fallback := some [("x", .int 7)] }).declare
    { ClassDecl.ofMembers "Signed" [.property "x" (some (.routine
        ⟨some (Formal.named "self"), [], none, [.give (.constant (.text "signed"))]⟩)) none] with
      bases := [.declared 0] }).declare
    (.ofMembers "Claimant" [.property "__class__" (some (.routine
      ⟨some (Formal.named "self"), [], none, [.give (.constant (.cls (.builtin .str)))]⟩))
      none])).declare
    (.ofMembers "Box" [.field "__dict__" (.cls .object) none])

def hatchCaller : Caller := hatches.call World.callLimit

def hatchField : FieldMember := ⟨.declared 0, "x", .cls (.builtin .str)⟩

def boxField : FieldMember := ⟨.declared 4, "__dict__", .cls .object⟩

theorem hatch_described : (Describe.field hatches hatchCaller (.declared 0) "x").run.run .empty =
    (.ok hatchField, .empty) := by
  with_unfolding_all rfl

theorem box_described : (Describe.field hatches hatchCaller (.declared 4) "__dict__").run.run
    .empty = (.ok boxField, .empty) := by
  with_unfolding_all rfl

end Strategy

end MemberThunks
