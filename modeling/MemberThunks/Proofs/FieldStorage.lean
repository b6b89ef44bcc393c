import MemberThunks.Proofs.ObjectAccess
import MemberThunks.Proofs.Verdicts

set_option autoImplicit false

/- Where objects keep what is stored under a name: in the dictionary of the object, or in a slot
   that one of its classes declares. A place holds what was last put there, and putting something
   there changes no other place; and direct reads and direct stores of a name meet in one place,
   if no property or other descriptor of the class comes between. -/
namespace MemberThunks

inductive Place where
  | entry (address : Nat)
  | slot (address : Nat) (owner : ClassRef)
deriving DecidableEq

namespace Store

def heldAt? (store : Store) (name : String) : Place → Option Value
  | .entry address => store.attributeOf? address name
  | .slot address owner => store.slot? address owner name

def putAt (store : Store) (name : String) (value : Value) : Place → Store
  | .entry address => store.putEntry address name value
  | .slot address owner => store.putSlot address owner name value

section Place

variable {store other : Store} {name : String} {value : Value} {place : Place}

theorem slot_put_slot (store : Store) (address asked : Nat) (owner holder : ClassRef)
    (name query : String) (value : Value) :
    (store.putSlot address owner name value).slot? asked holder query =
      if asked = address ∧ holder = owner ∧ query = name then some value
      else store.slot? asked holder query := by
  unfold putSlot slot?
  rw [record_update]
  by_cases same : asked = address
  · subst same
    by_cases hit : (holder, query) = (owner, name)
    · cases hit
      simp [Entries.lookup_put_self]
    · have apart : ¬ (holder = owner ∧ query = name) := by
        rintro ⟨rfl, rfl⟩
        exact hit rfl
      simp [Entries.lookup_put_of_ne hit, apart]
  · simp [same]

theorem held_put_self (store : Store) (name : String) (value : Value) (place : Place) :
    (store.putAt name value place).heldAt? name place = some value := by
  cases place with
  | entry address =>
      rw [putAt, heldAt?, entry_put_entry, if_pos ⟨rfl, rfl⟩]
  | slot address owner =>
      rw [putAt, heldAt?, slot_put_slot, if_pos ⟨rfl, rfl, rfl⟩]

theorem held_put_other {asked : Place} {query : String} (apart : (asked, query) ≠ (place, name)) :
    (store.putAt name value place).heldAt? query asked = store.heldAt? query asked := by
  cases place with
  | entry address =>
      cases asked with
      | entry other =>
          rw [putAt, heldAt?, entry_put_entry, if_neg]
          · rfl
          · rintro ⟨rfl, rfl⟩
            exact apart rfl
      | slot other holder =>
          rw [putAt, heldAt?, putEntry, slot?, record_update]
          split
          · rename_i same
            rw [same]
            rfl
          · rfl
  | slot address owner =>
      cases asked with
      | entry other =>
          rw [putAt, heldAt?, putSlot, attributeOf?, record_update]
          split
          · rename_i same
            rw [same]
            rfl
          · rfl
      | slot other holder =>
          rw [putAt, heldAt?, slot_put_slot, if_neg]
          · rfl
          · rintro ⟨rfl, rfl, rfl⟩
            exact apart rfl

theorem update_update (store : Store) (address : Nat) (first second : Record → Record) :
    (store.update address first).update address second =
      store.update address fun record => second (first record) := by
  have changed : (store.update address first).record address = first (store.record address) := by
    rw [record_update, if_pos rfl]
  rw [update, changed]
  simp only [update, Entries.put_put]

theorem put_put (store : Store) (name : String) (first second : Value) (place : Place) :
    (store.putAt name first place).putAt name second place = store.putAt name second place := by
  cases place with
  | entry address => simp only [putAt, putEntry, update_update, Entries.put_put]
  | slot address owner => simp only [putAt, putSlot, update_update, Entries.put_put]

-- A change that leaves a record as it is leaves the store as it is, if there is a record.
theorem update_held (change : Record → Record) {address : Nat} {record : Record}
    (found : store.records.lookup address = some record) (still : change record = record) :
    store.update address change = store := by
  have known : store.record address = record := by
    rw [Store.record, found]
    rfl
  rw [update, known, still, Entries.put_held found]

theorem put_held (held : store.heldAt? name place = some value) :
    store.putAt name value place = store := by
  -- a place that holds something is in a record
  have recorded : ∀ address (part : Record → Option Value), part .empty = none →
      part (store.record address) = some value →
      ∃ record, store.records.lookup address = some record ∧ part record = some value := by
    intro address part nothing found
    rw [record] at found
    cases known : store.records.lookup address with
    | some record =>
        rw [known] at found
        exact ⟨record, rfl, found⟩
    | none =>
        rw [known, Option.getD_none, nothing] at found
        cases found
  cases place with
  | entry address =>
      obtain ⟨record, found, kept⟩ := recorded address (·.entries.lookup name) rfl held
      apply update_held (fun record => { record with entries := record.entries.put name value }) found
      rw [Entries.put_held kept]
  | slot address owner =>
      obtain ⟨record, found, kept⟩ := recorded address (·.slots.lookup (owner, name)) rfl held
      apply update_held
        (fun record => { record with slots := record.slots.put (owner, name) value }) found
      rw [Entries.put_held kept]

theorem put_alike (alike : store.Alike other) (name : String) (value : Value) (place : Place) :
    (store.putAt name value place).Alike (other.putAt name value place) := by
  have records : ∀ address change,
      (other.update address change).records = (store.update address change).records := by
    intro address change
    simp only [update, record, alike.records]
  cases place with
  | entry address =>
      exact ⟨records address _, alike.trace, alike.classes, alike.fresh, alike.pool⟩
  | slot address owner =>
      exact ⟨records address _, alike.trace, alike.classes, alike.fresh, alike.pool⟩

theorem held_of_alike (alike : store.Alike other) (name : String) (place : Place) :
    other.heldAt? name place = store.heldAt? name place := by
  cases place <;> simp only [heldAt?, attributeOf?, slot?, record, alike.records]

theorem put_beside (store : Store) (name : String) (value : Value) (place : Place) :
    (store.putAt name value place).trace = store.trace ∧
      (store.putAt name value place).classes = store.classes ∧
      (store.putAt name value place).fresh = store.fresh ∧
      (store.putAt name value place).pool = store.pool := by
  cases place <;> exact ⟨rfl, rfl, rfl, rfl⟩

end Place

end Store

namespace World

-- Whether a class resolves a name to no descriptor that says how it is stored, other than a slot.
def isUnguarded (world : World) (target : ClassRef) (name : String) : Bool :=
  match world.lookup target name with
  | some (_, .property _) | some (_, .reserved) => false
  | some (_, .value content) =>
    (world.operation? content "__set__").isNone && (world.operation? content "__delete__").isNone
  | _ => true

-- Where an object keeps a name: in the slot that its class resolves the name to, or else in its
-- dictionary, if it has one.
def placeOf? (world : World) (value : Value) (name : String) : Option Place :=
  value.address?.bind fun address =>
    match world.lookup value.typeOf name with
    | some (owner, .slot) => some (.slot address owner)
    | _ => if world.hasDictionary value.typeOf then some (.entry address) else none

section Direct

variable {world : World} {call : Caller} {store : Store} {target value : Value} {name : String}

-- How a store ends: in the place of the name, or in a failure that leaves all as it was.
def Puts (world : World) (object value : Value) (name : String) (store : Store)
    (action : Run Unit) : Prop :=
  (∃ place, world.placeOf? object name = some place ∧
    action.execute store = (.ok (), store.putAt name value place)) ∨
  ∃ raised, action.execute store = (.error raised, store)

theorem entry_puts {object : Value}
    (unslotted : ∀ owner, world.lookup object.typeOf name ≠ some (owner, .slot)) :
    world.Puts object value name store (world.storeEntry object name value) := by
  have place : ∀ address, object.address? = some address → world.placeOf? object name =
      if world.hasDictionary object.typeOf then some (.entry address) else none := by
    intro address kept
    rw [placeOf?, kept, Option.bind_some]
    split
    · rename_i owner found
      exact absurd found (unslotted owner)
    · rfl
  unfold storeEntry
  dsimp only
  cases kept : object.address? with
  | none => exact .inr ⟨_, rfl⟩
  | some address =>
      rw [Puts, place address kept]
      cases world.hasDictionary object.typeOf with
      | true => exact .inl ⟨.entry address, rfl, rfl⟩
      | false => exact .inr ⟨_, rfl⟩

theorem slot_puts {object : Value} {owner : ClassRef}
    (slotted : world.lookup object.typeOf name = some (owner, .slot)) :
    world.Puts object value name store (world.storeSlot object owner name value) := by
  unfold storeSlot
  split
  · rename_i address kept
    exact .inl ⟨.slot address owner, by rw [placeOf?, kept, Option.bind_some, slotted], rfl⟩
  · exact .inr ⟨_, rfl⟩

-- What is put somewhere changes no class, and nothing that is found of one.
theorem put_agrees (world : World) (store : Store) (name : String) (value : Value)
    (place : Place) : world.Agrees store (store.putAt name value place) := by
  cases place <;> exact ⟨rfl, fun _ _ => rfl⟩

-- A direct store puts the value in the place of the name, or fails and leaves all as it was.
theorem direct_set_puts (call : Caller) (value : Value)
    (unguarded : world.isUnguarded (store.current target).typeOf name = true) :
    world.Puts (store.current target) value name store
      (world.directSet call target name value) := by
  have started : (get : Run Store).execute store = (.ok store, store) := rfl
  rw [Puts, directSet, Run.execute_bind_ok started, ← Puts]
  unfold isUnguarded at unguarded
  dsimp only
  split
  · exact .inr ⟨_, rfl⟩
  · split
    · rename_i found
      rw [found] at unguarded
      cases unguarded
    · rename_i found
      exact slot_puts found
    · rename_i found
      rw [found] at unguarded
      cases unguarded
    · rename_i found
      rw [found] at unguarded
      obtain ⟨unset, undeleted⟩ : _ ∧ _ := by
        simpa only [Bool.and_eq_true, Option.isNone_iff_eq_none] using unguarded
      simp only [unset, undeleted, Option.isSome_none, Bool.false_eq_true, if_false]
      apply entry_puts
      intro owner slotted
      rw [found] at slotted
      cases slotted
    · rename_i unslotted _ _
      exact entry_puts fun owner slotted => unslotted owner slotted

theorem own_entry_kept {object : Value} {address : Nat} (kept : object.address? = some address) :
    world.ownEntry store object name = store.attributeOf? address name := by
  cases object <;> cases kept <;> rfl

theorem read_yields_held {object : Value} {place : Place}
    (unslotted : ∀ owner, world.lookup object.typeOf name ≠ some (owner, .slot))
    (kept : world.placeOf? object name = some place) (held : store.heldAt? name place = some value)
    (found : Option (ClassRef × Attribute)) :
    (world.readYielding call object name found).execute store = (.ok value, store) := by
  have started : (get : Run Store).execute store = (.ok store, store) := rfl
  unfold placeOf? at kept
  obtain ⟨address, addressed, kept⟩ := Option.bind_eq_some_iff.mp kept
  split at kept
  · rename_i owner slotted
    exact absurd slotted (unslotted owner)
  · split at kept
    · cases kept
      have own : world.ownEntry store object name = some value :=
        (own_entry_kept addressed).trans held
      rw [readYielding, Run.execute_bind_ok started, own]
      rfl
    · cases kept

theorem direct_get_holds (call : Caller)
    (unguarded : world.isUnguarded (store.current target).typeOf name = true) {place : Place}
    (kept : world.placeOf? (store.current target) name = some place)
    (held : store.heldAt? name place = some value) :
    (world.directGet call target name).execute store = (.ok value, store) := by
  have started : (get : Run Store).execute store = (.ok store, store) := rfl
  rw [directGet, Run.execute_bind_ok started]
  unfold isUnguarded at unguarded
  dsimp only
  split
  · rename_i found
    rw [found] at unguarded
    cases unguarded
  · rename_i found
    rw [found] at unguarded
    cases unguarded
  · rename_i owner found
    obtain ⟨address, addressed, kept⟩ := Option.bind_eq_some_iff.mp kept
    rw [found] at kept
    cases kept
    have own : ownSlot store (store.current target) owner name = some value := by
      rw [ownSlot, addressed]
      exact held
    rw [own]
    rfl
  · rename_i found
    rw [found] at unguarded
    cases unguarded
  · rename_i owner content found
    rw [found] at unguarded
    obtain ⟨unset, undeleted⟩ : _ ∧ _ := by
      simpa only [Bool.and_eq_true, Option.isNone_iff_eq_none] using unguarded
    have weak : world.isDominant content = false := by
      simp [isDominant, unset, undeleted]
    rw [weak]
    refine read_yields_held ?_ kept held _
    intro holder slotted
    rw [found] at slotted
    cases slotted
  · rename_i unslotted _ _
    exact read_yields_held (fun owner slotted => unslotted owner slotted) kept held _

end Direct

end World

end MemberThunks
