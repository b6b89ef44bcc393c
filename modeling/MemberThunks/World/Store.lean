import MemberThunks.Entries
import MemberThunks.TypeForm.Pool
import MemberThunks.World.Raised

set_option autoImplicit false

/- The changing part of a world: the attributes of its objects, by address, and the
   trace of routine calls, latest last. A slot is kept under the class that declares it
   together with its name, apart from the dictionary of the object. -/
namespace MemberThunks

structure Record where
  entries : Entries String Value
  slots : Entries (ClassRef × String) Value

/-- One call of a routine of the world. -/
structure Event where
  routine : String
  receiver : Option Value
  arguments : Entries String Value

structure Store where
  records : Entries Nat Record
  trace : List Event
  /-- What abstract classes have found of other classes. -/
  verdicts : Entries (Abstract × ClassRef) Bool
  /-- The classes that objects have been given after they were made. -/
  classes : Entries Nat ClassRef
  /-- The next address that no object has. -/
  fresh : Nat
  /-- The forms that have been made. -/
  pool : TypeForm.Pool

namespace Record

def empty : Record := ⟨[], []⟩

end Record

namespace Store

def empty : Store := ⟨[], [], [], [], 0, .empty⟩

def record (store : Store) (address : Nat) : Record :=
  (store.records.lookup address).getD .empty

def update (store : Store) (address : Nat) (change : Record → Record) : Store :=
  { store with records := store.records.put address (change (store.record address)) }

def attributeOf? (store : Store) (address : Nat) (name : String) : Option Value :=
  (store.record address).entries.lookup name

def slot? (store : Store) (address : Nat) (owner : ClassRef) (name : String) : Option Value :=
  (store.record address).slots.lookup (owner, name)

def putEntry (store : Store) (address : Nat) (name : String) (value : Value) : Store :=
  store.update address fun record => { record with entries := record.entries.put name value }

/-- Gives an object another dictionary. -/
def putEntries (store : Store) (address : Nat) (entries : Entries String Value) : Store :=
  store.update address fun record => { record with entries := entries }

def putSlot (store : Store) (address : Nat) (owner : ClassRef) (name : String) (value : Value) :
    Store :=
  store.update address fun record => { record with slots := record.slots.put (owner, name) value }

/-- Gives an object another class, whose slots are those of the class before. -/
def reclass (store : Store) (address : Nat) (target before after : ClassRef) : Store :=
  { store.update address fun record =>
      { record with slots := record.slots.map fun slot =>
          if slot.1.1 = before then ((after, slot.1.2), slot.2) else slot } with
    classes := store.classes.put address target }

/-- A value as it is now: an object may have been given another class. -/
def current (store : Store) (value : Value) : Value :=
  match value.address?.bind fun address => store.classes.lookup address with
  | some target => value.withClass target
  | none => value

def log (store : Store) (event : Event) : Store :=
  { store with trace := store.trace ++ [event] }

/-- Remembers what an abstract class has found of another class. -/
def decide (store : Store) (kind : Abstract) (target : ClassRef) (verdict : Bool) : Store :=
  { store with verdicts := store.verdicts.put (kind, target) verdict }

/-- Keeps a form that has been made. -/
def keepForm (store : Store) (recipe : TypeForm.Recipe) (form : TypeForm) : Store :=
  { store with pool := store.pool.add recipe form }

def takeAddress (store : Store) : Nat × Store :=
  (store.fresh, { store with fresh := store.fresh + 1 })

theorem record_update (store : Store) (address other : Nat) (change : Record → Record) :
    (store.update address change).record other =
      if other = address then change (store.record address) else store.record other := by
  by_cases same : other = address
  · subst same
    simp [update, record, Entries.lookup_put_self]
  · simp [update, record, Entries.lookup_put_of_ne same, same]

theorem entry_put_entry (store : Store) (address other : Nat) (name query : String)
    (value : Value) : (store.putEntry address name value).attributeOf? other query =
      if other = address ∧ query = name then some value else store.attributeOf? other query := by
  unfold putEntry attributeOf?
  rw [record_update]
  by_cases same : other = address
  · subst same
    by_cases hit : query = name
    · simp [hit, Entries.lookup_put_self]
    · simp [hit, Entries.lookup_put_of_ne hit]
  · simp [same]

theorem entry_put_entries (store : Store) (address other : Nat) (entries : Entries String Value)
    (query : String) : (store.putEntries address entries).attributeOf? other query =
      if other = address then entries.lookup query else store.attributeOf? other query := by
  unfold putEntries attributeOf?
  rw [record_update]
  split <;> rfl

end Store

/-- Running in a world: it may fail, and what it has done to the store by then stays. -/
abbrev Run := ExceptT Raised (StateM Store)

namespace Run

def fail {α : Type} (raised : Raised) : Run α := throw raised

def ofExcept {α : Type} : Except Raised α → Run α
  | .ok result => pure result
  | .error raised => throw raised

/-- The first of the checks that succeeds or fails with a fault decides. -/
def anyOf : List (Run Bool) → Run Bool
  | [] => pure false
  | check :: rest => do if ← check then return true else anyOf rest

def execute {α : Type} (action : Run α) (store : Store) : Except Raised α × Store :=
  (ExceptT.run action).run store

end Run

end MemberThunks
