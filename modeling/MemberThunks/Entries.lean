set_option autoImplicit false

/- Insertion-ordered finite maps as lists of pairs. A key that is already there
   keeps its place when its value changes; a new key goes to the end. Lookup is
   `List.lookup`. -/
namespace MemberThunks

abbrev Entries (κ ν : Type) := List (κ × ν)

namespace Entries

variable {κ ν : Type} [BEq κ]

def put (key : κ) (value : ν) : Entries κ ν → Entries κ ν
  | [] => [(key, value)]
  | (other, old) :: rest =>
    if key == other then (key, value) :: rest else (other, old) :: put key value rest

def remove (key : κ) (entries : Entries κ ν) : Entries κ ν :=
  entries.filter fun entry => !(key == entry.1)

def keys (entries : Entries κ ν) : List κ := entries.map (·.1)

theorem mem_keys_of_lookup [LawfulBEq κ] {key : κ} {value : ν} {entries : Entries κ ν}
    (found : entries.lookup key = some value) : key ∈ entries.keys := by
  obtain ⟨before, after, split, _⟩ := List.lookup_eq_some_iff.mp found
  simp [keys, split]

theorem put_of_absent [LawfulBEq κ] {key : κ} (value : ν) {entries : Entries κ ν}
    (absent : key ∉ entries.keys) : put key value entries = entries ++ [(key, value)] := by
  induction entries with
  | nil => rfl
  | cons entry rest ih =>
    obtain ⟨other, old⟩ := entry
    simp only [keys, List.map_cons, List.mem_cons, not_or] at absent
    have differs : (key == other) = false := by simpa using absent.1
    simp [put, differs, ih absent.2]

theorem lookup_put_self [LawfulBEq κ] (key : κ) (value : ν) (entries : Entries κ ν) :
    (put key value entries).lookup key = some value := by
  induction entries with
  | nil => simp [put]
  | cons entry rest ih =>
    obtain ⟨other, old⟩ := entry
    by_cases same : key = other
    · simp [put, same]
    · have apart : (key == other) = false := by simpa using same
      simp [put, apart, List.lookup_cons, ih]

theorem lookup_put_of_ne [LawfulBEq κ] {key query : κ} (apart : query ≠ key) (value : ν)
    (entries : Entries κ ν) : (put key value entries).lookup query = entries.lookup query := by
  have off : (query == key) = false := by simpa using apart
  induction entries with
  | nil => simp [put, List.lookup_cons, off]
  | cons entry rest ih =>
    obtain ⟨other, old⟩ := entry
    by_cases same : key = other
    · subst same
      simp [put, List.lookup_cons, off]
    · have differs : (key == other) = false := by simpa using same
      simp only [put, differs, Bool.false_eq_true, if_false, List.lookup_cons]
      split <;> simp_all

theorem lookup_put [LawfulBEq κ] (key query : κ) (value : ν) (entries : Entries κ ν) :
    (put key value entries).lookup query =
      if query == key then some value else entries.lookup query := by
  by_cases same : query = key
  · simp [same, lookup_put_self]
  · simp [same, lookup_put_of_ne same]

theorem put_put [LawfulBEq κ] (key : κ) (first second : ν) (entries : Entries κ ν) :
    put key second (put key first entries) = put key second entries := by
  induction entries with
  | nil => simp [put]
  | cons entry rest ih =>
    obtain ⟨other, old⟩ := entry
    by_cases same : key = other
    · simp [put, same]
    · have apart : (key == other) = false := by simpa using same
      simp [put, apart, ih]

theorem put_held [LawfulBEq κ] {key : κ} {value : ν} {entries : Entries κ ν}
    (found : entries.lookup key = some value) : put key value entries = entries := by
  induction entries with
  | nil => cases found
  | cons entry rest ih =>
    obtain ⟨other, old⟩ := entry
    by_cases same : key = other
    · subst same
      simp only [List.lookup_cons, beq_self_eq_true] at found
      cases found
      simp [put]
    · have apart : (key == other) = false := by simpa using same
      simp only [List.lookup_cons, apart] at found
      simp [put, apart, ih found]

theorem lookup_remove [LawfulBEq κ] (key query : κ) (entries : Entries κ ν) :
    (remove key entries).lookup query =
      if query == key then none else entries.lookup query := by
  induction entries with
  | nil => simp [remove]
  | cons entry rest ih =>
    obtain ⟨other, old⟩ := entry
    unfold remove at ih ⊢
    by_cases gone : key = other
    · subst gone
      by_cases hit : query = key
      · simp [hit]
      · have off : (query == key) = false := by simpa using hit
        simp [ih, List.lookup_cons, off]
    · have kept : (key == other) = false := by simpa using gone
      simp only [List.filter_cons, kept, Bool.not_false, if_true, List.lookup_cons, ih]
      by_cases hit : query = key
      · simp [hit, kept]
      · simp [hit]

end Entries

end MemberThunks
