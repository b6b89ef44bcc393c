import MemberThunks.Thunk.Loading

set_option autoImplicit false

/- The names of generated functions. Squashing keeps letters and digits of any style, and not all of
   these may stand in a name, nor does a name have to stay as it is once it is read; so a squashed
   name that the text of a function can be found by is one of a kind. Plain characters make one,
   unless they make a word of the language. -/
namespace MemberThunks

namespace Identifier

-- Whether a character is kept in a squashed name though it stands in no name.
def isMisplaced (c : Char) : Bool := Character.isAlphanumeric c && !Character.continuesName c

-- Whether a function that is defined under a name is found by it.
structure Loadable (name : String) : Prop where
  free : isKeyword name = false
  readable : firstForeign name.toList = none
  unreserved : name ≠ KeywordFault.reservedName
  normal : NormalForm.isNormal name = true

section Squash

variable {text : String}

theorem keep_misplaced (c : Char) :
    (!Character.continuesName (keep c)) = isMisplaced c ∧ (isMisplaced c = true → keep c = c) := by
  unfold keep isMisplaced
  split
  · rename_i kept
    rcases Bool.or_eq_true_iff.mp kept with letter | underscore
    · rw [letter]
      exact ⟨rfl, fun _ => rfl⟩
    · rw [eq_of_beq underscore]
      exact ⟨rfl, fun _ => rfl⟩
  · rename_i dropped
    have plain : Character.isAlphanumeric c = false := by
      cases letter : Character.isAlphanumeric c with
      | false => rfl
      | true => exact absurd (by rw [letter]; rfl) dropped
    rw [plain]
    exact ⟨rfl, by simp⟩

-- The characters that stop the reading of squashed ones are those that were misplaced.
theorem find_misplaced (chars : List Char) :
    ((chars.map keep).find? fun c => !Character.continuesName c) = chars.find? isMisplaced := by
  induction chars with
  | nil => rfl
  | cons c rest ih =>
      obtain ⟨same, kept⟩ := keep_misplaced c
      rw [List.map_cons, List.find?_cons, List.find?_cons, same, ih]
      cases misplaced : isMisplaced c with
      | true => rw [kept misplaced]
      | false => rfl

theorem plain_of_all (all : text.toList.all (fun c => c.toNat < 128) = true) :
    ∀ c ∈ text.toList, c.toNat < 128 :=
  fun c listed => of_decide_eq_true (List.all_eq_true.mp all c listed)

theorem keep_plain {c : Char} (plain : c.toNat < 128) :
    (keep c).toNat < 128 ∧ Character.continuesName (keep c) = true ∧
      (Character.isDigit (keep c) = false → Character.startsName (keep c) = true) := by
  have each : ∀ code : Fin 128, (keep (Char.ofNat code)).toNat < 128 ∧
      Character.continuesName (keep (Char.ofNat code)) = true ∧
        (Character.isDigit (keep (Char.ofNat code)) = false →
          Character.startsName (keep (Char.ofNat code)) = true) := by
    decide +kernel
  simpa using each ⟨c.toNat, plain⟩

-- Plain characters make a name that can be read and is not changed by being read.
theorem squash_plain (plain : ∀ c ∈ text.toList, c.toNat < 128) :
    firstForeign (squash text).toList = none ∧ NormalForm.isNormal (squash text) = true := by
  have continues : ∀ c ∈ text.toList.map keep, ¬ (!Character.continuesName c) = true := by
    intro c listed
    obtain ⟨origin, found, rfl⟩ := List.mem_map.mp listed
    simp [(keep_plain (plain origin found)).2.1]
  have short : ∀ c ∈ text.toList.map keep, c.toNat < 128 := by
    intro c listed
    obtain ⟨origin, found, rfl⟩ := List.mem_map.mp listed
    exact (keep_plain (plain origin found)).1
  have normal : (guardFirst (text.toList.map keep)).all (fun c => c.toNat < 128) = true := by
    rw [List.all_eq_true]
    intro c listed
    unfold guardFirst at listed
    split at listed
    · obtain rfl := List.mem_singleton.mp listed
      rfl
    · rename_i first rest shape
      split at listed
      · rcases List.mem_cons.mp listed with rfl | later
        · rfl
        · exact decide_eq_true (short c (shape ▸ later))
      · exact decide_eq_true (short c (shape ▸ listed))
  rw [squash, String.toList_ofList]
  constructor
  · unfold guardFirst
    split
    · decide
    · rename_i first rest shape
      rw [shape] at continues
      have onward : rest.find? (fun next => !Character.continuesName next) = none :=
        List.find?_eq_none.mpr fun next listed => continues next (List.mem_cons_of_mem _ listed)
      have starts : Character.isDigit first = false → Character.startsName first = true := by
        obtain ⟨origin, found, rfl⟩ := List.mem_map.mp
          (show first ∈ text.toList.map keep from shape ▸ List.mem_cons_self)
        exact (keep_plain (plain origin found)).2.2
      cases digit : Character.isDigit first with
      | true =>
          rw [if_pos rfl, firstForeign, if_pos (by decide)]
          exact List.find?_eq_none.mpr continues
      | false =>
          rw [if_neg (by simp), firstForeign, if_pos (starts digit)]
          exact onward
  · rw [NormalForm.isNormal, String.toList_ofList, List.all_map, Bool.or_eq_true]
    exact .inl normal

-- Any plain text can be loaded under its squashed name, if this is no word of the language.
theorem loadable_plain (plain : ∀ c ∈ text.toList, c.toNat < 128)
    (free : isKeyword (squash text) = false)
    (unreserved : squash text ≠ KeywordFault.reservedName) : Loadable (squash text) :=
  ⟨free, (squash_plain plain).1, unreserved, (squash_plain plain).2⟩

-- A name behind the letters that the writes of members begin with.
theorem squash_set_name (name : String) :
    (squash ("Set" ++ name)).toList = 'S' :: ("et".toList ++ name.toList).map keep := by
  have starts : ("Set" ++ name).toList = 'S' :: ("et".toList ++ name.toList) := by simp
  exact squash_starts starts (by decide) (by decide)

theorem foreign_set_name (name : String) :
    firstForeign (squash ("Set" ++ name)).toList = name.toList.find? isMisplaced := by
  rw [squash_set_name, firstForeign, if_pos (by decide), find_misplaced, List.find?_append]
  rfl

theorem set_name_free (name : String) : isKeyword (squash ("Set" ++ name)) = false ∧
    squash ("Set" ++ name) ≠ KeywordFault.reservedName := by
  have begins : (squash ("Set" ++ name)).toList.head? = some 'S' := by
    rw [squash_set_name]
    rfl
  constructor
  · refine Bool.eq_false_iff.mpr fun listed => ?_
    have apart : ∀ word ∈ keywords, word.toList.head? ≠ some 'S' := by decide
    exact apart _ (List.contains_iff_mem.mp listed) begins
  · intro same
    rw [same] at begins
    revert begins
    decide

theorem set_name_plain {name : String} (plain : ∀ c ∈ name.toList, c.toNat < 128) :
    name.toList.find? isMisplaced = none ∧
      NormalForm.isNormal (squash ("Set" ++ name)) = true := by
  rw [← foreign_set_name]
  refine squash_plain fun c listed => ?_
  rcases List.mem_append.mp (String.toList_append ▸ listed) with begins | later
  · have letters : ∀ c ∈ "Set".toList, c.toNat < 128 := plain_of_all (by decide)
    exact letters c begins
  · exact plain c later

end Squash

end Identifier

namespace Loading

theorem check_loadable {lowered : Listing} {fileName : String}
    (unmarked : Char.ofNat 0 ∉ fileName.toList) (loadable : Identifier.Loadable lowered.name) :
    check (.listing lowered) fileName = .ok () := by
  rw [check, if_neg (by simpa using unmarked)]
  simp only [checkListing, loadable.free, loadable.readable, loadable.normal,
    if_neg loadable.unreserved, Bool.false_eq_true, if_false, if_true]

-- A listing is loaded if its name can be, under the name of a file that is one.
theorem check_listing_iff (lowered : Listing) (fileName : String) :
    check (.listing lowered) fileName = .ok () ↔
      Char.ofNat 0 ∉ fileName.toList ∧ Identifier.Loadable lowered.name := by
  refine ⟨fun checked => ?_, fun ⟨unmarked, loadable⟩ => check_loadable unmarked loadable⟩
  rw [check] at checked
  split at checked
  · cases checked
  · rename_i unmarked
    refine ⟨by simpa using unmarked, ?_⟩
    simp only [checkListing] at checked
    split at checked
    · cases checked
    · rename_i free
      split at checked
      · cases checked
      · rename_i readable
        split at checked
        · cases checked
        · rename_i unreserved
          split at checked
          · rename_i normal
            exact ⟨Bool.eq_false_iff.mpr free, readable, unreserved, normal⟩
          · cases checked

end Loading

end MemberThunks
