set_option autoImplicit false

/- Parts of a text between separators. -/
namespace MemberThunks.Parts

/-- The parts between the occurrences of a character, one more than these are. -/
def split (separator : Char) (text : String) : List String :=
  (text.toList.splitOn separator).map String.ofList

def last (separator : Char) (text : String) : String := (split separator text).getLastD text

theorem flatten_ended (separator : Char) {parts : List (List Char)} (some : parts ≠ []) :
    (parts.map (· ++ [separator])).flatten = [separator].intercalate parts ++ [separator] := by
  induction parts with
  | nil => exact absurd rfl some
  | cons first rest ih =>
      cases rest with
      | nil => simp [List.intercalate]
      | cons second rest =>
          rw [List.map_cons, List.flatten_cons, ih (List.cons_ne_nil _ _)]
          simp [List.intercalate]

-- The parts with a separator after each are the text with one after it.
theorem join_split (separator : Char) (text : String) :
    String.join ((split separator text).map (· ++ String.ofList [separator])) =
      text ++ String.ofList [separator] := by
  apply String.toList_inj.mp
  have parts := flatten_ended separator (List.splitOn_ne_nil separator text.toList)
  rw [List.intercalate_splitOn] at parts
  simpa [split, String.toList_join, List.flatMap_def, Function.comp_def] using parts

-- What stands after the last separator can be told from the text.
theorem last_part_unique (separator : Char) {left right front back : List Char}
    (clean : separator ∉ left) (alsoClean : separator ∉ right)
    (same : front ++ separator :: left = back ++ separator :: right) : left = right := by
  -- the last separator splits the text the same way on both sides
  rcases List.append_eq_append_iff.mp same with ⟨middle, _, rest⟩ | ⟨middle, _, rest⟩
  · cases middle with
    | nil => simpa using rest
    | cons first middle =>
        obtain ⟨rfl, tail⟩ := List.cons.inj rest
        exact absurd (by simp [tail]) clean
  · cases middle with
    | nil => simpa using rest.symm
    | cons first middle =>
        obtain ⟨rfl, tail⟩ := List.cons.inj rest
        exact absurd (by simp [tail]) alsoClean

end MemberThunks.Parts
