import Std.Data.String.ToNat
import MemberThunks.Thunk.Constant

set_option autoImplicit false

/- Names of constants. A table hands out names that end in an underscore and the number of
   constants before; as no numeral has an underscore, the number can be read back from the
   name whatever the hint is, so a name is never handed out twice. -/
namespace MemberThunks

namespace Constants

def numbered (hint : String) (number : Nat) : String := hint ++ "_" ++ toString number

theorem number_of_numbered {left right : String} {first second : Nat}
    (same : numbered left first = numbered right second) : first = second := by
  have chars := congrArg String.toList same
  simp only [numbered, String.toList_append, List.append_assoc] at chars
  have digits : (toString first).toList = (toString second).toList :=
    Parts.last_part_unique '_' (by simp) (by simp) chars
  exact Nat.repr_injective (String.toList_inj.mp digits)

-- Every name of the table ends in a number that the table has outgrown.
def Counted (constants : Constants) : Prop :=
  ∀ label ∈ constants.keys, ∃ hint, ∃ number < constants.length, label = numbered hint number

theorem fresh_of_counted {constants : Constants} (known : Counted constants) (hint : String) :
    constants.nextName hint ∉ constants.keys := by
  intro listed
  obtain ⟨other, number, before, same⟩ := known _ listed
  have equal : constants.length = number := number_of_numbered same
  omega

theorem appends_of_counted {constants : Constants} (known : Counted constants) (hint : String)
    (constant : Constant) : (constants.add hint constant).2 =
      constants ++ [(constants.nextName hint, constant)] :=
  Entries.put_of_absent constant (fresh_of_counted known hint)

-- The kinds of names that generated code hands out.
def hints : List String := ["cast", "unbox", "load", "store", "setter"]

-- Every name of the table was handed out by the table itself, before it had its present size.
def Numbered (constants : Constants) : Prop :=
  ∀ label ∈ constants.keys,
    ∃ hint ∈ hints, ∃ number < constants.length, label = numbered hint number

theorem numbered_empty : Numbered [] := by
  intro label listed
  cases listed

theorem counted_of_numbered {constants : Constants} (known : Numbered constants) :
    Counted constants := by
  intro label listed
  obtain ⟨hint, _, number, before, named⟩ := known label listed
  exact ⟨hint, number, before, named⟩

theorem next_name_fresh {constants : Constants} (known : Numbered constants) (hint : String) :
    constants.nextName hint ∉ constants.keys :=
  fresh_of_counted (counted_of_numbered known) hint

theorem add_appends {constants : Constants} (known : Numbered constants) (hint : String)
    (constant : Constant) : (constants.add hint constant).2 =
      constants ++ [(constants.nextName hint, constant)] :=
  appends_of_counted (counted_of_numbered known) hint constant

theorem add_numbered {constants : Constants} (known : Numbered constants) {hint : String}
    (kind : hint ∈ hints) (constant : Constant) : Numbered (constants.add hint constant).2 := by
  rw [add_appends known hint constant]
  intro label listed
  simp only [Entries.keys, List.map_append, List.map_cons, List.map_nil, List.mem_append,
    List.mem_singleton] at listed
  rw [List.length_append, List.length_singleton]
  cases listed with
  | inl earlier =>
      obtain ⟨other, listed, number, before, same⟩ := known label earlier
      exact ⟨other, listed, number, by omega, same⟩
  | inr latest => exact ⟨hint, kind, constants.length, by omega, latest⟩

theorem conversion_hint_listed (conversion : Conversion) :
    Constant.conversionHint conversion ∈ hints := by
  rw [Constant.conversionHint]
  split <;> simp [hints]

theorem underscore_in_key {constants : Constants} (known : Numbered constants) {label : String}
    (listed : label ∈ constants.keys) : '_' ∈ label.toList := by
  obtain ⟨hint, _, number, _, rfl⟩ := known label listed
  simp [numbered]

-- No name that generated code hands out begins with a capital letter.
theorem capital_not_key {constants : Constants} (known : Numbered constants) {label : String}
    {first : Char} {rest : List Char} (starts : label.toList = first :: rest)
    (capital : first.isUpper = true) : label ∉ constants.keys := by
  intro listed
  obtain ⟨hint, kind, number, _, rfl⟩ := known label listed
  simp only [hints, List.mem_cons, List.not_mem_nil, or_false] at kind
  rcases kind with rfl | rfl | rfl | rfl | rfl <;>
    simp [numbered] at starts <;> simp [← starts.1] at capital

-- A table that another one grows out of keeps its meanings in it.
def Extends (later earlier : Constants) : Prop :=
  ∀ label constant, earlier.lookup label = some constant → later.lookup label = some constant

theorem extends_refl (constants : Constants) : Extends constants constants :=
  fun _ _ found => found

theorem extends_trans {last later earlier : Constants} (second : Extends last later)
    (first : Extends later earlier) : Extends last earlier :=
  fun label constant found => second label constant (first label constant found)

theorem add_extends {constants : Constants} (known : Numbered constants) (hint : String)
    (constant : Constant) : Extends (constants.add hint constant).2 constants := by
  intro label old found
  have apart : label ≠ constants.nextName hint := by
    intro same
    exact next_name_fresh known hint (same ▸ Entries.mem_keys_of_lookup found)
  exact (Entries.lookup_put_of_ne apart constant constants).trans found

theorem lookup_added (constants : Constants) (hint : String) (constant : Constant) :
    (constants.add hint constant).2.lookup (constants.nextName hint) = some constant :=
  Entries.lookup_put_self _ _ _

end Constants

end MemberThunks
