import MemberThunks.Proofs.DirectFields

set_option autoImplicit false

/- The kinds of members. What a class resolves a name to decides the one kind in which the name may
   be described there: a property, a routine, or neither, which leaves a field. Describing it in
   another kind is refused before anything is asked. -/
namespace MemberThunks

namespace Describe

inductive Kind where
  | method | property | field
deriving DecidableEq

-- The kind that is left by what a name is resolved to.
def kindOf (world : World) : Option (ClassRef × Attribute) → Kind
  | none => .field
  | some (_, found) =>
    if found.isProperty then .property else if isRoutine world found then .method else .field

section Kinds

variable {world : World} {caller : Caller} {target : ClassRef} {name : String}

-- No property is a routine.
theorem routine_apart {found : Attribute} (routine : isRoutine world found = true) :
    found.isProperty = false := by
  cases found with
  | property definition => cases routine
  | value _ | static _ | classBound _ | native _ | slot | reserved => rfl

-- Only of a routine are there formals to ask for.
theorem method_of_routine {owner : ClassRef} {found : Attribute} {called : Callable}
    (given : methodOf world caller owner name found = .ok called) :
    isRoutine world found = true := by
  unfold methodOf at given
  split at given
  · rfl
  · rfl
  · cases given
  · rfl
  · rename_i callee
    split at given
    · rename_i routine
      exact routine
    · cases given
  · cases given
  · cases given

theorem method_refused (apart : kindOf world (world.lookup target name) ≠ .method) :
    ∃ fault, method world caller target name = throw fault := by
  unfold method
  cases found : world.lookup target name with
  | none => exact ⟨_, rfl⟩
  | some entry =>
      obtain ⟨owner, held⟩ := entry
      rw [found] at apart
      cases given : methodOf world caller owner name held with
      | error fault => exact ⟨fault, by simp only [given]; rfl⟩
      | ok called =>
          have routine := method_of_routine given
          refine absurd ?_ apart
          simp only [kindOf, routine_apart routine, routine]
          rfl

theorem property_refused (apart : kindOf world (world.lookup target name) ≠ .property) :
    ∃ fault, property world caller target name = throw fault := by
  unfold property
  split
  · rename_i found
    rw [found] at apart
    exact absurd rfl apart
  · exact ⟨_, rfl⟩

theorem field_refused (apart : kindOf world (world.lookup target name) ≠ .field) :
    ∃ fault, field world caller target name = throw fault := by
  have hidden : ∃ owner, hiding? world target name = some owner := by
    unfold hiding?
    cases found : world.lookup target name with
    | none =>
        rw [found] at apart
        exact absurd rfl apart
    | some entry =>
        obtain ⟨owner, held⟩ := entry
        rw [found] at apart
        refine ⟨owner, if_pos ?_⟩
        cases guarded : held.isProperty with
        | true => rfl
        | false =>
            cases routine : isRoutine world held with
            | true => rfl
            | false =>
                refine absurd ?_ apart
                simp only [kindOf, guarded, routine]
                rfl
  obtain ⟨owner, hides⟩ := hidden
  unfold field
  rw [hides]
  exact ⟨_, rfl⟩

-- Describing a member of whatever kind is describing it in the kind that is left.
theorem member_by_kind : member world caller target name =
    match kindOf world (world.lookup target name) with
    | .method => Member.method <$> method world caller target name
    | .property => Member.property <$> property world caller target name
    | .field => Member.field <$> field world caller target name := by
  unfold member
  split
  · rename_i found
    rw [found]
    rfl
  · rename_i owner held guarded found
    have unguarded : held.isProperty = false := by
      cases held with
      | property definition => exact absurd rfl (guarded definition)
      | value _ | static _ | classBound _ | native _ | slot | reserved => rfl
    rw [found]
    simp only [kindOf, unguarded]
    cases isRoutine world held <;> rfl
  · rename_i found
    rw [found]
    rfl

end Kinds

-- Whether describing ends in a member, and whether it ends in a failure, begun in some store.
def Gives {α : Type} (action : Describing α) (store : Store) : Prop :=
  ∃ result after, action.run.run store = (.ok result, after)

def Fails {α : Type} (action : Describing α) (store : Store) : Prop :=
  ∃ fault after, action.run.run store = (.error fault, after)

theorem fails_iff {α : Type} {action : Describing α} {store : Store} :
    Fails action store ↔ ¬ Gives action store := by
  cases ran : action.run.run store with
  | mk outcome after =>
      rw [Fails, Gives, ran]
      cases outcome with
      | ok result =>
          constructor
          · rintro ⟨fault, final, failed⟩
            cases failed
          · intro none
            exact absurd ⟨result, after, rfl⟩ none
      | error fault =>
          refine ⟨fun _ => ?_, fun _ => ⟨fault, after, rfl⟩⟩
          rintro ⟨result, final, given⟩
          cases given

theorem gives_of_map {α β : Type} {change : α → β} {action : Describing α} {store after : Store}
    {result : β} : (change <$> action).run.run store = (.ok result, after) ↔
      ∃ told, action.run.run store = (.ok told, after) ∧ result = change told := by
  constructor
  · exact ok_of_run_map
  · rintro ⟨told, given, rfl⟩
    rw [run_map, given]
    rfl

section Gives

variable {world : World} {caller : Caller} {target : ClassRef} {name : String} {store after : Store}

theorem refused_gives_nothing {α : Type} {action : Describing α}
    (refused : ∃ fault, action = throw fault) : ¬ Gives action store := by
  obtain ⟨fault, rfl⟩ := refused
  rintro ⟨result, after, given⟩
  cases given

theorem kind_of_method (given : Gives (method world caller target name) store) :
    kindOf world (world.lookup target name) = .method :=
  Decidable.byContradiction fun apart => refused_gives_nothing (method_refused apart) given

theorem kind_of_property (given : Gives (property world caller target name) store) :
    kindOf world (world.lookup target name) = .property :=
  Decidable.byContradiction fun apart => refused_gives_nothing (property_refused apart) given

theorem kind_of_field (given : Gives (field world caller target name) store) :
    kindOf world (world.lookup target name) = .field :=
  Decidable.byContradiction fun apart => refused_gives_nothing (field_refused apart) given

theorem member_gives {result : Member} :
    (member world caller target name).run.run store = (.ok result, after) ↔
      (∃ told, (method world caller target name).run.run store = (.ok told, after) ∧
        result = .method told) ∨
      (∃ told, (property world caller target name).run.run store = (.ok told, after) ∧
        result = .property told) ∨
      ∃ told, (field world caller target name).run.run store = (.ok told, after) ∧
        result = .field told := by
  rw [member_by_kind]
  constructor
  · intro given
    split at given
    · exact .inl (gives_of_map.mp given)
    · exact .inr (.inl (gives_of_map.mp given))
    · exact .inr (.inr (gives_of_map.mp given))
  · rintro (⟨told, given, same⟩ | ⟨told, given, same⟩ | ⟨told, given, same⟩)
    · rw [kind_of_method ⟨told, after, given⟩]
      exact gives_of_map.mpr ⟨told, given, same⟩
    · rw [kind_of_property ⟨told, after, given⟩]
      exact gives_of_map.mpr ⟨told, given, same⟩
    · rw [kind_of_field ⟨told, after, given⟩]
      exact gives_of_map.mpr ⟨told, given, same⟩

theorem member_fails : Fails (member world caller target name) store ↔
    Fails (method world caller target name) store ∧
      Fails (property world caller target name) store ∧
      Fails (field world caller target name) store := by
  simp only [fails_iff, Gives, member_gives]
  constructor
  · intro none
    refine ⟨?_, ?_, ?_⟩
    · rintro ⟨told, after, given⟩
      exact none ⟨.method told, after, .inl ⟨told, given, rfl⟩⟩
    · rintro ⟨told, after, given⟩
      exact none ⟨.property told, after, .inr (.inl ⟨told, given, rfl⟩)⟩
    · rintro ⟨told, after, given⟩
      exact none ⟨.field told, after, .inr (.inr ⟨told, given, rfl⟩)⟩
  · rintro ⟨noMethod, noProperty, noField⟩ ⟨result, after, given⟩
    rcases given with ⟨told, given, _⟩ | ⟨told, given, _⟩ | ⟨told, given, _⟩
    · exact noMethod ⟨told, after, given⟩
    · exact noProperty ⟨told, after, given⟩
    · exact noField ⟨told, after, given⟩

end Gives

end Describe

end MemberThunks
