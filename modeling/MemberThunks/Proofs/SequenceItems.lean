import MemberThunks.World.Item

set_option autoImplicit false

/- Items of lists and tuples by their place, which no class of a world can change. -/
namespace MemberThunks

namespace World

-- The last place that a key can name.
def lastPlace : Nat := 9223372036854775807

theorem pick_place (world : World) (container : Container) (items : List Value) (place : Nat) :
    world.pick container items id (.int place) =
      if lastPlace < place then .error .indexTooLarge
      else
        match items[place]? with
        | some item => .ok item
        | none => .error (.outOfRange container) := by
  have above : ¬ (place : Int) < -9223372036854775808 := by omega
  have first : (0 : Int) ≤ place := by omega
  by_cases far : lastPlace < place
  · have beyond : (9223372036854775807 : Int) < place := by
      rw [lastPlace] at far
      omega
    simp only [pick, Value.whole?, Value.payload, if_pos far, beyond, or_true, if_true]
  · have within : ¬ (9223372036854775807 : Int) < place := by
      rw [lastPlace] at far
      omega
    simp only [pick, Value.whole?, Value.payload, if_neg far, above, within, or_self, if_false,
      itemAt, first, if_true, Int.toNat_natCast]
    cases items[place]? <;> rfl

theorem held_of_pick {world : World} {container : Container} {items : List Value} {place : Nat}
    {item : Value} (picked : world.pick container items id (.int place) = .ok item) :
    items[place]? = some item := by
  rw [pick_place] at picked
  split at picked
  · cases picked
  · cases held : items[place]? with
    | none =>
        rw [held] at picked
        cases picked
    | some found =>
        rw [held] at picked
        cases picked
        rfl

-- The values that hold their items in order and give them by place.
def Holds (container : Value) (items : List Value) : Prop :=
  container = .list items ∨ container = .tuple items

section Holds

variable {container : Value} {items : List Value}

theorem item_of_holds (holds : Holds container items) :
    ∃ sort, ∀ (world : World) (caller : Caller) (place : Nat),
      world.item caller container (.int place) =
        Run.ofExcept (world.pick sort items id (.int place)) := by
  rcases holds with rfl | rfl
  · exact ⟨.list, fun _ _ _ => rfl⟩
  · exact ⟨.tuple, fun _ _ _ => rfl⟩

theorem held_of_item (holds : Holds container items) {world : World} {caller : Caller}
    {place : Nat} {item : Value} {store after : Store}
    (ran : (world.item caller container (.int place)).execute store = (.ok item, after)) :
    items[place]? = some item := by
  obtain ⟨sort, picks⟩ := item_of_holds holds
  rw [picks] at ran
  cases picked : world.pick sort items id (.int place) with
  | error raised =>
      rw [picked] at ran
      cases ran
  | ok found =>
      rw [picked] at ran
      cases ran
      exact held_of_pick picked

theorem item_out_of_range (holds : Holds container items) (world : World) (caller : Caller)
    {place : Nat} (beyond : items.length ≤ place) : ∃ raised,
      world.item caller container (.int place) = Run.fail raised ∧
        raised.failure.kind = .indexFault := by
  obtain ⟨sort, picks⟩ := item_of_holds holds
  rw [picks, pick_place]
  by_cases far : lastPlace < place
  · rw [if_pos far]
    exact ⟨_, rfl, rfl⟩
  · rw [if_neg far, List.getElem?_eq_none beyond]
    exact ⟨_, rfl, rfl⟩

end Holds

-- The items of what acts as a sequence by itself, with the kind of sequence that it is.
def sequence? (world : World) (container : Value) : Option (Container × List Value) :=
  if (world.hook? container "__getitem__").isSome then none
  else
    match container.payload with
    | .list items => some (.list, items)
    | .tuple items => some (.tuple, items)
    | .text content => some (.text, content.toList.map fun c => .text (String.ofList [c]))
    | .octets content => some (.octets, content.map fun octet => .int (octet : Nat))
    | .buffer content => some (.buffer, content.map fun octet => .int (octet : Nat))
    | _ => none

theorem item_at_map {α β : Type} (give : α → β) (items : List α) (index : Int) :
    itemAt (items.map give) index = (itemAt items index).map give := by
  simp only [itemAt, List.length_map, List.getElem?_map]
  split
  · rfl
  · split <;> rfl

theorem pick_map {α : Type} (world : World) (sort : Container) (items : List α)
    (give : α → Value) (key : Value) :
    world.pick sort (items.map give) id key = world.pick sort items give key := by
  unfold pick
  split
  · rw [item_at_map]
    split
    · rfl
    · cases itemAt items _ <;> rfl
  · rfl

theorem item_of_sequence {world : World} {container : Value} {sort : Container}
    {items : List Value} (acts : world.sequence? container = some (sort, items)) (call : Caller)
    (key : Value) :
    world.item call container key = Run.ofExcept (world.pick sort items id key) := by
  unfold sequence? at acts
  cases hooked : world.hook? container "__getitem__" with
  | some answer => simp [hooked] at acts
  | none =>
      rw [item, hooked]
      simp only [hooked, Option.isSome_none, Bool.false_eq_true, if_false] at acts
      unfold nativeItem
      split at acts <;> cases acts <;> simp only [*, pick_map]

end World

end MemberThunks
