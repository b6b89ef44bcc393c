import MemberThunks.Proofs.EqualBuilds

set_option autoImplicit false

/- The thunks of members that are found equal can stand for each other. Both are built or neither,
   and they end alike on whatever does not notice in which order it is asked for the alternatives
   of a type: with the same value or a failure of the same kind, and with the same store, in which
   the trace of calls is. -/
namespace MemberThunks

namespace Reading

-- Items none of which notices in which order it is asked, each in the store that its turn finds.
def Heedless (world later : World) (caller : Caller) (container : Value) :
    List (TypeForm × Nat) → Store → Prop
  | [], _ => True
  | (type, position) :: rest, store =>
    ∀ item between, (later.item caller container (.int position)).execute store =
      (.ok item, between) →
      world.Indifferent later between item type ∧
      ∀ conversion value ready, world.conversionFor type false = .ok conversion →
        (Conversion.applyOptional later caller conversion item).execute between =
          (.ok value, ready) →
        Heedless world later caller container rest ready

-- A call of a method whose arguments do not notice it, from the store in which the first of them
-- is read.
def Unnoticed (world later : World) (caller : Caller) (method : MethodMember)
    (target container : Value) (before : Store) : Prop :=
  ∀ narrowed between callee ready,
    ((Conversion.cast (.cls method.declaring) false).apply later caller target).execute before =
      (.ok narrowed, between) →
    (later.normalGet caller narrowed method.name).execute between = (.ok callee, ready) →
    Heedless world later caller container
      (ordered method.parameters (method.parameters.map Parameter.type).zipIdx) ready

section Alike

variable {world later : World} {caller : Caller} {target container : Value} {store : Store}

-- Arguments are accepted one after the other, alike by the conversions of either method.
theorem accept_each_alike (slots : List (World.Pairing world × Nat))
    (heedless : Heedless world later caller container
      (slots.map fun slot => (slot.1.left.type, slot.2)) store) :
    Run.SameEnd
      ((acceptEach later caller container
        (slots.map fun slot => (slot.1.first, slot.2))).execute store)
      ((acceptEach later caller container
        (slots.map fun slot => (slot.1.second, slot.2))).execute store) := by
  induction slots generalizing store with
  | nil => exact Run.same_end_refl _
  | cons slot rest ih =>
      obtain ⟨pair, position⟩ := slot
      refine Run.same_end_bind (Run.same_end_refl _) fun item between read => ?_
      obtain ⟨indifferent, further⟩ := heedless item between read
      have converts := World.counterparts_convert caller pair.converted
        pair.alsoConverted pair.same.typed pair.tidy pair.alsoTidy pair.alike indifferent
      refine Run.same_end_bind converts fun value ready accepted => ?_
      refine Run.same_end_bind (ih (further _ value ready pair.converted accepted)) ?_
      intro values final _
      exact Run.same_end_refl _

variable {left right : MethodMember} {pairs : List (World.Pairing world)}

-- The items of pairs in the order in which they are read.
theorem ordered_of_pairs {α : Type} (change : World.Pairing world → α) :
    ordered (pairs.map World.Pairing.left) (pairs.map change).zipIdx =
      (ordered (pairs.map World.Pairing.left) pairs.zipIdx).map
        fun slot => (change slot.1, slot.2) := by
  rw [List.zipIdx_map, ordered_map]
  rfl

theorem perform_alike (declared : right.declaring = left.declaring)
    (named : right.name = left.name) (given : right.isVoid = left.isVoid)
    (lefts : left.parameters = pairs.map World.Pairing.left)
    (rights : right.parameters = pairs.map World.Pairing.right)
    (unnoticed : Unnoticed world later caller left target container store) :
    Run.SameEnd
      ((perform later caller left (pairs.map World.Pairing.first) target container).execute store)
      ((perform later caller right (pairs.map World.Pairing.second) target container).execute
        store) := by
  rw [perform, perform, declared, named, given, rights, lefts, places_of_pairs, names_of_pairs,
    ordered_by_pairs]
  refine Run.same_end_bind (Run.same_end_refl _) fun narrowed between narrows => ?_
  refine Run.same_end_bind (Run.same_end_refl _) fun callee ready found => ?_
  have heedless := unnoticed narrowed between callee ready narrows found
  have typed : left.parameters.map Parameter.type = pairs.map fun pair => pair.left.type := by
    rw [lefts, List.map_map]
    rfl
  rw [typed, lefts, ordered_of_pairs] at heedless
  rw [ordered_of_pairs, ordered_of_pairs]
  refine Run.same_end_bind (accept_each_alike _ heedless) fun values final _ => ?_
  exact Run.same_end_refl _

end Alike

-- What reads a property or a field does not hang on its type at all.
theorem reader_of_same {world known heard : World} {left right : Member} {lambda partner : Lambda}
    (same : world.SameMember left right) (passive : ∀ method, left ≠ .method method)
    (tried : Reading.member known left = .ok lambda)
    (alsoTried : Reading.member heard right = .ok partner) : partner = lambda := by
  cases same with
  | method => exact absurd rfl (passive _)
  | @property left right declared named typed =>
      obtain ⟨_, rfl⟩ := property_gives tried
      obtain ⟨_, rfl⟩ := property_gives alsoTried
      rw [getting, getting, propertyBody, propertyBody, declared, named]
  | @field left right declared named typed =>
      cases tried
      cases alsoTried
      rw [Reading.field, Reading.field, fieldBody, fieldBody, declared, named]
  | bare declaring name => cases tried

end Reading

namespace Writing

-- A write of a value that does not notice in which order it is asked for the alternatives of the
-- type, in the store that the check of the target leaves.
def Unnoticed (world later : World) (caller : Caller) (member : Member) (target value : Value)
    (before : Store) : Prop :=
  ∀ type narrowed ready, declaredType? member = some type →
    ((Conversion.cast (.cls member.declaring) false).apply later caller target).execute before =
      (.ok narrowed, ready) →
    world.Indifferent later ready value type

section Alike

variable {world later : World} {caller : Caller} {left right : Member} {target value : Value}
  {store : Store}

theorem storing_of_same (same : world.SameMember left right)
    (shares : World.SharesAccessors left right) :
    storing later caller target value right = storing later caller target value left := by
  cases same with
  | method => rfl
  | property declared named typed =>
      rw [storing, storing, VirtualSetter.ofProperty, VirtualSetter.ofProperty, named, shares.2]
  | field declared named typed => rw [storing, storing, named]
  | bare declaring name => rfl

theorem checked_alike (same : world.SameMember left right)
    (shares : World.SharesAccessors left right) (plain : world.PlainMember left)
    (alsoPlain : world.PlainMember right) {type partner : TypeForm}
    {conversion twin : Option Conversion} (declared : declaredType? left = some type)
    (alsoDeclared : declaredType? right = some partner)
    (converted : world.conversionFor type false = .ok conversion)
    (alsoConverted : world.conversionFor partner false = .ok twin)
    (unnoticed : Unnoticed world later caller left target value store) :
    Run.SameEnd ((checked later caller left conversion target value).execute store)
      ((checked later caller right twin target value).execute store) := by
  obtain ⟨other, found, typed⟩ := World.same_member_declared same declared
  rw [alsoDeclared] at found
  cases found
  have plainType := plain.held type declared
  have alsoPlainType := alsoPlain.held partner alsoDeclared
  obtain ⟨other, found, alike⟩ :=
    World.counterpart_converted converted typed plainType alsoPlainType
  rw [alsoConverted] at found
  cases found
  rw [checked, checked, (World.same_member_agrees same).1, storing_of_same same shares]
  refine Run.same_end_bind (Run.same_end_refl _) fun narrowed ready narrows => ?_
  refine Run.same_end_bind (World.counterparts_convert caller converted alsoConverted typed
    plainType.tidy alsoPlainType.tidy alike (unnoticed type narrowed ready declared narrows)) ?_
  intro result final _
  exact Run.same_end_refl _

end Alike

end Writing

namespace Strategy

-- What can be told of two members from outside: which thunks they have, and how these end.
structure Interchangeable (world : World) (caller : Caller) (registry : Registry)
    (options : Options) (label : Option String) (store : Store) (left right : Member) : Prop where
  reads : (built world caller registry options .read label (.member left) store).isOk =
    (built world caller registry options .read label (.member right) store).isOk
  writes : (built world caller registry options .write label (.member left) store).isOk =
    (built world caller registry options .write label (.member right) store).isOk
  -- A property or a field is read alike from every target.
  fetches : ∀ first second : Thunk, (∀ method, left ≠ .method method) →
    built world caller registry options .read label (.member left) store = .ok first →
    built world caller registry options .read label (.member right) store = .ok second →
    ∀ (later : World) (target : Value) (before : Store),
      Run.SameEnd ((first.call later [target]).plain.execute before)
        ((second.call later [target]).plain.execute before)
  -- A method is called alike with arguments that do not notice it.
  invokes : ∀ (method : MethodMember) (first second : Thunk), left = .method method →
    built world caller registry options .read label (.member left) store = .ok first →
    built world caller registry options .read label (.member right) store = .ok second →
    ∀ (later : World) (target container : Value) (before : Store),
      Reading.Unnoticed world later (later.call World.callLimit) method target container before →
      Run.SameEnd ((first.call later [target, container]).plain.execute before)
        ((second.call later [target, container]).plain.execute before)
  -- A value that does not notice it is written alike.
  stores : ∀ first second : Thunk,
    built world caller registry options .write label (.member left) store = .ok first →
    built world caller registry options .write label (.member right) store = .ok second →
    ∀ (later : World) (target value : Value) (before : Store),
      Writing.Unnoticed world later (later.call World.callLimit) left target value before →
      Run.SameEnd ((first.call later [target, value]).plain.execute before)
        ((second.call later [target, value]).plain.execute before)

section Equal

variable {world : World} {caller : Caller} {registry : Registry} {options : Options}
  {label : Option String} {store : Store} {left right : Member}

theorem ok_of_counterpart {ε α : Type} {first second : Except ε α}
    (onward : ∀ made, first = .ok made → ∃ other, second = .ok other)
    (back : ∀ made, second = .ok made → ∃ other, first = .ok other) :
    first.isOk = second.isOk := by
  cases first with
  | ok made =>
      obtain ⟨other, rfl⟩ := onward made rfl
      rfl
  | error fault =>
      cases second with
      | ok made =>
          obtain ⟨other, same⟩ := back made rfl
          cases same
      | error other => rfl

theorem method_thunk_performs {method : MethodMember} {thunk : Thunk}
    (tidy : ∀ parameter ∈ method.parameters, world.Tidy parameter.type)
    (made : built world caller registry options .read label (.member (.method method)) store =
      .ok thunk) :
    ∃ conversions, Reading.conversionsOf world method.parameters = .ok conversions ∧
      ∀ (later : World) (target container : Value), (thunk.call later [target, container]).plain =
        Reading.perform later (later.call World.callLimit) method conversions target container := by
  obtain ⟨known, conversions, informed, found, runs⟩ := method_thunk_runs rfl made
  exact ⟨conversions, Reading.conversions_told informed tidy found, runs⟩

theorem methods_invoke_alike {method other : MethodMember} {first second : Thunk}
    (same : world.SameMember (.method method) (.method other))
    (plain : world.PlainMember (.method method)) (alsoPlain : world.PlainMember (.method other))
    (made : built world caller registry options .read label (.member (.method method)) store =
      .ok first)
    (found : built world caller registry options .read label (.member (.method other)) store =
      .ok second) {later : World} {target container : Value} {before : Store}
    (unnoticed : Reading.Unnoticed world later (later.call World.callLimit) method target container
      before) :
    Run.SameEnd ((first.call later [target, container]).plain.execute before)
      ((second.call later [target, container]).plain.execute before) := by
  obtain ⟨conversions, converted, runs⟩ := method_thunk_performs
    (fun parameter listed => (plain.accepted method rfl parameter listed).tidy) made
  obtain ⟨twins, alsoConverted, alsoRuns⟩ := method_thunk_performs
    (fun parameter listed => (alsoPlain.accepted other rfl parameter listed).tidy) found
  cases same with
  | method declared named taken given =>
      obtain ⟨pairs, lefts, rights, rfl, others⟩ := World.paired_parameters taken
        (plain.accepted method rfl) (alsoPlain.accepted other rfl) converted
      rw [others] at alsoConverted
      cases alsoConverted
      rw [runs, alsoRuns]
      exact Reading.perform_alike declared named given lefts.symm rights.symm unnoticed

theorem written_conversion {thunk : Thunk} (plain : world.PlainMember left)
    (made : built world caller registry options .write label (.member left) store = .ok thunk) :
    ∃ type conversion, Writing.declaredType? left = some type ∧
      world.conversionFor type false = .ok conversion ∧
      ∀ (later : World) (target value : Value), (thunk.call later [target, value]).plain =
        Writing.checked later (later.call World.callLimit) left conversion target value := by
  obtain ⟨type, known, conversion, declared, informed, found, runs⟩ := write_thunk_runs rfl made
  exact ⟨type, conversion, declared,
    World.conversion_told informed (plain.held type declared).tidy found, runs⟩

end Equal

-- A class with a method that gives back its arguments, a class whose objects are seen when they are
-- asked for their class, a class whose objects equal everything, and one whose objects raise when
-- they are asked for the type that they stand for.
def stalls : World :=
  (((World.empty.declare (.ofMembers "Stall" [.method "take" .toTarget (.routine
      ⟨some (Formal.named "self"), [⟨"goods", .ordinary, none, none⟩], none,
        [.give .arguments]⟩)])).declare
    (.ofMembers "Claimant" [.property "__class__" (some (.routine
      ⟨some (Formal.named "self"), [], none, [.give (.constant (.cls (.builtin .str)))]⟩))
        none])).declare
    (.ofMembers "Flatterer" [.method "__eq__" .toTarget (.routine
      ⟨some (Formal.named "self"), [⟨"other", .ordinary, none, none⟩], none,
        [.give (.constant (.bool true))]⟩)])).declare
    (.ofMembers "Riddle" [.property "__supertype__" (some (.routine
      ⟨some (Formal.named "self"), [], none, [.fail .valueFault "boom"]⟩)) none])

def stallThunk (request : Request) (member : Member) : Except CompileFault Thunk :=
  built stalls (stalls.call World.callLimit) .empty .standard request none (.member member) .empty

def takeMethod (goods : TypeForm) : MethodMember :=
  ⟨.declared 0, "take", [⟨"goods", goods, false⟩], .cls .object, "instance"⟩

def stallField (goods : TypeForm) : FieldMember := ⟨.declared 0, "x", goods⟩

-- A type that admits the instances of two classes.
def either (first second : ClassRef) : TypeForm := .union .bar [.cls first, .cls second]

theorem either_tidy {first second : ClassRef} (apart : first ≠ second)
    (bare : stalls.classSupertype? first = none) (alsoBare : stalls.classSupertype? second = none) :
    stalls.Tidy (either first second) :=
  World.tidy_classes .bar (show [first, second].Nodup by simpa using apart)
    (by simp [bare, alsoBare])

theorem either_plain (first second : ClassRef) (apart : first ≠ second)
    (bare : stalls.classSupertype? first = none) (alsoBare : stalls.classSupertype? second = none)
    (converted : ∃ made, stalls.conversionFor (either first second) false = .ok made) :
    stalls.Plain (either first second) :=
  ⟨rfl, rfl, either_tidy apart bare alsoBare, fun _ => converted⟩

theorem either_indifferent {first second : ClassRef} {later : World} {store : Store}
    {value : Value} (candid : later.Candid store value)
    (concrete : ∀ target ∈ [first, second], World.Askable target ∧ ¬ World.IsAbstract target)
    (bare : ∀ target ∈ [first, second], stalls.classSupertype? target = none) :
    stalls.Indifferent later store value (either first second) := by
  refine .candid candid ?_
  intro leaf alternative target named
  obtain ⟨found, listed, rfl⟩ := World.alternative_of_classes bare alternative
  cases named
  exact concrete _ listed

theorem take_unnoticed : Reading.Unnoticed stalls stalls (stalls.call World.callLimit)
    (takeMethod (either (.builtin .int) (.builtin .str))) (.object 0 (.declared 0))
    (.list [.text "a"]) .empty := by
  intro narrowed between callee ready narrows found
  have cast : ((Conversion.cast (.cls (.declared 0)) false).apply stalls
      (stalls.call World.callLimit) (.object 0 (.declared 0))).execute .empty =
        (.ok (.object 0 (.declared 0)), .empty) := by with_unfolding_all rfl
  have got : (stalls.normalGet (stalls.call World.callLimit) (.object 0 (.declared 0))
      "take").execute .empty =
        (.ok (.bound (.object 0 (.declared 0)) (.function 0 "Stall.take")), .empty) := by
    with_unfolding_all rfl
  cases cast.symm.trans narrows
  cases got.symm.trans found
  intro item after read
  have given : (stalls.item (stalls.call World.callLimit) (.list [.text "a"]) (.int 0)).execute
      .empty = (.ok (.text "a"), .empty) := by with_unfolding_all rfl
  cases given.symm.trans read
  refine ⟨either_indifferent (.inl rfl) ?_ ?_, fun _ _ _ _ _ => trivial⟩
  · intro target listed
    simp only [List.mem_cons, List.not_mem_nil, or_false] at listed
    rcases listed with rfl | rfl <;> exact ⟨trivial, id⟩
  · intro target listed
    simp only [List.mem_cons, List.not_mem_nil, or_false] at listed
    rcases listed with rfl | rfl <;> with_unfolding_all rfl

theorem take_plain {goods : TypeForm} (plain : stalls.Plain goods) :
    stalls.PlainMember (.method (takeMethod goods)) := by
  refine ⟨?_, ?_, ?_⟩
  · rintro method same parameter listed
    cases same
    cases List.mem_singleton.mp listed
    exact plain
  · rintro method same
    cases same
    exact ⟨rfl, rfl⟩
  · intro type declared
    cases declared

-- What is seen of how a write ends: whether it goes through, which routines have been called, and
-- how much abstract classes remember.
def seen (ended : Except Raised Value × Store) : Bool × List String × Nat :=
  (ended.1.isOk, ended.2.trace.map Event.routine, ended.2.verdicts.length)

def seenOfWrite (member : Member) (target value : Value) : Option (Bool × List String × Nat) :=
  match stallThunk .write member with
  | .error _ => none
  | .ok thunk => some (seen ((thunk.call stalls [target, value]).plain.execute .empty))

-- Members that are found equal and of which only the second has a thunk.
def OneBuilds (request : Request) (left right : Member) : Prop :=
  (Member.equals stalls (stalls.call World.callLimit) left right).succeeds .empty = true ∧
  (stallThunk request left).isOk = false ∧ (stallThunk request right).isOk = true

-- Members that are found equal and whose writes of one value end differently.
def Separates (left right : Member) (target value : Value) : Prop :=
  (Member.equals stalls (stalls.call World.callLimit) left right).succeeds .empty = true ∧
  ∃ first second, stallThunk .write left = .ok first ∧ stallThunk .write right = .ok second ∧
    ¬ Run.SameEnd ((first.call stalls [target, value]).plain.execute .empty)
      ((second.call stalls [target, value]).plain.execute .empty)

theorem seen_alike {one other : Except Raised Value × Store} (same : Run.SameEnd one other) :
    seen one = seen other := by
  cases same <;> rfl

theorem separates_of_seen {left right : Member} {target value : Value}
    (one other : Bool × List String × Nat)
    (equal : (Member.equals stalls (stalls.call World.callLimit) left right).succeeds .empty = true)
    (first : seenOfWrite left target value = some one)
    (second : seenOfWrite right target value = some other) (apart : one ≠ other) :
    Separates left right target value := by
  refine ⟨equal, ?_⟩
  unfold seenOfWrite at first second
  split at first
  · cases first
  · rename_i thunk made
    split at second
    · cases second
    · rename_i partner found
      cases first
      cases second
      exact ⟨thunk, partner, made, found, fun same => apart (seen_alike same)⟩

def stallProperty (getter setter : Option Value) : Member :=
  .property ⟨.declared 0, "x", .cls (.builtin .int), getter, setter⟩

def protocolClass : ClassRef := .builtin (.other "typing" "Protocol")

def take : Value := .function 0 "Stall.take"

def admire : Value := .function 2 "Flatterer.__eq__"

def flattered : TypeForm := .value (.object 1 (.declared 2))

def riddled : TypeForm := .value (.object 2 (.declared 3))

def hashable : ClassRef := .builtin (.abstract .hashable)

end Strategy

end MemberThunks
