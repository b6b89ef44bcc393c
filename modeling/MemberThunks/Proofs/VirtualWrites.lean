import MemberThunks.Member.Describe
import MemberThunks.Proofs.EqualConversions
import MemberThunks.Proofs.FieldThunks
import MemberThunks.Proofs.PropertyReads

set_option autoImplicit false

/- Writes of a property go by the class of the target. The first class along its order that has
   the name decides: where it has a property that can be written, the setter of that one is called,
   as an assignment would, and else the setter that the thunk was built with. So the thunks of
   properties of one name write alike wherever the class of the target can be written. -/
namespace MemberThunks

namespace World

-- A class that has a property under a name, by the first class of its order that has the name,
-- which can be written.
structure Writes (world : World) (target : ClassRef) (name : String) (definition : Property)
    (setter : Value) : Prop where
  found : ∃ holder, world.lookup target name = some (holder, .property definition)
  settable : definition.setter = some setter

section Writes

variable {world : World} {target : ClassRef} {name : String} {definition : Property}
  {setter : Value}

theorem overriding_of_writes (writes : world.Writes target name definition setter) :
    VirtualSetter.overriding? world target name = some setter := by
  obtain ⟨⟨holder, found⟩, settable⟩ := writes
  rw [VirtualSetter.overriding?, found]
  exact settable

theorem overriding_of_none
    (unwritten : ∀ definition setter, ¬ world.Writes target name definition setter) :
    VirtualSetter.overriding? world target name = none := by
  rw [VirtualSetter.overriding?]
  split
  · rename_i holder definition found
    cases settable : definition.setter with
    | none => rfl
    | some setter => exact absurd ⟨⟨holder, found⟩, settable⟩ (unwritten definition setter)
  · rfl

-- The direct store of a property is a call of its setter.
theorem direct_set_property {call : Caller} {store : Store} {object content : Value}
    (writes : world.Writes (store.current object).typeOf name definition setter) :
    (world.directSet call object name content).execute store =
      (call setter [store.current object, content] [] >>= fun _ => pure () : Run Unit).execute
        store := by
  obtain ⟨⟨holder, found⟩, settable⟩ := writes
  obtain ⟨place, placed⟩ := place_of_start found (by simp [Attribute.isOfWorld, settable])
  have started : (get : Run Store).execute store = (.ok store, store) := rfl
  rw [directSet, Run.execute_bind_ok started]
  dsimp only
  split
  · rename_i itself same
    rw [same] at placed
    cases placed
  · simp only [found, settable]

end Writes

end World

namespace Writing

section Laws

variable {world : World} {caller : Caller} {property : PropertyMember} {own setter : Value}
  {conversion : Option Conversion} {target value : Value} {store ready : Store}

-- One call of a setter, and nothing else.
def setting (caller : Caller) (setter target value : Value) : Run Value := do
  let _ ← caller setter [target, value] []
  return .none

-- A write that is admitted is one call of the setter that the class of the target resolves to.
theorem setter_called
    (ran : (checks world caller (.property property) conversion target value).execute store =
      (.ok (), ready))
    (resolves : (VirtualSetter.ofProperty property).resolve world (ready.current target).typeOf =
      some setter) :
    (checked world caller (.property property) conversion target value).execute store =
      (setting caller setter target value).execute ready := by
  have started : (get : Run Store).execute ready = (.ok ready, ready) := rfl
  rw [checked_after_checks, Run.execute_bind_ok ran, storing, VirtualSetter.call, bind_assoc,
    Run.execute_bind_ok started]
  simp only [resolves, Option.getD_some, bind_assoc, pure_bind, setting]

theorem resolved_by_class {target : ClassRef} {definition : Property}
    (writes : world.Writes target property.name definition setter) :
    (VirtualSetter.ofProperty property).resolve world target = some setter := by
  rw [VirtualSetter.resolve, VirtualSetter.ofProperty]
  simp only [World.overriding_of_writes writes, Option.some_or]

theorem resolved_by_capture (held : property.setter = some own) {target : ClassRef}
    (unwritten : ∀ definition setter, ¬ world.Writes target property.name definition setter) :
    (VirtualSetter.ofProperty property).resolve world target = some own := by
  rw [VirtualSetter.resolve, VirtualSetter.ofProperty]
  simp only [World.overriding_of_none unwritten, Option.none_or, held]

end Laws

-- The laws of a write of a property, which was built with a setter of its own.
structure SetterLaws (world : World) (caller : Caller) (property : PropertyMember) (own : Value)
    (conversion : Option Conversion) (write : Value → Value → Run Value) : Prop where
  -- A write that a check refuses calls no setter.
  refused : ∀ (target value : Value) (store ready : Store) (raised : Raised),
    (checks world caller (.property property) conversion target value).execute store =
      (.error raised, ready) →
    (write target value).execute store = (.error raised, ready)
  -- Where the class of the target can be written, its setter is called once, as the direct store
  -- calls it.
  assigned : ∀ (target value : Value) (store ready : Store) (definition : Property)
    (setter : Value),
    (checks world caller (.property property) conversion target value).execute store =
      (.ok (), ready) →
    world.Writes (ready.current target).typeOf property.name definition setter →
    (write target value).execute store = (setting caller setter target value).execute ready ∧
      (world.directSet caller target property.name value).execute ready =
        (caller setter [ready.current target, value] [] >>= fun _ => pure () : Run Unit).execute
          ready ∧
      (ready.current target = target → (write target value).execute store =
        (world.directSet caller target property.name value >>= fun _ => pure Value.none).execute
          ready)
  -- Where it cannot be written, the setter that the write was built with is called once.
  captured : ∀ (target value : Value) (store ready : Store),
    (checks world caller (.property property) conversion target value).execute store =
      (.ok (), ready) →
    (∀ definition setter,
      ¬ world.Writes (ready.current target).typeOf property.name definition setter) →
    (write target value).execute store = (setting caller own target value).execute ready
  -- Checks of a value and a target that are asked nothing leave the store unmoved.
  unmoved : ∀ (target value : Value) (store ready : Store) (outcome : Except Raised Unit),
    world.Vouched store target property.declaring → world.Candid store value →
    (checks world caller (.property property) conversion target value).execute store =
      (outcome, ready) →
    world.Unmoved store ready

theorem setter_laws {world : World} {caller : Caller} {property : PropertyMember} {own : Value}
    (held : property.setter = some own) (conversion : Option Conversion) :
    SetterLaws world caller property own conversion
      (checked world caller (.property property) conversion) where
  refused _ _ _ _ _ ran := by rw [checked_after_checks, Run.execute_bind_error ran]
  assigned := by
    intro target value store ready definition setter ran writes
    have called := setter_called ran (resolved_by_class writes)
    have direct : (world.directSet caller target property.name value).execute ready =
        (caller setter [ready.current target, value] [] >>= fun _ => pure () : Run Unit).execute
          ready := World.direct_set_property writes
    refine ⟨called, direct, fun current => ?_⟩
    rw [Run.execute_bind_congr direct, bind_assoc, called, current]
    simp only [setting, pure_bind]
  captured _ _ _ _ ran unwritten := setter_called ran (resolved_by_capture held unwritten)
  unmoved _ _ _ _ _ vouched candid ran := checks_quiet vouched candid ran

-- A write whose checks leave no trace: they go by the class of the target alone, they call
-- nothing of the value, and no abstract class has anything to remember.
structure Undisturbed (known world : World) (property : PropertyMember) (target value : Value)
    (store : Store) : Prop where
  vouched : world.Vouched store target property.declaring
  concrete : ¬ World.IsAbstract property.declaring
  candid : world.Candid store value
  steadfast : ∀ leaf, known.Alternative property.type leaf → World.IsSteadfast leaf

theorem checks_still {known world : World} {caller : Caller} {property : PropertyMember}
    {conversion : Option Conversion} {target value : Value} {store : Store}
    (found : known.conversionFor property.type false = .ok conversion)
    (undisturbed : Undisturbed known world property target value store) :
    ((checks world caller (.property property) conversion target value).execute store).2 =
      store := by
  obtain ⟨vouched, concrete, candid, steadfast⟩ := undisturbed
  have admits : (world.isInstance caller (store.current target) property.declaring).execute store =
      (.ok true, store) := by
    rw [World.known_by_class caller vouched.askable concrete vouched.counts]
    rfl
  have narrowed : ((Conversion.cast (.cls (Member.property property).declaring) false).apply world
      caller target).execute store = (.ok target, store) := Conversion.cast_admits admits
  have kept : ((Conversion.applyOptional world caller conversion value).execute store).2 = store :=
    World.conversion_still found candid steadfast
  rw [checks, Run.execute_bind_ok narrowed]
  cases converting : (Conversion.applyOptional world caller conversion value).execute store with
  | mk outcome after =>
      rw [converting] at kept
      cases outcome with
      | error raised =>
          rw [Run.execute_bind_error converting]
          exact kept
      | ok result =>
          rw [Run.execute_bind_ok converting]
          exact kept

-- The laws of two writes of properties of one name, each built with a setter of its own.
structure SharedSetter (world : World) (caller : Caller) (left right : PropertyMember)
    (own twin : Value) (conversion other : Option Conversion)
    (first second : Value → Value → Run Value) : Prop where
  -- Where the class of the target can be written, both call its setter, once.
  shared : ∀ (target value : Value) (store ready last : Store) (definition : Property)
    (setter : Value),
    (checks world caller (.property left) conversion target value).execute store =
      (.ok (), ready) →
    (checks world caller (.property right) other target value).execute store = (.ok (), last) →
    last.current target = ready.current target →
    world.Writes (ready.current target).typeOf left.name definition setter →
    (first target value).execute store = (setting caller setter target value).execute ready ∧
      (second target value).execute store = (setting caller setter target value).execute last
  -- Where it cannot be written, each calls the setter that it was built with, once.
  apart : ∀ (target value : Value) (store ready last : Store),
    (checks world caller (.property left) conversion target value).execute store =
      (.ok (), ready) →
    (checks world caller (.property right) other target value).execute store = (.ok (), last) →
    last.current target = ready.current target →
    (∀ definition setter,
      ¬ world.Writes (ready.current target).typeOf left.name definition setter) →
    (first target value).execute store = (setting caller own target value).execute ready ∧
      (second target value).execute store = (setting caller twin target value).execute last
  -- Where the checks of both leave the same and one setter is called, the writes end alike.
  alike : ∀ (target value : Value) (store ready : Store),
    (checks world caller (.property left) conversion target value).execute store =
      (.ok (), ready) →
    (checks world caller (.property right) other target value).execute store = (.ok (), ready) →
    (own = twin ∨ ∃ definition setter,
      world.Writes (ready.current target).typeOf left.name definition setter) →
    (first target value).execute store = (second target value).execute store

theorem shared_setter {world : World} {caller : Caller} {left right : PropertyMember}
    {own twin : Value} (named : right.name = left.name) (held : left.setter = some own)
    (alsoHeld : right.setter = some twin) (conversion other : Option Conversion) :
    SharedSetter world caller left right own twin conversion other
      (checked world caller (.property left) conversion)
      (checked world caller (.property right) other) where
  shared _ _ _ _ _ _ _ ran alsoRan same writes :=
    ⟨setter_called ran (resolved_by_class writes),
      setter_called alsoRan (resolved_by_class (by rwa [same, named]))⟩
  apart _ _ _ _ _ ran alsoRan same unwritten :=
    ⟨setter_called ran (resolved_by_capture held unwritten),
      setter_called alsoRan (resolved_by_capture alsoHeld (by rwa [same, named]))⟩
  alike := by
    intro target value store ready ran alsoRan called
    obtain ⟨setter, first, second⟩ : ∃ setter,
        (VirtualSetter.ofProperty left).resolve world (ready.current target).typeOf =
            some setter ∧
          (VirtualSetter.ofProperty right).resolve world (ready.current target).typeOf =
            some setter := by
      by_cases writable : ∃ definition setter,
          world.Writes (ready.current target).typeOf left.name definition setter
      · obtain ⟨definition, setter, writes⟩ := writable
        exact ⟨setter, resolved_by_class writes, resolved_by_class (by rwa [named])⟩
      · have unwritten : ∀ definition setter,
            ¬ world.Writes (ready.current target).typeOf left.name definition setter :=
          fun definition setter writes => writable ⟨definition, setter, writes⟩
        rw [← called.resolve_right writable] at alsoHeld
        exact ⟨own, resolved_by_capture held unwritten,
          resolved_by_capture alsoHeld (by rwa [named])⟩
    exact (setter_called ran first).trans (setter_called alsoRan second).symm

end Writing

namespace Reading

-- The law of a read of a property: the getter of the class of the target runs, whatever class the
-- property was taken from, and its result is the result of the read.
structure GetterLaw (world : World) (caller : Caller) (property : PropertyMember)
    (read : Value → Run Value) : Prop where
  got : ∀ (target : Value) (store between : Store) (definition : Property)
    (setter getter : Value),
    (world.isInstance caller (store.current target) property.declaring).execute store =
      (.ok true, between) →
    world.Writes (between.current target).typeOf property.name definition setter →
    definition.getter = some getter →
    world.hook? (between.current target) "__getattribute__" = none →
    (read target).execute store =
        (World.orFallback caller (world.hook? (between.current target) "__getattr__")
          property.name (caller getter [between.current target] [])).execute between ∧
      ∀ result after, (caller getter [between.current target] []).execute between =
        (.ok result, after) → (read target).execute store = (.ok result, after)

theorem getter_law (world : World) (caller : Caller) (property : PropertyMember) :
    GetterLaw world caller property (look world caller property) where
  got := by
    intro target store between definition setter getter admits writes reads unhooked
    obtain ⟨⟨holder, found⟩, settable⟩ := writes
    have gets : (look world caller property target).execute store =
        (World.orFallback caller (world.hook? (between.current target) "__getattr__")
          property.name (caller getter [between.current target] [])).execute between := by
      rw [look, Run.execute_bind_ok (Conversion.cast_admits admits)]
      exact World.normal_get_property found (by simp [settable]) reads unhooked
    exact ⟨gets, fun result after ran => gets.trans (World.fallback_not_asked ran)⟩

end Reading

namespace Describe

-- A property is described as the first class along the order that has its name has it.
theorem property_tells {world : World} {caller : Caller} {start : ClassRef} {name : String}
    {property : PropertyMember} {before after : Store}
    (told : (Describe.property world caller start name).run.run before = (.ok property, after)) :
    property.name = name ∧ ∃ definition,
      world.lookup start name = some (property.declaring, .property definition) ∧
      property.setter = definition.setter := by
  rw [Describe.property] at told
  split at told
  · rename_i owner definition found
    obtain ⟨type, _, _, told⟩ := ok_of_run_bind told
    obtain ⟨_, _, _, told⟩ := ok_of_run_bind told
    cases told
    exact ⟨rfl, definition, found, rfl⟩
  · cases told

-- Properties that one class declares under one name have one setter.
theorem setter_of_declaring {world : World} {caller asker : Caller} {start other : ClassRef}
    {name : String} {left right : PropertyMember} {before between after final : Store}
    (told : (Describe.property world caller start name).run.run before = (.ok left, after))
    (alsoTold : (Describe.property world asker other name).run.run between = (.ok right, final))
    (same : left.declaring = right.declaring) : left.setter = right.setter := by
  obtain ⟨_, definition, found, held⟩ := property_tells told
  obtain ⟨_, twin, alsoFound, alsoHeld⟩ := property_tells alsoTold
  have first := (World.held_of_lookup found).2
  have second := (World.held_of_lookup alsoFound).2
  rw [same, second] at first
  cases first
  rw [held, alsoHeld]

end Describe

namespace Strategy

section Thunks

variable {world elsewhere : World} {caller asker : Caller} {store later : Store}

-- A thunk that writes a property was built with a setter of its own.
theorem property_write_runs {property : PropertyMember} {writing : Request}
    (writes : writesMember writing = true) {registry : Registry} {options : Options}
    {label : Option String} {write : Thunk}
    (made : built world caller registry options writing label (.member (.property property))
      store = .ok write) :
    ∃ own known conversion, property.setter = some own ∧ world.Informed known ∧
      known.conversionFor property.type false = .ok conversion ∧
      ∀ (present : World) (target value : Value), (write.call present [target, value]).plain =
        Writing.checked present (present.call World.callLimit) (.property property) conversion
          target value := by
  obtain ⟨type, known, conversion, declared, heard, converted, runs⟩ :=
    write_thunk_runs writes made
  cases declared
  obtain ⟨informed, program, _, _, composed, _⟩ := built_by_listing writes made
  cases held : property.setter with
  | none => simp [Writing.member, Writing.property, held] at composed
  | some own => exact ⟨own, known, conversion, rfl, heard, converted, runs⟩

end Thunks

def dialGetter (mark : String) : RoutineDecl :=
  ⟨some (Formal.named "self"), [], some (.cls (.builtin .str)), [.give (.constant (.text mark))]⟩

def dialSetter (mark : String) : RoutineDecl :=
  ⟨some (Formal.named "self"), [Formal.named "value"], none, [.store mark (.parameter "value")]⟩

-- A class with a property, one that derives from it and overrides both accessors, one that
-- derives from that and overrides the getter alone, and a class whose objects say that they are
-- texts.
def dials : World :=
  (((World.empty.declare (.ofMembers "Dial" [.property "x" (some (.routine (dialGetter "low")))
    (some (.routine (dialSetter "low")))])).declare
    { ClassDecl.ofMembers "Notched" [.property "x" (some (.routine (dialGetter "high")))
        (some (.routine (dialSetter "high")))] with bases := [.declared 0] }).declare
    { ClassDecl.ofMembers "Sealed" [.property "x" (some (.routine (dialGetter "shut"))) none] with
      bases := [.declared 1] }).declare
    (.ofMembers "Claimant" [.property "__class__" (some (.routine
      ⟨some (Formal.named "self"), [], none, [.give (.constant (.cls (.builtin .str)))]⟩)) none])

def dialProperty : PropertyMember :=
  ⟨.declared 0, "x", .cls (.builtin .str), some (.function 0 "Dial.x"),
    some (.function 1 "Dial.x")⟩

def notchedProperty : PropertyMember :=
  ⟨.declared 1, "x", .cls (.builtin .str), some (.function 2 "Notched.x"),
    some (.function 3 "Notched.x")⟩

-- The thunk of a property of these classes, where none has been built before it.
def dialThunk (request : Request) (property : PropertyMember) : Except CompileFault Thunk :=
  built dials (dials.call World.callLimit) .empty .standard request none
    (.member (.property property)) .empty

theorem dial_write_built : (dialThunk .write dialProperty).isOk = true := by decide +kernel

theorem notched_writes : ∃ definition,
    dials.Writes (.declared 1) "x" definition (.function 3 "Notched.x") ∧
      definition.getter = some (.function 2 "Notched.x") :=
  ⟨_, ⟨⟨.declared 1, by with_unfolding_all rfl⟩, rfl⟩, rfl⟩

theorem dial_conversion {known : World} {conversion : Option Conversion}
    (converted : known.conversionFor (.cls (.builtin .str)) false = .ok conversion) :
    conversion = some (.cast (.cls (.builtin .str)) false) := by
  cases converted
  rfl

section Thunks

variable {world : World} {caller asker : Caller} {store later : Store}

end Thunks

theorem dial_described :
    (Describe.property dials (dials.call World.callLimit) (.declared 0) "x").run.run .empty =
      (.ok dialProperty, .empty) := by
  with_unfolding_all rfl

theorem notched_described :
    (Describe.property dials (dials.call World.callLimit) (.declared 1) "x").run.run .empty =
      (.ok notchedProperty, .empty) := by
  with_unfolding_all rfl

end Strategy

end MemberThunks
