import MemberThunks.Proofs.CheckedCalls
import MemberThunks.Proofs.VirtualWrites

set_option autoImplicit false

/- Failures of members come out of their thunks. A thunk catches nothing: what the method, the
   getter or the setter raises that it calls is what the call of the thunk raises, and the store is
   the one that the member leaves. Only the read of an attribute catches something, for the
   fallback of the class of the target, as every read of an attribute does. -/
namespace MemberThunks

namespace World

variable {world : World} {call : Caller} {name : String}

theorem fallback_passes {fallback : Option Value} {access : Run Value} {raised : Raised}
    {store after : Store} (fails : access.execute store = (.error raised, after))
    (unasked : fallback = none ∨ raised.isAttributeFault = false) :
    (orFallback call fallback name access).execute store = (.error raised, after) := by
  cases fallback with
  | none => exact fails
  | some answer =>
      have other : raised.isAttributeFault = false := unasked.resolve_left (by simp)
      simp only [orFallback, Run.execute, tryCatch, tryCatchThe, MonadExceptOf.tryCatch,
        ExceptT.tryCatch, ExceptT.run, ExceptT.mk, StateT.run, bind, StateT.bind]
      rw [show access store = (.error raised, after) from fails]
      simp only [other]
      rfl

theorem fallback_answers {answer : Value} {access : Run Value} {raised : Raised}
    {store after : Store} (fails : access.execute store = (.error raised, after))
    (fault : raised.isAttributeFault = true) :
    (orFallback call (some answer) name access).execute store =
      (call answer [.text name] []).execute after := by
  simp only [orFallback, Run.execute, tryCatch, tryCatchThe, MonadExceptOf.tryCatch,
    ExceptT.tryCatch, ExceptT.run, ExceptT.mk, StateT.run, bind, StateT.bind]
  rw [show access store = (.error raised, after) from fails]
  simp only [fault, if_true]

-- Only a class of the world has an ancestor of the world.
theorem start_of_holder {start holder : ClassRef} {entry : Attribute} {place : Nat}
    (found : world.lookup start name = some (holder, entry))
    (placed : holder.place? = some place) : ∃ place, start.place? = some place := by
  cases start with
  | declared place => exact ⟨place, rfl⟩
  | enumeration place transparent => exact ⟨place, rfl⟩
  | builtin kind =>
      obtain ⟨ancestor, _, same⟩ := List.mem_map.mp (held_of_lookup found).1
      subst same
      cases placed

-- A target whose class has a property of the world under a name, with a getter.
structure Gets (world : World) (store : Store) (target : Value) (name : String) (getter : Value) :
    Prop where
  found : ∃ holder definition place,
    world.lookup (store.current target).typeOf name = some (holder, .property definition) ∧
      holder.place? = some place ∧ definition.getter = some getter

-- How a getter fails on an object: called by the read itself, called by a hook of the class which
-- has answers for other names and reads this one directly, or behind any other hook, where the
-- failure is the one that the hook lets out.
inductive GetterRaises (world : World) (object : Value) (name : String) (getter : Value)
    (store : Store) (raised : Raised) (after : Store) : Prop where
  | itself (unhooked : world.hook? object "__getattribute__" = none)
      (fails : (world.call callLimit getter [object] []).execute store = (.error raised, after)) :
      GetterRaises world object name getter store raised after
  | passedOn (index : Nat) (qualname owner : String) (table : List (String × Value))
      (hooked : world.hook? object "__getattribute__" =
        some (.bound object (.function index qualname)))
      (known : world.routines[index]? =
        some (hookRoutine owner "__getattribute__" ["key"] (.masked table)))
      (unmasked : table.lookup name = none)
      (fails : (world.call 998 getter [object] []).execute store = (.error raised, after)) :
      GetterRaises world object name getter store raised after
  | letOut (hook : Value) (hooked : world.hook? object "__getattribute__" = some hook)
      (fails : (world.call callLimit hook [.text name] []).execute store =
        (.error raised, after)) :
      GetterRaises world object name getter store raised after

section Reads

variable {store : Store} {target getter : Value}

theorem direct_get_of_gets (call : Caller) (gets : world.Gets store target name getter) :
    (world.directGet call target name).execute store =
      (call getter [store.current target] []).execute store := by
  obtain ⟨holder, definition, place, found, placed, reads⟩ := gets
  exact direct_get_property placed found reads

-- A hook with answers for other names reads the name directly.
theorem masked_reads {object : Value} {owner : String} {table : List (String × Value)}
    (unmasked : table.lookup name = none) :
    world.runRoutine call (hookRoutine owner "__getattribute__" ["key"] (.masked table))
      [object, .text name] [] = world.directGet call object name := by
  have distinct : ["self", "key"].Nodup := by decide
  have bound : Binding.bind [Formal.named "self", Formal.named "key"] [object, .text name] [] =
      .ok [("self", object), ("key", .text name)] := Binding.bind_named distinct rfl
  rw [runRoutine]
  simp only [hookRoutine, List.map_cons, List.map_nil, bound, runBody, Frame.ofBound, Frame.key,
    Frame.self, Option.getD_some]
  rw [show (List.lookup "key" [("key", Value.text name)]) = some (.text name) from rfl]
  simp only [Option.getD_some, Value.payload, unmasked]

theorem access_raises {raised : Raised} {after : Store}
    (gets : world.Gets store target name getter)
    (fails : world.GetterRaises (store.current target) name getter store raised after) :
    (world.hookedGet (world.call callLimit) (store.current target) name).execute store =
      (.error raised, after) := by
  have object : world.Gets store (store.current target) name getter :=
    ⟨by rw [store.current_current]; exact gets.found⟩
  cases fails with
  | itself unhooked fails =>
      have read := direct_get_of_gets (world.call callLimit) object
      rw [store.current_current] at read
      rw [hookedGet, unhooked]
      exact read.trans fails
  | passedOn index qualname owner table hooked known unmasked fails =>
      have read := direct_get_of_gets (world.call 998) object
      rw [store.current_current] at read
      have called : world.call callLimit (.bound (store.current target) (.function index qualname))
          [.text name] [] = world.directGet (world.call 998) (store.current target) name :=
        (call_attached known .toTarget _ qualname 998 [.text name] []).trans (masked_reads unmasked)
      rw [hookedGet, hooked]
      exact (congrArg (Run.execute · store) called).trans (read.trans fails)
  | letOut hook hooked fails => rwa [hookedGet, hooked]

-- A read of an object is that of its class, with the fallback behind it.
theorem normal_get_of_gets (gets : world.Gets store target name getter) :
    (world.normalGet call target name).execute store =
      (orFallback call (world.hook? (store.current target) "__getattr__") name
        (world.hookedGet call (store.current target) name)).execute store := by
  obtain ⟨holder, definition, place, found, placed, _⟩ := gets.found
  obtain ⟨start, started⟩ := start_of_holder found placed
  obtain ⟨address, kept⟩ := Value.address_of_place started
  rw [store.address_current] at kept
  have current : (get : Run Store).execute store = (.ok store, store) := rfl
  rw [normal_get_of_address kept, objectGet, Run.execute_bind_ok current]

end Reads

end World

namespace Reading

-- How a call of a method ends whose method fails.
structure MethodFailures (world : World) (caller : Caller) (method : MethodMember)
    (conversions : List (Option Conversion)) (call : Value → Value → Run Value) : Prop where
  -- What the method raises comes out of the call, and nothing runs after it.
  raised : ∀ (target container callee : Value) (values : List Value)
    (store between found ready after : Store) (raised : Raised),
    (world.isInstance caller (store.current target) method.declaring).execute store =
      (.ok true, between) →
    (world.normalGet caller target method.name).execute between = (.ok callee, found) →
    (acceptEach world caller container (ordered method.parameters conversions.zipIdx)).execute
      found = (.ok values, ready) →
    (caller callee (values.take (places method.parameters))
      ((names method.parameters).zip (values.drop (places method.parameters)))).execute ready =
        (.error raised, after) →
    (call target container).execute store = (.error raised, after)

theorem method_failures (world : World) (caller : Caller) (method : MethodMember)
    (conversions : List (Option Conversion)) :
    MethodFailures world caller method conversions
      (perform world caller method conversions) where
  raised := by
    intro target container callee values store between found ready after raised admits finds
      accepts fails
    rw [perform, Run.execute_bind_ok (Conversion.cast_admits admits), Run.execute_bind_ok finds,
      Run.execute_bind_ok accepts, Run.execute_bind_error fails]

-- How a read of a property ends whose getter fails.
structure GetterFailures (world : World) (property : PropertyMember) (read : Value → Run Value) :
    Prop where
  -- What the getter raises comes out of the read, and nothing runs after it, unless it is an
  -- attribute error and the class has a fallback.
  raised : ∀ (target getter : Value) (store between after : Store) (raised : Raised),
    (world.isInstance (world.call World.callLimit) (store.current target)
      property.declaring).execute store = (.ok true, between) →
    world.Gets between target property.name getter →
    world.GetterRaises (between.current target) property.name getter between raised after →
    (world.hook? (between.current target) "__getattr__" = none ∨
      raised.isAttributeFault = false) →
    (read target).execute store = (.error raised, after)
  -- Of an attribute error the fallback decides, from where the getter has left off.
  answered : ∀ (target getter answer : Value) (store between after : Store) (raised : Raised),
    (world.isInstance (world.call World.callLimit) (store.current target)
      property.declaring).execute store = (.ok true, between) →
    world.Gets between target property.name getter →
    world.GetterRaises (between.current target) property.name getter between raised after →
    world.hook? (between.current target) "__getattr__" = some answer →
    raised.isAttributeFault = true →
    (read target).execute store =
      (world.call World.callLimit answer [.text property.name] []).execute after

theorem look_accesses {world : World} {property : PropertyMember} {target getter : Value}
    {store between : Store}
    (admits : (world.isInstance (world.call World.callLimit) (store.current target)
      property.declaring).execute store = (.ok true, between))
    (gets : world.Gets between target property.name getter) :
    (look world (world.call World.callLimit) property target).execute store =
      (World.orFallback (world.call World.callLimit)
        (world.hook? (between.current target) "__getattr__") property.name
        (world.hookedGet (world.call World.callLimit) (between.current target)
          property.name)).execute between := by
  rw [look, Run.execute_bind_ok (Conversion.cast_admits admits)]
  exact World.normal_get_of_gets gets

theorem getter_failures (world : World) (property : PropertyMember) :
    GetterFailures world property (look world (world.call World.callLimit) property) where
  raised := by
    intro target getter store between after raised admits gets fails unasked
    rw [look_accesses admits gets]
    exact World.fallback_passes (World.access_raises gets fails) unasked
  answered := by
    intro target getter answer store between after raised admits gets fails asked fault
    rw [look_accesses admits gets, asked]
    exact World.fallback_answers (World.access_raises gets fails) fault

end Reading

namespace Writing

-- How a write of a property ends whose setter fails.
structure SetterFailures (world : World) (caller : Caller) (property : PropertyMember)
    (conversion : Option Conversion) (write : Value → Value → Run Value) : Prop where
  -- What the setter raises comes out of the write, and nothing runs after it.
  raised : ∀ (target value setter : Value) (store ready after : Store) (raised : Raised),
    (checks world caller (.property property) conversion target value).execute store =
      (.ok (), ready) →
    (VirtualSetter.ofProperty property).resolve world (ready.current target).typeOf =
      some setter →
    (caller setter [target, value] []).execute ready = (.error raised, after) →
    (write target value).execute store = (.error raised, after)

theorem setter_failures (world : World) (caller : Caller) (property : PropertyMember)
    (conversion : Option Conversion) :
    SetterFailures world caller property conversion
      (checked world caller (.property property) conversion) where
  raised := by
    intro target value setter store ready after raised passed resolves fails
    rw [setter_called passed resolves, setting, Run.execute_bind_error fails]

end Writing

namespace Strategy

section Thunks

variable (world : World) (caller : Caller) (registry : Registry) (options : Options)
  (label : Option String) (store : Store)

-- The thunks of methods and of properties, built of any member, end as the member does that they
-- call, where it fails.
theorem member_failures_come_out :
    (∀ (request : Request) (method : MethodMember) (thunk : Thunk), readsMethod request = true →
      built world caller registry options request label (.member (.method method)) store =
        .ok thunk →
      ∃ known conversions, world.Informed known ∧
        Reading.conversionsOf known method.parameters = .ok conversions ∧
        ∀ present : World, Reading.MethodFailures present (present.call World.callLimit) method
          conversions fun target container => (thunk.call present [target, container]).plain) ∧
    (∀ (request : Request) (property : PropertyMember) (thunk : Thunk),
      readsProperty request = true →
      built world caller registry options request label (.member (.property property)) store =
        .ok thunk →
      ∀ present : World, Reading.GetterFailures present property
        fun target => (thunk.call present [target]).plain) ∧
    ∀ (request : Request) (property : PropertyMember) (thunk : Thunk),
      writesMember request = true →
      built world caller registry options request label (.member (.property property)) store =
        .ok thunk →
      ∃ known conversion, world.Informed known ∧
        known.conversionFor property.type false = .ok conversion ∧
        ∀ present : World, Writing.SetterFailures present (present.call World.callLimit) property
          conversion fun target value => (thunk.call present [target, value]).plain := by
  refine ⟨?_, ?_, ?_⟩
  · intro request method thunk reads made
    obtain ⟨known, conversions, informed, found, runs⟩ := method_thunk_runs reads made
    refine ⟨known, conversions, informed, found, fun present => ?_⟩
    simp only [runs present]
    exact Reading.method_failures present _ method conversions
  · intro request property thunk reads made present
    simp only [property_thunk_looks reads made present]
    exact Reading.getter_failures present property
  · intro request property thunk writes made
    obtain ⟨own, known, conversion, _, informed, converted, runs⟩ :=
      property_write_runs writes made
    refine ⟨known, conversion, informed, converted, fun present => ?_⟩
    simp only [runs present]
    exact Writing.setter_failures present _ property conversion

end Thunks

-- A class all members of which fail, with hooks that have answers for other names, and a class
-- with a getter that fails for want of an attribute and a fallback that has an answer for the name.
def meters : World :=
  (World.empty.declare
    { ClassDecl.ofMembers "Meter" [.method "read" .toTarget (.routine
        ⟨some (Formal.named "self"), [], none, [.fail .indexFault "gone"]⟩),
        .property "x" (some (.routine
          ⟨some (Formal.named "self"), [], none, [.fail .valueFault "low"]⟩))
          (some (.routine ⟨some (Formal.named "self"), [Formal.named "value"], none,
            [.fail .attributeFault "shut"]⟩))] with
      mask := some [("z", .int 1)]
      fallback := some [("w", .int 2)] }).declare
    { ClassDecl.ofMembers "Gauge" [.property "x" (some (.routine
        ⟨some (Formal.named "self"), [], none, [.fail .attributeFault "boom"]⟩)) none] with
      fallback := some [("x", .int 5)] }

def meterCaller : Caller := meters.call World.callLimit

def meter : Value := .object 0 (.declared 0)

def meterMethod : MethodMember := ⟨.declared 0, "read", [], .cls .object, "instance"⟩

def meterProperty : PropertyMember :=
  ⟨.declared 0, "x", .cls .object, some (.function 1 "Meter.x"), some (.function 2 "Meter.x")⟩

def gaugeProperty : PropertyMember :=
  ⟨.declared 1, "x", .cls .object, some (.function 5 "Gauge.x"), none⟩

theorem meter_described :
    (Describe.method meters meterCaller (.declared 0) "read").run.run .empty =
        (.ok meterMethod, .empty) ∧
      (Describe.property meters meterCaller (.declared 0) "x").run.run .empty =
        (.ok meterProperty, .empty) ∧
      (Describe.property meters meterCaller (.declared 1) "x").run.run .empty =
        (.ok gaugeProperty, .empty) :=
  ⟨by with_unfolding_all rfl, by with_unfolding_all rfl, by with_unfolding_all rfl⟩

theorem meter_is_instance : (meters.isInstance meterCaller (Store.empty.current meter)
    (.declared 0)).execute .empty = (.ok true, .empty) := by
  with_unfolding_all rfl

theorem meter_method_found : (meters.normalGet meterCaller meter "read").execute .empty =
    (.ok (.bound meter (.function 0 "Meter.read")), .empty) := by
  with_unfolding_all rfl

theorem meter_method_fails : (meterCaller (.bound meter (.function 0 "Meter.read")) [] []).execute
    .empty = (.error (.user .indexFault "gone"),
      Store.empty.log ⟨"Meter.read", some meter, []⟩) := by
  with_unfolding_all rfl

def meterThunk (request : Request) (member : Member) : Except CompileFault Thunk :=
  built meters meterCaller .empty .standard request none (.member member) .empty

theorem meter_getter_fails : meters.Gets .empty meter "x" (.function 1 "Meter.x") ∧
    meters.GetterRaises meter "x" (.function 1 "Meter.x") .empty (.user .valueFault "low")
      (Store.empty.log ⟨"Meter.x", some meter, []⟩) :=
  ⟨⟨.declared 0, _, 0, by with_unfolding_all rfl, rfl, rfl⟩,
    .passedOn 3 "Meter.__getattribute__" "Meter" [("z", .int 1)] (by with_unfolding_all rfl)
      (by with_unfolding_all rfl) rfl (by with_unfolding_all rfl)⟩

theorem meter_setter_fails : (meterCaller (.function 2 "Meter.x") [meter, .int 1] []).execute
    .empty = (.error (.user .attributeFault "shut"),
      Store.empty.log ⟨"Meter.x", some meter, [("value", .int 1)]⟩) := by
  with_unfolding_all rfl

theorem meter_failures_come_out : readsMethod .read = true ∧ readsProperty .read = true ∧
    writesMember .write = true ∧ ∃ call read write,
      meterThunk .read (.method meterMethod) = .ok call ∧
      meterThunk .read (.property meterProperty) = .ok read ∧
      meterThunk .write (.property meterProperty) = .ok write ∧
      (call.call meters [meter, .list []]).plain.execute .empty =
        (.error (.user .indexFault "gone"), Store.empty.log ⟨"Meter.read", some meter, []⟩) ∧
      (read.call meters [meter]).plain.execute .empty =
        (.error (.user .valueFault "low"), Store.empty.log ⟨"Meter.x", some meter, []⟩) ∧
      (write.call meters [meter, .int 1]).plain.execute .empty =
        (.error (.user .attributeFault "shut"),
          Store.empty.log ⟨"Meter.x", some meter, [("value", .int 1)]⟩) := by
  have built_call : (meterThunk .read (.method meterMethod)).isOk = true := by decide +kernel
  have built_read : (meterThunk .read (.property meterProperty)).isOk = true := by decide +kernel
  have built_write : (meterThunk .write (.property meterProperty)).isOk = true := by
    decide +kernel
  obtain ⟨call, called⟩ := value_of_ok built_call
  obtain ⟨read, found⟩ := value_of_ok built_read
  obtain ⟨write, made⟩ := value_of_ok built_write
  obtain ⟨methods, getters, setters⟩ :=
    member_failures_come_out meters meterCaller .empty .standard none .empty
  obtain ⟨_, conversions, _, converted, fails⟩ := methods .read meterMethod call rfl called
  cases converted
  obtain ⟨_, conversion, _, unconverted, refuses⟩ := setters .write meterProperty write rfl made
  cases unconverted
  obtain ⟨gets, raises⟩ := meter_getter_fails
  exact ⟨rfl, rfl, rfl, call, read, write, called, found, made,
    (fails meters).raised meter (.list []) _ [] .empty .empty .empty .empty _ _ meter_is_instance
      meter_method_found rfl meter_method_fails,
    (getters .read meterProperty read rfl found meters).raised meter _ .empty .empty _ _
      meter_is_instance gets raises (.inr rfl),
    (refuses meters).raised meter (.int 1) (.function 2 "Meter.x") .empty .empty _ _
      (by with_unfolding_all rfl) (by with_unfolding_all rfl) meter_setter_fails⟩

-- A getter may fail for want of an attribute, and the read end well all the same.
theorem gauge_failure_is_answered :
    (Describe.property meters meterCaller (.declared 1) "x").run.run .empty =
        (.ok gaugeProperty, .empty) ∧
    meters.Gets .empty (.object 0 (.declared 1)) "x" (.function 5 "Gauge.x") ∧
    ∃ read raised after, meterThunk .read (.property gaugeProperty) = .ok read ∧
      (meterCaller (.function 5 "Gauge.x") [.object 0 (.declared 1)] []).execute .empty =
        (.error raised, after) ∧
      (read.call meters [.object 0 (.declared 1)]).plain.execute .empty ≠
        (.error raised, after) := by
  have answered : passes (fun read : Thunk =>
      (read.call meters [.object 0 (.declared 1)]).plain.leaves (fun _ => true) .empty)
      (meterThunk .read (.property gaugeProperty)) = true := by decide +kernel
  obtain ⟨read, found, answered⟩ := value_of_passes answered
  obtain ⟨result, after, ran, _⟩ := Run.result_of_leaves answered
  refine ⟨meter_described.2.2, ⟨.declared 1, _, 1, by with_unfolding_all rfl, rfl, rfl⟩, read,
    .user .attributeFault "boom", _, found, by with_unfolding_all rfl, ?_⟩
  rw [ran]
  intro same
  cases same

end Strategy

end MemberThunks
