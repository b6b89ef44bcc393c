import MemberThunks.Proofs.FieldReads
import MemberThunks.Proofs.MemberReading

set_option autoImplicit false

/- The thunk that reads a property narrows the target to the class that declares the property, and
   then reads its name as any read of the target does: the getter that runs is the one that the
   class of the target has, whichever class the property was taken from. -/
namespace MemberThunks

namespace World

section Property

variable {world : World} {call : Caller} {store : Store} {target : Value} {name : String}
  {holder : ClassRef} {definition : Property} {getter : Value}

theorem fallback_congr (fallback : Option Value) {first second : Run Value}
    (same : first.execute store = second.execute store) :
    (orFallback call fallback name first).execute store =
      (orFallback call fallback name second).execute store := by
  cases fallback with
  | none => exact same
  | some answer =>
      simp only [orFallback, Run.execute, tryCatch, tryCatchThe, MonadExceptOf.tryCatch,
        ExceptT.tryCatch, ExceptT.run, ExceptT.mk, StateT.run, bind, StateT.bind]
      rw [show first store = second store from same]

theorem direct_get_property {place : Nat} (placed : holder.place? = some place)
    (found : world.lookup (store.current target).typeOf name = some (holder, .property definition))
    (reads : definition.getter = some getter) :
    (world.directGet call target name).execute store =
      (call getter [store.current target] []).execute store := by
  have started : (get : Run Store).execute store = (.ok store, store) := rfl
  rw [directGet, Run.execute_bind_ok started]
  cases holder with
  | builtin kind => cases placed
  | declared place => simp only [found, reads]
  | enumeration place transparent => simp only [found, reads]

-- A read of a property that can be written runs its getter, where no hook comes before it.
theorem normal_get_property
    (found : world.lookup (store.current target).typeOf name = some (holder, .property definition))
    (settable : definition.setter.isSome = true) (reads : definition.getter = some getter)
    (unhooked : world.hook? (store.current target) "__getattribute__" = none) :
    (world.normalGet call target name).execute store =
      (orFallback call (world.hook? (store.current target) "__getattr__") name
        (call getter [store.current target] [])).execute store := by
  obtain ⟨place, placed⟩ := place_of_holder found settable
  obtain ⟨start, started⟩ := place_of_start found settable
  obtain ⟨address, kept⟩ := Value.address_of_place started
  rw [store.address_current] at kept
  have current : (get : Run Store).execute store = (.ok store, store) := rfl
  rw [normal_get_of_address kept, objectGet, Run.execute_bind_ok current]
  apply fallback_congr
  rw [hookedGet, unhooked]
  have gets : (world.directGet call (store.current target) name).execute store =
      (call getter [store.current (store.current target)] []).execute store :=
    direct_get_property placed (by rwa [store.current_current]) reads
  rwa [store.current_current] at gets

end Property

end World

namespace Reading

-- The read of a property in its order.
def look (world : World) (caller : Caller) (property : PropertyMember) (target : Value) :
    Run Value := do
  let narrowed ← (Conversion.cast (.cls property.declaring) false).apply world caller target
  world.normalGet caller narrowed property.name

-- The function that reads a property which has a getter.
def getting (property : PropertyMember) : Lambda :=
  Lambda.make ("Get" ++ property.name) [targetName] false (propertyBody property)

theorem property_gives {known : World} {lambda : Lambda} {property : PropertyMember}
    (tried : Reading.property known property = .ok lambda) :
    property.getter.isSome = true ∧ lambda = getting property := by
  rw [Reading.property] at tried
  cases held : property.getter with
  | none => simp [held] at tried
  | some getter =>
      simp only [held] at tried
      exact ⟨rfl, (Except.ok.inj tried).symm⟩

theorem evaluate_member {world : World} {caller itself : Caller} {scope : Scope}
    (free : scope.parameters.lookup Expression.readerName = none)
    (apart : Expression.readerName ≠ scope.own) (numbered : scope.constants.Numbered)
    (target : Expression) (label : String) :
    (Expression.member target label).evaluate world caller itself scope =
      (target.evaluate world caller itself scope >>= fun value =>
        world.normalGet caller value label) := by
  rw [Expression.member]
  split
  · rfl
  · simp only [Expression.evaluate, Expression.evaluateCallee, Expression.meaningOf,
      reader_known free apart numbered, Expression.evaluateAll, Expression.evaluateKeywords,
      pure_bind, bind_assoc, Meaning.call, Expression.ofLiteral]

theorem property_calls (property : PropertyMember) (world : World) (target : Value) :
    (getting property).call world [target] = LocatedRun.onLine (some Lambda.bodyLine)
      (look world (world.call World.callLimit) property target) := by
  have narrows := target_narrows world (world.call World.callLimit) property.declaring
  refine reader_calls property.name (propertyBody property) world target fun itself => ?_
  have serves := reader_scope_serves property.name narrows.numbered target
  have narrowed := narrows.evaluates itself _ serves
  rw [Expression.evaluate_parameter rfl, pure_bind] at narrowed
  have apart : Expression.readerName ≠ Identifier.squash ("Get" ++ property.name) := by
    obtain ⟨rest, named⟩ := get_name property.name
    intro same
    rw [← same] at named
    cases named
  change (Expression.member (castTarget property.declaring []).1 property.name).evaluate world
    (world.call World.callLimit) itself ⟨[(targetName, target)],
      Identifier.squash ("Get" ++ property.name), (castTarget property.declaring []).2⟩ = _
  rw [evaluate_member rfl apart narrows.numbered, narrowed]
  rfl

end Reading

namespace Strategy

-- The requests that a property is built for as what is read.
def readsProperty : Request → Bool
  | .read | .readKind .property | .byExpression => true
  | _ => false

theorem code_of_property {request : Request} (reads : readsProperty request = true) (world : World)
    (caller : Caller) (property : PropertyMember) :
    code world caller request (.member (.property property)) =
      tree world caller (.member (.property property)) := by
  unfold readsProperty at reads
  split at reads
  · rfl
  · rfl
  · rfl
  · cases reads

theorem property_thunk_looks {request : Request} (reads : readsProperty request = true)
    {world : World} {caller : Caller} {registry : Registry} {options : Options}
    {label : Option String} {property : PropertyMember} {store : Store} {thunk : Thunk}
    (made : built world caller registry options request label (.member (.property property)) store =
      .ok thunk) (later : World) (target : Value) :
    (thunk.call later [target]).plain =
      Reading.look later (later.call World.callLimit) property target := by
  obtain ⟨⟨after, ran⟩, _⟩ := code_of_built made
  rw [code_of_property reads] at ran
  obtain ⟨lambda, settled, shape⟩ := ok_of_run_map ran
  obtain ⟨known, _, tried⟩ := Making.made_of_settling settled
  obtain ⟨_, rfl⟩ := Reading.property_gives tried
  rw [Thunk.call, shape]
  dsimp only
  rw [Reading.property_calls, LocatedRun.plain_on_line]

end Strategy

end MemberThunks
