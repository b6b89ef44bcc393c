import MemberThunks.Listing.Writing
import MemberThunks.Proofs.ConversionChecks
import MemberThunks.Proofs.LoweringRefinement
import MemberThunks.Proofs.Settling

set_option autoImplicit false

/- Writes check before they store. A write asks whether the target is an instance of the class
   that declares the member, then whether the value is of the declared type, and only then stores,
   once; so a write that is refused leaves what its checks leave, which on candid values is all as
   it was. -/
namespace MemberThunks

namespace StackMachine

theorem act_injective {α : Type} {first second : Run α} (same : act first = act second) :
    first = second := by
  apply ExceptT.ext
  funext store
  change first.run.run store = second.run.run store
  have left := run_adapt Halt.raised first store
  have right := run_adapt Halt.raised second store
  rw [show ExceptT.adapt Halt.raised first = act second from same] at left
  rw [show ExceptT.adapt Halt.raised second = act second from rfl, left] at right
  cases ran : first.run.run store with
  | mk outcome after =>
      cases followed : second.run.run store with
      | mk other final =>
          rw [ran, followed] at right
          cases outcome <;> cases other <;> cases right <;> rfl

end StackMachine

namespace Writing

-- The type that a member declares for what is written to it.
def declaredType? : Member → Option TypeForm
  | .field details => some details.type
  | .property details => some details.type
  | .method _ | .bare _ _ => none

-- The one store of a write: the direct store of a field under its name, or one call of the
-- setter that the class of the target has for a property.
def storing (world : World) (caller : Caller) (target value : Value) : Member → Run Unit
  | .field details => world.directSet caller target details.name value
  | .property details => (VirtualSetter.ofProperty details).call world caller target value
  | .method _ | .bare _ _ => pure ()

-- A write in its order.
def checked (world : World) (caller : Caller) (member : Member) (conversion : Option Conversion)
    (target value : Value) : Run Value := do
  let _ ← (Conversion.cast (.cls member.declaring) false).apply world caller target
  let _ ← Conversion.applyOptional world caller conversion value
  storing world caller target value member
  return .none

theorem program_of_member {known : World} {member : Member} {program : Program}
    (made : Writing.member known member = .ok program) :
    ∃ type store, declaredType? member = some type ∧
      program = Writing.program member.declaring member.name type store ∧
      ∀ (machine : StackMachine) (target value : Value) (rest : List Value),
        machine.perform store (value :: target :: rest) =
          (StackMachine.act (storing machine.world machine.caller target value member) >>=
            fun _ => pure (some rest)) := by
  cases member with
  | field details =>
      obtain ⟨_, _, same⟩ := ok_of_bind made
      cases same
      exact ⟨details.type, .storeField (.field details), rfl, rfl, fun _ _ _ _ => rfl⟩
  | property details =>
      rw [Writing.member, property] at made
      cases setter : details.setter with
      | none => simp [setter] at made
      | some held =>
          simp only [setter] at made
          obtain ⟨_, _, same⟩ := ok_of_bind made
          cases same
          exact ⟨details.type, .callSetter (.property details), rfl, rfl, fun _ _ _ _ => rfl⟩
  | method details => cases made
  | bare declaring name => cases made

theorem conversion_of_lowered {known : World} {declaring : ClassRef} {name : String}
    {type : TypeForm} {store : Instruction} {listing : Listing}
    (lowered : (Writing.program declaring name type store).lower known = .ok listing) :
    ∃ conversion, known.conversionFor type false = .ok conversion := by
  cases found : known.conversionFor type false with
  | ok conversion => exact ⟨conversion, rfl⟩
  | error fault =>
      obtain ⟨final, stepped, _⟩ := Program.lower_gives lowered
      simp [Writing.program, Lowering.steps, Lowering.step, Lowering.State.pop,
        Lowering.State.push, Lowering.State.write, Lowering.State.check,
        Lowering.State.addConstant, Lowering.State.empty, Constants.add, bind, Except.bind,
        pure, Except.pure, found, Instruction.isReturn] at stepped

theorem set_name (name : String) :
    ∃ rest, (Identifier.squash ("Set" ++ name)).toList = 'S' :: rest := by
  have starts : ("Set" ++ name).toList = 'S' :: ("et".toList ++ name.toList) := by
    simp
  exact ⟨_, Identifier.squash_starts starts (by decide) (by decide)⟩

-- The run of a program that writes is the write in its order.
theorem run_of_program {machine : StackMachine} {member : Member} {type : TypeForm}
    {store : Instruction} {conversion : Option Conversion} {target value : Value}
    (given : machine.arguments = [target, value])
    (found : machine.known.conversionFor type false = .ok conversion)
    (acts : ∀ (target value : Value) (rest : List Value),
      machine.perform store (value :: target :: rest) =
        (StackMachine.act (storing machine.world machine.caller target value member) >>=
          fun _ => pure (some rest))) :
    machine.run (Writing.program member.declaring member.name type store).instructions [] =
      StackMachine.act (checked machine.world machine.caller member conversion target value) := by
  have first : machine.perform (.loadArgument 0) [] = pure (some [target]) := by
    simp [StackMachine.perform, given]
  have narrows : machine.perform (.castClass (.cls member.declaring)) [target] =
      (StackMachine.act ((Conversion.cast (.cls member.declaring) false).apply machine.world
        machine.caller target) >>= fun _ => pure (some [target])) := rfl
  have second : machine.perform (.loadArgument 1) [target] = pure (some [value, target]) := by
    simp [StackMachine.perform, given]
  have converts : machine.perform (.unboxAny type) [value, target] =
      (StackMachine.act (Conversion.applyOptional machine.world machine.caller conversion value)
        >>= fun _ => pure (some [value, target])) := by
    simp only [StackMachine.perform, found]
  have returns : machine.perform .ret [] = pure none := rfl
  simp only [Writing.program, StackMachine.run, first, narrows, second, converts, acts, returns,
    pure_bind, bind_assoc, checked, StackMachine.act_bind, StackMachine.act_pure]

section Ends

variable (world : World) (caller : Caller) (member : Member) (conversion : Option Conversion)
  (target value : Value) (store : Store)

-- Whether a target is an instance of the class that declares a member.
def asked : Run Bool := world.isInstance caller (store.current target) member.declaring

-- The ends of a write that starts from a store. The check of the target decides before the
-- value is looked at, and the check of the value before anything is stored; what is stored is
-- the value itself. Checks of candid values leave the store as it was.
inductive Ends : Except Raised Value × Store → Prop where
  | undecided (raised : Raised) (after : Store)
      (fails : (asked world caller member target store).execute store = (.error raised, after))
      (still : world.Candid store target → store.Alike after) : Ends (.error raised, after)
  | notInstance (raised : Raised) (after : Store)
      (denies : (asked world caller member target store).execute store = (.ok false, after))
      (refusal : raised = .notCast ((store.current target).typeName world)
        ((TypeForm.cls member.declaring).name world))
      (kind : raised.failure.kind = .invalidCast)
      (still : world.Candid store target → store.Alike after) : Ends (.error raised, after)
  | refused (raised : Raised) (between after : Store)
      (admits : (asked world caller member target store).execute store = (.ok true, between))
      (refuses : (Conversion.applyOptional world caller conversion value).execute between =
        (.error raised, after))
      (still : world.Candid store target → world.Candid store value → store.Alike after) :
      Ends (.error raised, after)
  | stored (outcome : Except Raised Unit) (between ready after : Store)
      (admits : (asked world caller member target store).execute store = (.ok true, between))
      (accepts : (Conversion.applyOptional world caller conversion value).execute between =
        (.ok value, ready))
      (still : world.Candid store target → world.Candid store value → store.Alike ready)
      (stores : (storing world caller target value member).execute ready = (outcome, after)) :
      Ends (outcome.map fun _ => .none, after)

end Ends

section Ends

variable {world : World} {caller : Caller} {member : Member} {conversion : Option Conversion}
  {target value : Value} {store after : Store}

theorem cast_asks (world : World) (caller : Caller) (member : Member) (target : Value)
    (store : Store) :
    ((Conversion.cast (.cls member.declaring) false).apply world caller target).execute store =
      ((asked world caller member target store >>= fun found =>
        if found then pure target
        else Run.fail (.notCast ((store.current target).typeName world)
          ((TypeForm.cls member.declaring).name world)) : Run Value).execute store) :=
  Conversion.cast_asks world caller member.declaring target store

theorem asked_quiet {outcome : Except Raised Bool} (candid : world.Candid store target)
    (ran : (asked world caller member target store).execute store = (outcome, after)) :
    world.Unmoved store after := World.instance_unmoved candid ran

theorem converted_quiet {between : Store} {outcome : Except Raised Value}
    (unmoved : world.Unmoved store between) (candid : world.Candid store value)
    (ran : (Conversion.applyOptional world caller conversion value).execute between =
      (outcome, after)) : world.Unmoved store after := by
  have kept : world.Unmoved between
      ((Conversion.applyOptional world caller conversion value).execute between).2 :=
    Conversion.optional_quiet candid conversion between unmoved.alike.classes
  rw [ran] at kept
  exact World.unmoved_trans unmoved kept

-- A write whose target is admitted.
theorem admitted_ends {between : Store}
    (admits : (asked world caller member target store).execute store = (.ok true, between)) :
    Ends world caller member conversion target value store (Run.execute (do
      let _ ← Conversion.applyOptional world caller conversion value
      storing world caller target value member
      return Value.none) between) := by
  cases converting : (Conversion.applyOptional world caller conversion value).execute between with
  | mk outcome ready =>
      have still : world.Candid store target → world.Candid store value → store.Alike ready := by
        intro frank candid
        exact (converted_quiet (asked_quiet frank admits) candid converting).alike
      cases outcome with
      | error raised =>
          rw [Run.execute_bind_error converting]
          exact .refused raised between ready admits converting still
      | ok result =>
          -- what a conversion lets through is the value itself
          have same := Conversion.optional_gives_back converting
          subst same
          rw [Run.execute_bind_ok converting]
          cases finishing : (storing world caller target result member).execute ready with
          | mk stored after =>
              have ended := Ends.stored stored between ready after admits converting still
                finishing
              cases stored with
              | error raised =>
                  rw [Run.execute_bind_error finishing]
                  exact ended
              | ok done =>
                  rw [Run.execute_bind_ok finishing]
                  exact ended

theorem checked_ends : Ends world caller member conversion target value store
    ((checked world caller member conversion target value).execute store) := by
  have cast := cast_asks world caller member target store
  cases asking : (asked world caller member target store).execute store with
  | mk verdict between =>
      have still : world.Candid store target → store.Alike between :=
        fun candid => (asked_quiet candid asking).alike
      cases verdict with
      | error raised =>
          rw [Run.execute_bind_error asking] at cast
          rw [checked, Run.execute_bind_error cast]
          exact .undecided raised between asking still
      | ok found =>
          rw [Run.execute_bind_ok asking] at cast
          cases found with
          | false =>
              rw [checked, Run.execute_bind_error cast]
              exact .notInstance _ between asking rfl rfl still
          | true =>
              rw [checked, Run.execute_bind_ok cast]
              exact admitted_ends asking

end Ends

end Writing

namespace Strategy

-- The requests that a member is built for as what is written.
def writesMember : Request → Bool
  | .write | .writeKind _ | .byListing => true
  | _ => false

section Write

variable {world : World} {caller : Caller} {request : Request} {member : Member}
  {store after : Store}

theorem settable_by_listing {made : Code}
    (ran : (settable world caller (.member member)).run.run store = (.ok made, after)) :
    (listing world caller (.member member)).run.run store = (.ok made, after) := by
  rw [settable] at ran
  split at ran
  · exact ran
  · cases ran

theorem code_by_listing (writes : writesMember request = true) {made : Code}
    (ran : (code world caller request (.member member)).run.run store = (.ok made, after)) :
    ∃ between, (listing world caller (.member member)).run.run between = (.ok made, after) := by
  unfold writesMember at writes
  split at writes
  · exact ⟨store, settable_by_listing ran⟩
  · obtain ⟨_, between, _, ran⟩ := ok_of_run_bind ran
    exact ⟨between, settable_by_listing ran⟩
  · exact ⟨store, ran⟩
  · cases writes

theorem listing_gives {made : Code}
    (ran : (listing world caller (.member member)).run.run store = (.ok made, after)) :
    ∃ informed program known lowered, Writing.member informed member = .ok program ∧
      world.Informed known ∧ program.lower known = .ok lowered ∧ made = .listing lowered := by
  obtain ⟨program, between, written, ran⟩ := ok_of_run_bind ran
  obtain ⟨lowered, settled, same⟩ := ok_of_run_map ran
  obtain ⟨informed, _, composed⟩ := Making.made_of_settling written
  obtain ⟨known, heard, done⟩ := Making.made_of_settling settled
  exact ⟨informed, program, known, lowered, composed, heard, done, same⟩

theorem built_by_listing (writes : writesMember request = true) {registry : Registry}
    {options : Options} {label : Option String} {thunk : Thunk}
    (made : built world caller registry options request label (.member member) store =
      .ok thunk) :
    ∃ informed program known lowered, Writing.member informed member = .ok program ∧
      world.Informed known ∧ program.lower known = .ok lowered ∧
      thunk.code = .listing lowered := by
  obtain ⟨⟨after, ran⟩, _⟩ := code_of_built made
  obtain ⟨between, written⟩ := code_by_listing writes ran
  exact listing_gives written

end Write

-- A class with a field, and a class whose objects are seen when they are asked for their
-- class.
def probes : World :=
  (World.empty.declare (.ofMembers "Holder" [.field "x" (.cls (.builtin .int)) none])).declare
    (.ofMembers "Probe" [.property "__class__" (some (.routine
      ⟨some (Formal.named "self"), [], none, [.store "seen" (.constant (.int 1)),
        .give (.constant (.int 5))]⟩)) none])

def heldField : Member := .field ⟨.declared 0, "x", .cls (.builtin .int)⟩

end Strategy

end MemberThunks
