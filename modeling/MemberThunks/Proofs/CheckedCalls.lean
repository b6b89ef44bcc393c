import MemberThunks.Member.Describe
import MemberThunks.Proofs.CheckedWrites
import MemberThunks.Proofs.MethodBuild

set_option autoImplicit false

/- Calls check before they call. A call of a method asks whether the target is an instance of the
   class that declares the method, then looks the method up on the target as any read does, then
   reads and converts the arguments, and only then calls, once; so a call that is refused leaves
   what its checks and the lookup leave. Where the object stands in the way of neither, that is
   all as it was. -/
namespace MemberThunks

namespace World

-- Items that nothing but a built-in sequence tells, and whose checks call nothing.
def Tells (world : World) (store : Store) (container : Value) (count : Nat) : Prop :=
  ∃ sort items, world.sequence? container = some (sort, items) ∧
    ∀ item ∈ items.take count, world.Candid store item

theorem tells_of_classes {world : World} {store other : Store} {container : Value} {count : Nat}
    (same : other.classes = store.classes) (tells : world.Tells store container count) :
    world.Tells other container count := by
  obtain ⟨sort, items, acts, candid⟩ := tells
  exact ⟨sort, items, acts, fun item listed => candid_of_classes same (candid item listed)⟩

theorem alone_of_classes {world : World} {store other : Store} {target : Value} {name : String}
    (same : other.classes = store.classes) (alone : world.ReadsAlone store target name) :
    world.ReadsAlone other target name := by
  obtain ⟨ordinary, unhooked, inert, answered⟩ := alone
  rw [← Store.current_of_classes same] at unhooked inert answered
  exact ⟨ordinary, unhooked, inert, answered⟩

end World

namespace Reading

theorem accept_each_quiet {world : World} {caller : Caller} {store : Store} {container : Value}
    {count : Nat} (tells : world.Tells store container count) (slots : List Slot)
    (within : ∀ slot ∈ slots, slot.2 < count) :
    Run.Quiet world store (acceptEach world caller container slots) := by
  induction slots with
  | nil => exact Run.quiet_pure []
  | cons slot rest ih =>
      obtain ⟨sort, items, acts, candid⟩ := tells
      obtain ⟨conversion, place⟩ := slot
      have tail := ih fun other listed => within other (List.mem_cons_of_mem _ listed)
      rw [acceptEach, World.item_of_sequence acts]
      cases picked : world.pick sort items id (.int place) with
      | error raised => exact Run.quiet_raised raised
      | ok item =>
          have held := World.held_of_pick picked
          have listed : item ∈ items.take count := by
            have early : place < count := within (conversion, place) List.mem_cons_self
            exact List.mem_of_getElem? ((List.getElem?_take_of_lt early).trans held)
          change Run.Quiet world store (pure item >>= _)
          rw [pure_bind]
          apply Run.quiet_bind (Conversion.optional_quiet (candid item listed) conversion)
          intro value
          exact Run.quiet_bind tail fun values => Run.quiet_pure _

section Ends

variable (world : World) (caller : Caller) (method : MethodMember)
  (conversions : List (Option Conversion)) (target container : Value) (store : Store)

-- The ends of a call that starts from a store. The check of the target decides before the method
-- is looked up, and the lookup before an argument is read; the method is called once all
-- arguments are accepted. What is left by a call that ends before is left by what it has asked.
inductive Ends : Except Raised Value × Store → Prop where
  | undecided (raised : Raised) (after : Store)
      (fails : (world.isInstance caller (store.current target) method.declaring).execute store =
        (.error raised, after))
      (still : world.Candid store target → store.Alike after) : Ends (.error raised, after)
  | notInstance (raised : Raised) (after : Store)
      (denies : (world.isInstance caller (store.current target) method.declaring).execute store =
        (.ok false, after))
      (refusal : raised = .notCast ((store.current target).typeName world)
        ((TypeForm.cls method.declaring).name world))
      (kind : raised.failure.kind = .invalidCast)
      (still : world.Candid store target → store.Alike after) : Ends (.error raised, after)
  | unfound (raised : Raised) (between after : Store)
      (admits : (world.isInstance caller (store.current target) method.declaring).execute store =
        (.ok true, between))
      (misses : (world.normalGet caller target method.name).execute between =
        (.error raised, after))
      (still : world.Candid store target → world.ReadsAlone store target method.name →
        store.Alike after) : Ends (.error raised, after)
  | refused (raised : Raised) (callee : Value) (between found after : Store)
      (admits : (world.isInstance caller (store.current target) method.declaring).execute store =
        (.ok true, between))
      (finds : (world.normalGet caller target method.name).execute between = (.ok callee, found))
      (refuses : (acceptEach world caller container
        (ordered method.parameters conversions.zipIdx)).execute found = (.error raised, after))
      (rest : world.Tells found container conversions.length → found.Alike after)
      (still : world.Candid store target → world.ReadsAlone store target method.name →
        world.Tells store container conversions.length → store.Alike after) :
      Ends (.error raised, after)
  | called (outcome : Except Raised Value) (callee : Value) (values : List Value)
      (between found ready after : Store)
      (admits : (world.isInstance caller (store.current target) method.declaring).execute store =
        (.ok true, between))
      (finds : (world.normalGet caller target method.name).execute between = (.ok callee, found))
      (accepts : (acceptEach world caller container
        (ordered method.parameters conversions.zipIdx)).execute found = (.ok values, ready))
      (calls : (caller callee (values.take (places method.parameters))
        ((names method.parameters).zip (values.drop (places method.parameters)))).execute ready =
          (outcome, after)) :
      Ends (outcome.map fun result => if method.isVoid then .none else result, after)

end Ends

section Ends

variable {world : World} {caller : Caller} {method : MethodMember}
  {conversions : List (Option Conversion)} {target container : Value} {store : Store}

theorem slots_within (parameters : List Parameter) (conversions : List (Option Conversion)) :
    ∀ slot ∈ ordered parameters conversions.zipIdx, slot.2 < conversions.length := by
  intro slot listed
  have known := List.mem_zipIdx (mem_of_ordered listed)
  omega

-- A call that has found what it is to call. What was left before then is left by a refusal.
theorem found_ends {between found : Store} {callee : Value}
    (admits : (world.isInstance caller (store.current target) method.declaring).execute store =
      (.ok true, between))
    (finds : (world.normalGet caller target method.name).execute between = (.ok callee, found))
    (kept : world.Candid store target → world.ReadsAlone store target method.name →
      store.Alike found) :
    Ends world caller method conversions target container store (Run.execute (do
      let values ← acceptEach world caller container
        (ordered method.parameters conversions.zipIdx)
      let result ← caller callee (values.take (places method.parameters))
        ((names method.parameters).zip (values.drop (places method.parameters)))
      return if method.isVoid then .none else result) found) := by
  cases accepting : (acceptEach world caller container
      (ordered method.parameters conversions.zipIdx)).execute found with
  | mk outcome ready =>
      have rest (tells : world.Tells found container conversions.length) : found.Alike ready := by
        have quiet : world.Unmoved found ((acceptEach world caller container
            (ordered method.parameters conversions.zipIdx)).execute found).2 :=
          accept_each_quiet tells _ (slots_within method.parameters conversions) found rfl
        rw [accepting] at quiet
        exact quiet.alike
      cases outcome with
      | error raised =>
          rw [Run.execute_bind_error accepting]
          refine .refused raised callee between found ready admits finds accepting rest
            fun candid reads tells => ?_
          have before := kept candid reads
          exact Store.alike_trans before (rest (World.tells_of_classes before.classes tells))
      | ok values =>
          rw [Run.execute_bind_ok accepting]
          cases calling : (caller callee (values.take (places method.parameters))
              ((names method.parameters).zip
                (values.drop (places method.parameters)))).execute ready with
          | mk outcome after =>
              have ended := Ends.called outcome callee values between found ready after
                admits finds accepting calling
              cases outcome with
              | error raised =>
                  rw [Run.execute_bind_error calling]
                  exact ended
              | ok result =>
                  rw [Run.execute_bind_ok calling]
                  exact ended

-- A call whose target is admitted.
theorem admitted_ends {between : Store}
    (admits : (world.isInstance caller (store.current target) method.declaring).execute store =
      (.ok true, between)) :
    Ends world caller method conversions target container store (Run.execute (do
      let callee ← world.normalGet caller target method.name
      let values ← acceptEach world caller container
        (ordered method.parameters conversions.zipIdx)
      let result ← caller callee (values.take (places method.parameters))
        ((names method.parameters).zip (values.drop (places method.parameters)))
      return if method.isVoid then .none else result) between) := by
  cases looking : (world.normalGet caller target method.name).execute between with
  | mk outcome found =>
      have kept (candid : world.Candid store target)
          (reads : world.ReadsAlone store target method.name) : store.Alike found := by
        have checked := (World.instance_unmoved candid admits).alike
        have same : ((world.normalGet caller target method.name).execute between).2 = between :=
          World.read_alone (World.alone_of_classes checked.classes reads)
        rw [looking] at same
        subst same
        exact checked
      cases outcome with
      | error raised =>
          rw [Run.execute_bind_error looking]
          exact .unfound raised between found admits looking kept
      | ok callee =>
          rw [Run.execute_bind_ok looking]
          exact found_ends admits looking kept

theorem perform_ends : Ends world caller method conversions target container store
    ((perform world caller method conversions target container).execute store) := by
  have cast := Conversion.cast_asks world caller method.declaring target store
  cases asking : (world.isInstance caller (store.current target) method.declaring).execute
      store with
  | mk verdict between =>
      have still (candid : world.Candid store target) : store.Alike between :=
        (World.instance_unmoved candid asking).alike
      cases verdict with
      | error raised =>
          rw [Run.execute_bind_error asking] at cast
          rw [perform, Run.execute_bind_error cast]
          exact .undecided raised between asking still
      | ok found =>
          rw [Run.execute_bind_ok asking] at cast
          cases found with
          | false =>
              rw [perform, Run.execute_bind_error cast]
              exact .notInstance _ between asking rfl rfl still
          | true =>
              rw [perform, Run.execute_bind_ok cast]
              exact admitted_ends asking

end Ends

end Reading

namespace Strategy

-- A class with a method, and one derived from it that has a property in its place, whose getter
-- leaves a mark.
def servers : World :=
  (World.empty.declare (.ofMembers "Server" [.method "serve" .toTarget (.routine
    ⟨some (Formal.named "self"), [⟨"count", .ordinary, some (.cls (.builtin .int)), none⟩], none,
      [.give .receiver]⟩)])).declare
    { ClassDecl.ofMembers "Marked" [.property "serve" (some (.routine
      ⟨some (Formal.named "self"), [], none, [.store "seen" (.constant (.int 1)),
        .give (.constant .none)]⟩)) none] with bases := [.declared 0] }

def serveMethod : MethodMember :=
  ⟨.declared 0, "serve", [⟨"count", .cls (.builtin .int), false⟩], .cls .object, "instance"⟩

-- An object of the first class is read alone, so a call of it that is refused leaves all as it was.
example : servers.ReadsAlone .empty (.object 0 (.declared 0)) "serve" := by
  have held : servers.lookup (.declared 0) "serve" =
      some (.declared 0, .value (.function 0 "Server.serve")) := by with_unfolding_all rfl
  refine ⟨fun _ => rfl, by with_unfolding_all rfl, ?_, .inl (by with_unfolding_all rfl)⟩
  intro owner entry found
  cases held.symm.trans found
  rfl

end Strategy

end MemberThunks
