import MemberThunks.Proofs.ArgumentOrder
import MemberThunks.Proofs.SequenceItems
import MemberThunks.Proofs.Settling

set_option autoImplicit false

/- Building the thunk of a method: either the parameters have conversions, and then the thunk
   follows the reference, or the build tells why there is none. -/
namespace MemberThunks

-- A mark that no name of generated code has is in the name of its file only if the options put
-- it there.
theorem Options.nul_in_file_name (options : Options) (text : String) (serial : Nat) :
    Char.ofNat 0 ∈ (options.fileName (Identifier.squash text) serial).toList ↔
      Char.ofNat 0 ∈ options.namePrefix.toList := by
  have clean := Identifier.squash_without_nul text
  have digits : Char.ofNat 0 ∉ (toString (serial : Int)).toList := by
    intro listed
    have inside : Char.ofNat 0 ∈ Nat.toDigits 10 serial := by
      simpa using (show Char.ofNat 0 ∈ (toString serial).toList from listed)
    have digit := Nat.isDigit_of_mem_toDigits (by decide) (by decide) inside
    revert digit
    decide
  simp only [Options.fileName, String.toList_append, List.mem_append, clean, digits]
  simp

namespace Strategy

-- What a build of a method ends with: an exception of an object that is asked, the fault of a
-- parameter that has no conversion, a name that no file can have, or a thunk that does what
-- the reference does.
inductive MethodBuilt (world : World) (options : Options) (method : MethodMember) :
    Except CompileFault Thunk → Prop where
  | escaped (raised : Raised) : MethodBuilt world options method (.error (.escaped raised))
  | unsupported (known : World) (informed : world.Informed known) (parameter : Parameter)
      (listed : parameter ∈ method.parameters) (fault : UnsupportedType)
      (found : known.conversionFor parameter.type false = .error fault)
      (decided : fault.question? = none) :
      MethodBuilt world options method
        (.error (.build (.unsupported fault ((Member.method method).qualname known))))
  | unnamed (known : World) (informed : world.Informed known)
      (conversions : List (Option Conversion))
      (found : Reading.conversionsOf known method.parameters = .ok conversions)
      (marked : Char.ofNat 0 ∈ options.namePrefix.toList) :
      MethodBuilt world options method (.error (.load .nulInFileName))
  | made (known : World) (informed : world.Informed known) (conversions : List (Option Conversion))
      (found : Reading.conversionsOf known method.parameters = .ok conversions) (thunk : Thunk)
      (calls : ∀ (later : World) (target container : Value),
        thunk.call later [target, container] = LocatedRun.onLine (some Lambda.bodyLine)
          (Reading.invoke later (later.call World.callLimit) method conversions target container)) :
      MethodBuilt world options method (.ok thunk)

-- The requests that a method is built for as what is read.
def readsMethod : Request → Bool
  | .read | .readKind .method | .byExpression => true
  | _ => false

theorem code_of_method {request : Request} (reads : readsMethod request = true) (world : World)
    (caller : Caller) (method : MethodMember) :
    code world caller request (.member (.method method)) =
      tree world caller (.member (.method method)) := by
  unfold readsMethod at reads
  split at reads
  · rfl
  · rfl
  · rfl
  · cases reads

theorem method_lambda_settled (world : World) (caller : Caller) (method : MethodMember)
    (store : Store) : Making.Settled world BuildFault.question? CompileFault.build
      (fun known => Reading.method known method)
      ((lambda world caller (.member (.method method))).run.run store).1 :=
  Making.settling_settled world caller BuildFault.question? CompileFault.build _ store

-- A thunk of a method makes its call, in every world, with the conversions of the world that its
-- build was told of.
theorem method_thunk_runs {method : MethodMember} {request : Request}
    (reads : readsMethod request = true) {world : World} {caller : Caller} {registry : Registry}
    {options : Options} {label : Option String} {store : Store} {thunk : Thunk}
    (made : built world caller registry options request label (.member (.method method)) store =
      .ok thunk) :
    ∃ known conversions, world.Informed known ∧
      Reading.conversionsOf known method.parameters = .ok conversions ∧
      ∀ (later : World) (target container : Value), (thunk.call later [target, container]).plain =
        Reading.perform later (later.call World.callLimit) method conversions target container := by
  obtain ⟨⟨after, ran⟩, _⟩ := code_of_built made
  rw [code_of_method reads] at ran
  obtain ⟨lambda, settled, shape⟩ := ok_of_run_map ran
  obtain ⟨known, informed, tried⟩ := Making.made_of_settling settled
  obtain ⟨conversions, found, rfl⟩ := Reading.method_gives tried
  refine ⟨known, conversions, informed, found, ?_⟩
  intro later target container
  rw [Thunk.call, shape]
  change ((Reading.function method conversions).call later [target, container]).plain = _
  rw [Reading.function_performs (Reading.conversions_counted found), LocatedRun.plain_on_line]

theorem method_built {method : MethodMember} (orderly : Reading.Orderly method.parameters)
    {request : Request} (reads : readsMethod request = true) (world : World) (caller : Caller)
    (registry : Registry) (options : Options) (label : Option String) (store : Store) :
    MethodBuilt world options method
      (built world caller registry options request label (.member (.method method)) store) := by
  have settled := method_lambda_settled world caller method store
  have ran := run_map Code.tree (lambda world caller (.member (.method method))) store
  rw [show Code.tree <$> lambda world caller (.member (.method method)) =
    code world caller request (.member (.method method)) from
      (code_of_method reads world caller method).symm] at ran
  rw [built_of_code ran]
  revert settled
  generalize ((lambda world caller (.member (.method method))).run.run store).1 = outcome
  intro settled
  cases settled with
  | escaped raised => exact .escaped raised
  | refused known found informed tried decided =>
      rw [Reading.method, Reading.converted_parameters] at tried
      cases sought : Reading.conversionsOf known method.parameters with
      | ok conversions => simp [sought, bind, Except.bind, pure, Except.pure] at tried
      | error fault =>
          simp only [sought] at tried
          cases tried
          obtain ⟨parameter, listed, unsupported⟩ := Reading.unsupported_parameter sought
          exact .unsupported known informed parameter listed fault unsupported decided
  | made known lambda informed tried =>
      obtain ⟨conversions, found, calls⟩ := Reading.method_calls orderly tried
      obtain ⟨_, _, shape⟩ := Reading.method_gives tried
      have named : lambda.name = Identifier.squash ("Invoke" ++ method.name) := by
        rw [shape]
        rfl
      have file := options.nul_in_file_name ("Invoke" ++ method.name) registry.serial
      rw [← named] at file
      change MethodBuilt world options method (((Code.tree lambda).load
        (options.fileName lambda.name registry.serial)).mapError CompileFault.load)
      by_cases marked : Char.ofNat 0 ∈ options.namePrefix.toList
      · rw [Code.load_marked _ (file.mpr marked)]
        exact .unnamed known informed conversions found marked
      · rw [Reading.method_loads orderly tried (fun inside => marked (file.mp inside))]
        exact .made known informed conversions found _ calls

def assortedMethod : MethodMember :=
  ⟨.object, "go on", [⟨"count", .cls (.builtin .int), false⟩, ⟨"any", .cls .object, false⟩,
    ⟨"sep", .cls (.builtin .str), true⟩], .none, "instance"⟩

-- A class whose instances, asked for the type that they stand for, raise an exception.
def riddles : World :=
  World.empty.declare (.ofMembers "Riddle" [.property "__supertype__" (some (.routine
    ⟨some (Formal.named "self"), [], none, [.fail .valueFault "boom"]⟩)) none])

def riddledMethod : MethodMember :=
  ⟨.object, "m", [⟨"a", .value (.object 0 (.declared 0)), false⟩], .cls .object, "instance"⟩

end Strategy

end MemberThunks
