import MemberThunks.Member.Describe
import MemberThunks.Proofs.ConversionChecks
import MemberThunks.Proofs.ExactBinding
import MemberThunks.Proofs.MemberReading
import MemberThunks.Proofs.MethodBuild

set_option autoImplicit false

/- How a described method meets the function that it was described from. Reading the signature
   drops the receiver, the thunk divides the arguments between positions and names, and the call
   binds them; together they give every formal its own argument. -/
namespace MemberThunks

namespace Describe

-- What the language asks of the formals of a function: those with places come before those
-- that are taken by keyword, under names of their own, none of which is the one that the
-- language keeps. A function that is bound to something has a place for it.
structure Regular (attachment : Attachment) (formals : List Formal) : Prop where
  placesFirst : formals.Pairwise fun earlier later =>
    earlier.kind = .keywordOnly → later.kind.isPositional = false
  distinct : (formals.map (·.name)).Nodup
  allowed : KeywordFault.reservedName ∉ formals.map (·.name)
  received : attachment ≠ .free →
    ∃ receiver rest, formals = receiver :: rest ∧ receiver.kind.isPositional = true

-- Parameters that tell the names and the kinds of some formals, none of which is variadic.
structure Tells (formals : List Formal) (parameters : List Parameter) : Prop where
  shape : parameters.map (fun parameter => (parameter.name, parameter.keywordOnly)) =
    formals.map fun formal => (formal.name, formal.kind == .keywordOnly)
  fixed : ∀ formal ∈ formals, formal.kind.isVariadic = false

theorem parameter_tells {world : World} {hints : Entries String TypeForm} {about : String}
    {formal : Formal} {told : Parameter} (made : parameter world hints about formal = .ok told) :
    formal.kind.isVariadic = false ∧ told.name = formal.name ∧
      told.keywordOnly = (formal.kind == .keywordOnly) := by
  rw [parameter] at made
  cases variadic : formal.kind.isVariadic with
  | true =>
      rw [variadic] at made
      cases made
  | false =>
      simp only [variadic, Bool.false_eq_true, if_false] at made
      obtain ⟨_, _, made⟩ := ok_of_bind made
      cases made
      exact ⟨rfl, rfl, rfl⟩

theorem parameters_tell {world : World} {hints : Entries String TypeForm} {about : String}
    {formals : List Formal} {parameters : List Parameter}
    (made : formals.mapM (parameter world hints about) = .ok parameters) :
    Tells formals parameters := by
  induction formals generalizing parameters with
  | nil =>
      cases made
      exact ⟨rfl, by simp⟩
  | cons formal rest ih =>
      rw [List.mapM_cons] at made
      obtain ⟨first, told, made⟩ := ok_of_bind made
      obtain ⟨later, tail, made⟩ := ok_of_bind made
      cases made
      obtain ⟨fixed, name, kind⟩ := parameter_tells told
      have onward := ih tail
      refine ⟨by rw [List.map_cons, List.map_cons, onward.shape, name, kind], ?_⟩
      intro other listed
      cases List.mem_cons.mp listed with
      | inl same => rw [same, fixed]
      | inr listed => exact onward.fixed other listed

theorem signature_of_function {world : World} {caller : Caller} {index : Nat} {routine : Routine}
    (known : world.routines[index]? = some routine) (qualname : String) :
    Signature.ofCallee world caller (.function index qualname) = pure routine.formals := by
  rw [Signature.ofCallee, Signature.nestingLimit, Signature.within, Signature.stripped, pure_bind]
  simp only [World.routine?, known]

section Method

variable {world : World} {caller : Caller} {described owner : ClassRef} {name qualname : String}
  {attachment : Attachment} {index : Nat} {routine : Routine} {method : MethodMember}
  {before after : Store}

theorem method_of_function (known : world.routines[index]? = some routine)
    (held : world.lookup described name =
      some (owner, World.attach attachment (.function index qualname)))
    (told : (Describe.method world caller described name).run.run before = (.ok method, after)) :
    ∃ hints, methodMember world owner name attachment routine.formals hints = .ok method := by
  have called : methodOf world caller owner name
      (World.attach attachment (.function index qualname)) =
        .ok (callable world caller attachment (.function index qualname)) := by
    cases attachment <;> rfl
  rw [Describe.method, held] at told
  simp only [called] at told
  obtain ⟨_, _, settled, asking⟩ := ok_of_run_bind told
  cases settled
  obtain ⟨formals, _, signed, hinting⟩ := ok_of_run_bind asking
  obtain ⟨hints, _, _, made⟩ := ok_of_run_bind hinting
  simp only [callable, signature_of_function known] at signed
  cases signed
  exact ⟨hints, congrArg Prod.fst made⟩

theorem method_tells (known : world.routines[index]? = some routine)
    (held : world.lookup described name =
      some (owner, World.attach attachment (.function index qualname)))
    (told : (Describe.method world caller described name).run.run before = (.ok method, after)) :
    method.declaring = owner ∧ method.name = name ∧
      Tells (withoutReceiver attachment routine.formals) method.parameters := by
  obtain ⟨hints, made⟩ := method_of_function known held told
  obtain ⟨parameters, listed, rest⟩ := ok_of_bind made
  obtain ⟨_, _, same⟩ := ok_of_bind rest
  cases same
  exact ⟨rfl, rfl, parameters_tell listed⟩

end Method

-- Formals with a receiver in front, then places, then those that are taken by keyword, and
-- parameters for all but the receiver, divided at the same point.
structure Divided (formals : List Formal) (parameters : List Parameter)
    (front places options : List Formal) (first second : List Parameter) : Prop where
  formalsDivide : formals = (front ++ places) ++ options
  plain : Binding.Plain (front ++ places) options
  parametersDivide : parameters = first ++ second
  counted : first.length = places.length
  positional : ∀ parameter ∈ first, parameter.keywordOnly = false
  byKeyword : ∀ parameter ∈ second, parameter.keywordOnly = true
  named : second.map (·.name) = options.map (·.name)

theorem front_of_regular {attachment : Attachment} {formals : List Formal}
    (regular : Regular attachment formals) (target : Value) :
    ∃ front, formals = front ++ withoutReceiver attachment formals ∧
      front.length = (attachment.receivers target).length ∧
      ∀ formal ∈ front, formal.kind.isPositional = true := by
  by_cases free : attachment = .free
  · subst free
    exact ⟨[], rfl, rfl, by simp⟩
  · obtain ⟨receiver, rest, shape, positional⟩ := regular.received free
    refine ⟨[receiver], ?_, ?_, ?_⟩
    · rw [withoutReceiver, if_neg free, shape]
      rfl
    · cases attachment with
      | free => exact absurd rfl free
      | toTarget => rfl
      | toClass => rfl
    · simpa using positional

theorem options_last {formals : List Formal}
    (placesFirst : formals.Pairwise fun earlier later =>
      earlier.kind = .keywordOnly → later.kind.isPositional = false)
    (fixed : ∀ formal ∈ formals, formal.kind.isVariadic = false) :
    formals.Pairwise fun earlier later =>
      (earlier.kind == .keywordOnly) = true → (later.kind == .keywordOnly) = true := by
  apply placesFirst.imp_of_mem
  intro earlier later _ listed apart keyword
  have unplaced := apart (by simpa using keyword)
  have single := fixed later listed
  cases kind : later.kind <;> simp_all [FormalKind.isPositional, FormalKind.isVariadic]

theorem tells_divide {places options : List Formal} {parameters : List Parameter}
    (placed : ∀ formal ∈ places, (formal.kind == .keywordOnly) = false)
    (optional : ∀ formal ∈ options, formal.kind = .keywordOnly)
    (tells : Tells (places ++ options) parameters) :
    ∃ first second, parameters = first ++ second ∧ first.length = places.length ∧
      (∀ parameter ∈ first, parameter.keywordOnly = false) ∧
      (∀ parameter ∈ second, parameter.keywordOnly = true) ∧
      second.map (·.name) = options.map (·.name) := by
  have shape := tells.shape
  rw [List.map_append] at shape
  obtain ⟨first, second, divided, left, right⟩ := List.map_eq_append_iff.mp shape
  refine ⟨first, second, divided, ?_, ?_, ?_, ?_⟩
  · simpa using congrArg List.length left
  · intro parameter listed
    have told := List.mem_map_of_mem (f := fun parameter : Parameter =>
      (parameter.name, parameter.keywordOnly)) listed
    rw [left] at told
    obtain ⟨formal, held, same⟩ := List.mem_map.mp told
    have kind := (Prod.mk.inj same).2
    rw [← kind, placed formal held]
  · intro parameter listed
    have told := List.mem_map_of_mem (f := fun parameter : Parameter =>
      (parameter.name, parameter.keywordOnly)) listed
    rw [right] at told
    obtain ⟨formal, held, same⟩ := List.mem_map.mp told
    have kind := (Prod.mk.inj same).2
    rw [← kind, optional formal held]
    rfl
  · simpa [Function.comp_def] using congrArg (List.map Prod.fst) right

theorem divided_of_regular {attachment : Attachment} {formals : List Formal}
    {parameters : List Parameter} (regular : Regular attachment formals)
    (tells : Tells (withoutReceiver attachment formals) parameters) (target : Value) :
    ∃ front places options first second,
      Divided formals parameters front places options first second ∧
        front.length = (attachment.receivers target).length := by
  obtain ⟨front, shape, counted, received⟩ := front_of_regular regular target
  have ordered := regular.placesFirst
  have distinct := regular.distinct
  rw [shape] at ordered distinct
  -- formals that are taken by keyword come last, so what follows the receiver falls into two
  have last := options_last (List.pairwise_append.mp ordered).2.1 tells.fixed
  have split := Reading.split_of_ordered (fun formal : Formal => formal.kind == .keywordOnly) last
  revert shape tells split distinct
  generalize withoutReceiver attachment formals = rest
  intro tells shape distinct split
  have placed : ∀ formal ∈ rest.filter (fun formal => !(formal.kind == .keywordOnly)),
      (formal.kind == .keywordOnly) = false := by
    intro formal listed
    simpa using (List.mem_filter.mp listed).2
  have optional : ∀ formal ∈ rest.filter (fun formal => formal.kind == .keywordOnly),
      formal.kind = .keywordOnly := by
    intro formal listed
    simpa using (List.mem_filter.mp listed).2
  revert placed optional split
  generalize rest.filter (fun formal => !(formal.kind == .keywordOnly)) = places
  generalize rest.filter (fun formal => formal.kind == .keywordOnly) = options
  intro split placed optional
  subst split
  obtain ⟨first, second, divided, length, positional, byKeyword, named⟩ :=
    tells_divide placed optional tells
  rw [← List.append_assoc] at shape distinct
  refine ⟨front, places, options, first, second, ⟨shape, ⟨?_, optional, distinct⟩, divided, length,
    positional, byKeyword, named⟩, counted⟩
  intro formal listed
  cases List.mem_append.mp listed with
  | inl inFront => exact received formal inFront
  | inr inPlaces =>
      have single := tells.fixed formal (List.mem_append_left _ inPlaces)
      have unnamed := placed formal inPlaces
      cases kind : formal.kind <;> simp_all [FormalKind.isPositional, FormalKind.isVariadic]

section Divided

variable {formals front places options : List Formal} {parameters first second : List Parameter}

theorem divided_orderly (divided : Divided formals parameters front places options first second)
    (allowed : KeywordFault.reservedName ∉ formals.map (·.name)) :
    Reading.Orderly parameters := by
  have unnamed : first.filter (·.keywordOnly) = [] := by
    apply List.filter_eq_nil_iff.mpr
    intro parameter listed
    simp [divided.positional parameter listed]
  have kept : second.filter (·.keywordOnly) = second :=
    List.filter_eq_self.mpr divided.byKeyword
  have names : (parameters.filter (·.keywordOnly)).map (·.name) = options.map (·.name) := by
    rw [divided.parametersDivide, List.filter_append, unnamed, kept, List.nil_append,
      divided.named]
  have whole : formals.map (·.name) = (front ++ places).map (·.name) ++ options.map (·.name) := by
    rw [divided.formalsDivide, List.map_append]
  refine ⟨?_, ?_, ?_⟩
  · rw [divided.parametersDivide, List.pairwise_append]
    refine ⟨?_, ?_, ?_⟩
    · apply List.pairwise_of_forall_mem_list
      intro earlier listed later _ keyword
      rw [divided.positional earlier listed] at keyword
      cases keyword
    · apply List.pairwise_of_forall_mem_list
      intro earlier _ later listed _
      exact divided.byKeyword later listed
    · intro earlier _ later listed _
      exact divided.byKeyword later listed
  · have distinct := divided.plain.distinct
    rw [List.map_append] at distinct
    rw [names]
    exact (List.nodup_append.mp distinct).2.1
  · rw [names]
    intro listed
    apply allowed
    rw [whole]
    exact List.mem_append_right _ listed

theorem bind_divided (divided : Divided formals parameters front places options first second)
    {receivers values : List Value} (received : front.length = receivers.length)
    (filled : values.length = parameters.length) :
    Binding.bind formals (receivers ++ Reading.placed parameters values)
        (Reading.keyed parameters values) =
      .ok (Binding.paired formals (receivers ++ values)) := by
  obtain ⟨left, right, rfl, taken⟩ : ∃ left right, values = left ++ right ∧
      first.length = left.length := by
    refine ⟨values.take first.length, values.drop first.length,
      (List.take_append_drop _ _).symm, ?_⟩
    rw [divided.parametersDivide, List.length_append] at filled
    rw [List.length_take]
    omega
  have given : right.length = options.length := by
    have names := congrArg List.length divided.named
    rw [divided.parametersDivide, List.length_append, List.length_append] at filled
    simp only [List.length_map] at names
    omega
  have placed : (receivers ++ left).length = (front ++ places).length := by
    have counted := divided.counted
    simp only [List.length_append]
    omega
  rw [divided.parametersDivide, Reading.placed_of_split divided.positional divided.byKeyword taken,
    Reading.keyed_of_split divided.positional divided.byKeyword taken, divided.named,
    divided.formalsDivide, ← List.append_assoc]
  exact Binding.bind_plain divided.plain placed given

end Divided

end Describe

namespace Reading

section Accept

variable {world : World} {caller : Caller} {container : Value} {conversions : List (Option Conversion)}
  {position : Nat} {values : List Value} {store after : Store}

theorem accept_counted (ran : (accept world caller container position conversions).execute store =
    (.ok values, after)) : values.length = conversions.length := by
  induction conversions generalizing position values store with
  | nil =>
      cases ran
      rfl
  | cons conversion rest ih =>
      obtain ⟨item, _, _, converting⟩ := Run.ok_of_execute_bind ran
      obtain ⟨value, _, _, onward⟩ := Run.ok_of_execute_bind converting
      obtain ⟨others, _, later, made⟩ := Run.ok_of_execute_bind onward
      cases made
      exact congrArg (· + 1) (ih later)

-- What is accepted from a list or a tuple is what stands there.
theorem accept_items {items : List Value} (holds : World.Holds container items)
    (ran : (accept world caller container position conversions).execute store =
      (.ok values, after)) : values = (items.drop position).take conversions.length := by
  induction conversions generalizing position values store with
  | nil =>
      cases ran
      rfl
  | cons conversion rest ih =>
      obtain ⟨item, _, reading, converting⟩ := Run.ok_of_execute_bind ran
      obtain ⟨value, _, converted, onward⟩ := Run.ok_of_execute_bind converting
      obtain ⟨others, _, later, made⟩ := Run.ok_of_execute_bind onward
      cases made
      have held := World.held_of_item holds reading
      obtain ⟨within, same⟩ := List.getElem?_eq_some_iff.mp held
      rw [Conversion.optional_gives_back converted, ih later, List.length_cons,
        List.drop_eq_getElem_cons within, List.take_succ_cons, same]

end Accept

end Reading

namespace Strategy

section Dispatch

variable {world : World} {caller : Caller} {described owner : ClassRef} {name qualname : String}
  {attachment : Attachment} {index : Nat} {routine : Routine} {method : MethodMember}
  {before after : Store}

theorem described_orderly (known : world.routines[index]? = some routine)
    (held : world.lookup described name =
      some (owner, World.attach attachment (.function index qualname)))
    (regular : Describe.Regular attachment routine.formals)
    (told : (Describe.method world caller described name).run.run before = (.ok method, after)) :
    Reading.Orderly method.parameters := by
  obtain ⟨_, _, tells⟩ := Describe.method_tells known held told
  obtain ⟨front, places, options, first, second, divided, _⟩ :=
    Describe.divided_of_regular regular tells .none
  exact Describe.divided_orderly divided regular.allowed

theorem run_routine_divided {world : World} {call : Caller} {parameters : List Parameter}
    (regular : Describe.Regular attachment routine.formals)
    (tells : Describe.Tells (Describe.withoutReceiver attachment routine.formals) parameters)
    (target : Value) {values : List Value} (filled : values.length = parameters.length) :
    world.runRoutine call routine
        (attachment.receivers target ++ Reading.placed parameters values)
        (Reading.keyed parameters values) =
      world.runBody call routine (Frame.ofBound routine
        (Binding.paired routine.formals (attachment.receivers target ++ values))) := by
  obtain ⟨front, places, options, first, second, divided, counted⟩ :=
    Describe.divided_of_regular regular tells target
  rw [World.runRoutine, Describe.bind_divided divided counted filled]

-- The run of a reference whose target leads to the function: the accepted values reach the
-- formals after the receiver.
theorem invoke_runs (known : world.routines[index]? = some routine)
    (held : world.lookup described name =
      some (owner, World.attach attachment (.function index qualname)))
    (regular : Describe.Regular attachment routine.formals)
    (told : (Describe.method world caller described name).run.run before = (.ok method, after))
    {later : World} (kept : later.routines[index]? = some routine) {depth : Nat}
    {target container : Value} {store accepted : Store} {values : List Value}
    {conversions : List (Option Conversion)}
    (counted : conversions.length = method.parameters.length)
    (leads : later.Leads store target name owner
      (World.attach attachment (.function index qualname)))
    (ran : (Reading.accept later
        (later.call (depth + 1 + (attachment.receivers (store.current target)).length)) container 0
        conversions).execute store = (.ok values, accepted)) :
    (Reading.invoke later
        (later.call (depth + 1 + (attachment.receivers (store.current target)).length)) method
        conversions target container).execute store =
      (do
        let result ← later.runBody (later.call depth) routine (Frame.ofBound routine
          (Binding.paired routine.formals
            (attachment.receivers (store.current target) ++ values)))
        return if method.isVoid then Value.none else result : Run Value).execute accepted := by
  obtain ⟨declared, called, tells⟩ := Describe.method_tells known held told
  obtain ⟨place, placed⟩ :=
    World.place_of_holder held (Attribute.attach_is_of_world attachment index qualname)
  have filled := (Reading.accept_counted ran).trans counted
  rw [Reading.invoke, declared, called, Run.execute_bind_ok (World.leads_narrow leads placed),
    Run.execute_bind_ok (World.normal_get_function leads), Run.execute_bind_ok ran,
    World.call_attached kept, run_routine_divided regular tells _ filled]

-- A call of the thunk of a described function never fails in binding: it runs the body of that
-- function, once, with the receiver that its attachment asks for and each formal bound to its
-- own argument.
theorem described_call_runs_body (known : world.routines[index]? = some routine)
    (held : world.lookup described name =
      some (owner, World.attach attachment (.function index qualname)))
    (regular : Describe.Regular attachment routine.formals)
    (told : (Describe.method world caller described name).run.run before = (.ok method, after))
    {request : Request} (reads : readsMethod request = true) {builder : Caller}
    {registry : Registry} {options : Options} {label : Option String} {asked : Store}
    {thunk : Thunk} (made : built world builder registry options request label
      (.member (.method method)) asked = .ok thunk) :
    ∃ informed, world.Informed informed ∧
      ∃ conversions, Reading.conversionsOf informed method.parameters = .ok conversions ∧
        ∀ (later : World) (target container : Value) (store accepted : Store)
          (values : List Value),
          later.routines[index]? = some routine →
          later.Leads store target name owner
            (World.attach attachment (.function index qualname)) →
          (Reading.accept later (later.call World.callLimit) container 0 conversions).execute
            store = (.ok values, accepted) →
          values.length = (Describe.withoutReceiver attachment routine.formals).length ∧
          (∀ items, World.Holds container items → values = items.take method.parameters.length) ∧
          ∃ depth, depth + 1 + (attachment.receivers (store.current target)).length =
              World.callLimit ∧
            (thunk.call later [target, container]).execute store =
              (LocatedRun.onLine (some Lambda.bodyLine) (do
                let result ← later.runBody (later.call depth) routine (Frame.ofBound routine
                  (Binding.paired routine.formals
                    (attachment.receivers (store.current target) ++ values)))
                return if method.isVoid then .none else result)).execute accepted := by
  obtain ⟨_, _, tells⟩ := Describe.method_tells known held told
  have orderly := described_orderly known held regular told
  have ended := method_built orderly reads world builder registry options label asked
  rw [made] at ended
  -- of the ways in which a build ends only one has a thunk
  cases ended with
  | made informed heard conversions found _ calls =>
      refine ⟨informed, heard, conversions, found, ?_⟩
      intro later target container store accepted values kept leads ran
      have counted := Reading.conversions_counted found
      have shaped : method.parameters.length =
          (Describe.withoutReceiver attachment routine.formals).length := by
        simpa using congrArg List.length tells.shape
      obtain ⟨depth, deep⟩ : ∃ depth, depth + 1 +
          (attachment.receivers (store.current target)).length = World.callLimit := by
        cases attachment
        · exact ⟨998, rfl⟩
        · exact ⟨998, rfl⟩
        · exact ⟨999, rfl⟩
      refine ⟨((Reading.accept_counted ran).trans counted).trans shaped, ?_, depth, deep, ?_⟩
      · intro items holds
        rw [Reading.accept_items holds ran, List.drop_zero, counted]
      · rw [← deep] at ran
        have runs := invoke_runs known held regular told kept counted leads ran
        rw [deep] at runs
        rw [calls]
        exact LocatedRun.on_line_congr _ runs

end Dispatch

-- A method with a formal of each kind that describing admits, two of them with defaults.
def countDeclared : RoutineDecl :=
  ⟨some (Formal.named "self"),
    [⟨"step", .positionalOnly, some (.cls (.builtin .int)), none⟩,
      ⟨"start", .ordinary, none, some (.int 7)⟩,
      ⟨"label", .keywordOnly, some (.cls (.builtin .str)), some (.text "n")⟩],
    some .none, [.store "seen" .arguments, .give .arguments]⟩

def counters : World :=
  World.empty.declare (.ofMembers "Counter" [.method "count" .toTarget (.routine countDeclared)])

def countMethod : MethodMember :=
  ⟨.declared 0, "count", [⟨"step", .cls (.builtin .int), false⟩, ⟨"start", .cls .object, false⟩,
    ⟨"label", .cls (.builtin .str), true⟩], .noneType, "instance"⟩

def countConversions : List (Option Conversion) :=
  [some (.unbox (.cls (.builtin .int)) false), none, some (.cast (.cls (.builtin .str)) false)]

theorem count_conversions {informed : World} (heard : counters.Informed informed) :
    Reading.conversionsOf informed countMethod.parameters = .ok countConversions := by
  cases informed with
  | mk classes routines told supertypes =>
      obtain ⟨rfl, rfl⟩ := heard
      with_unfolding_all rfl

theorem counter_call_runs_body :
    ∃ thunk, built counters (counters.call World.callLimit) .empty .standard .read none
        (.member (.method countMethod)) .empty = .ok thunk ∧
      ∃ depth, (thunk.call counters [.object 0 (.declared 0),
          .list [.int 3, .text "x", .text "z", .none]]).execute .empty =
        (LocatedRun.onLine (some Lambda.bodyLine) (do
          let _ ← counters.runBody (counters.call depth) (countDeclared.routine "Counter.count")
            ⟨some (.object 0 (.declared 0)),
              [("step", .int 3), ("start", .text "x"), ("label", .text "z")]⟩
          return .none)).execute .empty := by
  have built : (built counters (counters.call World.callLimit) .empty .standard .read none
      (.member (.method countMethod)) .empty).isOk = true := by decide +kernel
  obtain ⟨thunk, made⟩ := value_of_ok built
  have held : counters.lookup (.declared 0) "count" = some (.declared 0,
      World.attach .toTarget (.function 0 "Counter.count")) := by with_unfolding_all rfl
  have regular : Describe.Regular .toTarget (countDeclared.routine "Counter.count").formals :=
    ⟨by decide, by decide, by decide, fun _ => ⟨_, _, rfl, rfl⟩⟩
  have told : (Describe.method counters (counters.call World.callLimit) (.declared 0)
      "count").run.run .empty = (.ok countMethod, .empty) := by with_unfolding_all rfl
  have known : counters.routines[0]? = some (countDeclared.routine "Counter.count") := by
    with_unfolding_all rfl
  obtain ⟨informed, heard, conversions, found, calls⟩ :=
    described_call_runs_body known held regular told rfl made
  rw [count_conversions heard] at found
  cases found
  have leads : counters.Leads .empty (.object 0 (.declared 0)) "count" (.declared 0)
      (World.attach .toTarget (.function 0 "Counter.count")) :=
    ⟨⟨.declared 0, held, Or.inl rfl⟩, by with_unfolding_all rfl, by with_unfolding_all rfl⟩
  obtain ⟨_, _, depth, _, ran⟩ := calls counters (.object 0 (.declared 0))
    (.list [.int 3, .text "x", .text "z", .none]) .empty .empty
    [.int 3, .text "x", .text "z"] known leads (by with_unfolding_all rfl)
  exact ⟨thunk, made, depth, ran⟩

end Strategy

end MemberThunks
