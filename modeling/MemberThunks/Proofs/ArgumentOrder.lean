import MemberThunks.Proofs.CallingConvention

set_option autoImplicit false

/- How any method is called, be its parameters declared in an order of their own. The function
   that is built for a method reads the items of the arguments that are given by position before
   those that are given under names, each in the order of their declaration, and converts each as
   it is read. Where the parameters that are taken by keyword come last, that is what the reference
   does, step by step. -/
namespace MemberThunks

namespace Reading

-- A conversion with the position of the item it is for.
abbrev Slot := Option Conversion × Nat

-- Reads and converts one item for each slot.
def acceptEach (world : World) (caller : Caller) (container : Value) : List Slot → Run (List Value)
  | [] => pure []
  | (conversion, position) :: rest => do
    let item ← world.item caller container (.int position)
    let value ← Conversion.applyOptional world caller conversion item
    return value :: (← acceptEach world caller container rest)

-- What is given by position, and after it what is given under a name.
def ordered {α : Type} (parameters : List Parameter) (items : List α) : List α :=
  placed parameters items ++ (keyed parameters items).map (·.2)

-- How many items are given by position, and the names of the others.
def places (parameters : List Parameter) : Nat :=
  (parameters.filter fun parameter => !parameter.keywordOnly).length

def names (parameters : List Parameter) : List String :=
  (parameters.filter (·.keywordOnly)).map (·.name)

-- A call of a method as its function makes it.
def perform (world : World) (caller : Caller) (method : MethodMember)
    (conversions : List (Option Conversion)) (target container : Value) : Run Value := do
  let narrowed ← (Conversion.cast (.cls method.declaring) false).apply world caller target
  let callee ← world.normalGet caller narrowed method.name
  let values ← acceptEach world caller container
    (ordered method.parameters conversions.zipIdx)
  let result ← caller callee (values.take (places method.parameters))
    ((names method.parameters).zip (values.drop (places method.parameters)))
  return if method.isVoid then .none else result

theorem placed_map {α β : Type} (change : α → β) (parameters : List Parameter) (items : List α) :
    placed parameters (items.map change) = (placed parameters items).map change := by
  simp only [placed, List.zip_map_right, List.filter_map, List.map_map]
  rfl

theorem keyed_map {α β : Type} (change : α → β) (parameters : List Parameter) (items : List α) :
    (keyed parameters (items.map change)).map (·.2) =
      ((keyed parameters items).map (·.2)).map change := by
  simp only [keyed, List.zip_map_right, List.filter_map, List.map_map]
  rfl

theorem ordered_map {α β : Type} (change : α → β) (parameters : List Parameter)
    (items : List α) :
    ordered parameters (items.map change) = (ordered parameters items).map change := by
  rw [ordered, ordered, placed_map, keyed_map, List.map_append]

theorem mem_of_ordered {α : Type} {parameters : List Parameter} {items : List α} {item : α}
    (listed : item ∈ ordered parameters items) : item ∈ items := by
  rcases List.mem_append.mp listed with early | late
  · exact mem_of_placed early
  · obtain ⟨entry, kept, rfl⟩ := List.mem_map.mp late
    exact mem_of_keyed kept

theorem placed_counted {α : Type} {parameters : List Parameter} {items : List α}
    (counted : items.length = parameters.length) :
    (placed parameters items).length = places parameters := by
  induction parameters generalizing items with
  | nil => rfl
  | cons parameter rest ih =>
      cases items with
      | nil => simp at counted
      | cons item items =>
          have tail : (placed rest items).length = places rest := ih (by simpa using counted)
          cases kind : parameter.keywordOnly <;> simpa [placed, places, kind] using tail

-- Each expression for an argument reads the item at its position and converts it.
theorem arguments_each (world : World) (caller : Caller) (conversions : List (Option Conversion))
    (position : Nat) {before : Constants} (numbered : before.Numbered) (itself : Caller)
    {scope : Scope} {container : Value}
    (serves : scope.Serves (argumentsFrom position conversions before).2)
    (held : scope.parameters.lookup argumentsName = some container) :
    ∀ pair ∈ (argumentsFrom position conversions before).1.zip (conversions.zipIdx position),
      pair.1.evaluate world caller itself scope =
        (world.item caller container (.int pair.2.2) >>=
          Conversion.applyOptional world caller pair.2.1) := by
  induction conversions generalizing position before with
  | nil =>
      intro pair listed
      cases listed
  | cons conversion rest ih =>
      have first := argument_makes world caller numbered position conversion
      have later := arguments_accept rest (position + 1) first.numbered
      have head := first.evaluates itself scope (scope.serves_earlier serves later.grows)
      have item : (Expression.subscript (.name argumentsName) (.number position)).evaluate
          world caller itself scope = world.item caller container (.int position) := by
        rw [Expression.evaluate, Expression.evaluate_parameter held, pure_bind]
        rfl
      intro pair listed
      cases List.mem_cons.mp listed with
      | inl same =>
          rw [same, ← item]
          exact head
      | inr listed => exact ih (position + 1) first.numbered serves pair listed

theorem evaluate_each {world : World} {caller itself : Caller} {scope : Scope} {container : Value}
    (pairs : List (Expression × Slot))
    (each : ∀ pair ∈ pairs, pair.1.evaluate world caller itself scope =
      (world.item caller container (.int pair.2.2) >>=
        Conversion.applyOptional world caller pair.2.1)) :
    Expression.evaluateAll world caller itself scope (pairs.map (·.1)) =
      acceptEach world caller container (pairs.map (·.2)) := by
  induction pairs with
  | nil => rfl
  | cons pair rest ih =>
      have tail := ih fun other listed => each other (List.mem_cons_of_mem _ listed)
      rw [List.map_cons, List.map_cons, Expression.evaluateAll, each pair List.mem_cons_self, tail,
        acceptEach, bind_assoc]

theorem keyed_by_names {α : Type} {parameters : List Parameter} {items : List α}
    (counted : items.length = parameters.length) :
    keyed parameters items = (names parameters).zip ((keyed parameters items).map (·.2)) := by
  rw [names, ← keyed_names counted]
  exact (List.zip_unzip (keyed parameters items)).symm.trans (by simp)

-- Positional expressions and then the ones under names, whatever the order of the parameters.
theorem evaluate_ordered {α : Type} {world : World} {caller itself : Caller} {scope : Scope}
    {parameters : List Parameter} {expressions : List Expression}
    (counted : expressions.length = parameters.length)
    (next : List Value → Entries String Value → Run α) :
    (Expression.evaluateAll world caller itself scope (placed parameters expressions) >>=
      fun values => Expression.evaluateKeywords world caller itself scope
        (keyed parameters expressions) >>= fun named => next values named) =
      (Expression.evaluateAll world caller itself scope (ordered parameters expressions) >>=
        fun values => next (values.take (places parameters))
          ((names parameters).zip (values.drop (places parameters)))) := by
  have paired : (names parameters).length =
      ((keyed parameters expressions).map (·.2)).length := by
    rw [names, ← keyed_names counted, List.length_map, List.length_map]
  rw [keyed_by_names counted, Expression.evaluate_keywords_zip paired, ordered,
    Expression.evaluate_all_append, bind_assoc]
  apply Expression.evaluate_all_congr
  intro values given
  rw [placed_counted counted] at given
  simp only [bind_assoc, pure_bind, ← given, List.take_left, List.drop_left]

theorem evaluate_any_order {world : World} {caller itself : Caller} {scope : Scope}
    {container : Value} (parameters : List Parameter) {expressions : List Expression}
    {conversions : List (Option Conversion)} (counted : expressions.length = conversions.length)
    (each : ∀ pair ∈ expressions.zip conversions.zipIdx,
      pair.1.evaluate world caller itself scope =
        (world.item caller container (.int pair.2.2) >>=
          Conversion.applyOptional world caller pair.2.1)) :
    Expression.evaluateAll world caller itself scope (ordered parameters expressions) =
      acceptEach world caller container (ordered parameters conversions.zipIdx) := by
  have filled : expressions.length = conversions.zipIdx.length := by
    rw [List.length_zipIdx, counted]
  have firsts : (expressions.zip conversions.zipIdx).map (·.1) = expressions :=
    List.map_fst_zip (Nat.le_of_eq filled)
  have seconds : (expressions.zip conversions.zipIdx).map (·.2) = conversions.zipIdx :=
    List.map_snd_zip (Nat.le_of_eq filled.symm)
  have both := evaluate_each (ordered parameters (expressions.zip conversions.zipIdx))
    fun pair listed => each pair (mem_of_ordered listed)
  rwa [← ordered_map, ← ordered_map, firsts, seconds] at both

section Method

variable {method : MethodMember} {conversions : List (Option Conversion)}

theorem method_body_performs (counted : conversions.length = method.parameters.length)
    (world : World) (caller itself : Caller) {scope : Scope} {target container : Value}
    (serves : scope.Serves ((methodBody method (method.parameters.zip conversions)).run []).2)
    (bound : scope.parameters = [(targetName, target), (argumentsName, container)])
    (apart : Expression.readerName ≠ scope.own) :
    (((methodBody method (method.parameters.zip conversions)).run []).1.evaluate world caller
        itself scope >>= fun result => pure (if method.isVoid then .none else result)) =
      perform world caller method conversions target container := by
  have narrows := target_narrows world caller method.declaring
  have accepts := arguments_accept conversions 0 narrows.numbered
  rw [method_body_divides counted] at serves ⊢
  have given : scope.parameters.lookup targetName = some target := by
    rw [bound]
    rfl
  have held : scope.parameters.lookup argumentsName = some container := by
    rw [bound]
    rfl
  have free : scope.parameters.lookup Expression.readerName = none := by
    rw [bound]
    rfl
  have narrowed := narrows.evaluates itself scope (scope.serves_earlier serves accepts.grows)
  rw [Expression.evaluate_parameter given, pure_bind] at narrowed
  have each := arguments_each world caller conversions 0 narrows.numbered itself serves held
  have accepted := evaluate_any_order method.parameters accepts.counted each
  simp only [Builder.call, Expression.evaluate,
    evaluate_member_callee free apart serves.numbered, narrowed, bind_assoc, pure_bind,
    Meaning.call, perform]
  congr 1
  funext receiver
  congr 1
  funext callee
  rw [evaluate_ordered (accepts.counted.trans counted), accepted]

-- The function that is built for a method whose parameters have conversions.
def function (method : MethodMember) (conversions : List (Option Conversion)) : Lambda :=
  Lambda.make ("Invoke" ++ method.name) [targetName, argumentsName] method.isVoid
    (methodBody method (method.parameters.zip conversions))

theorem method_of_conversions {known : World}
    (found : conversionsOf known method.parameters = .ok conversions) :
    Reading.method known method = .ok (function method conversions) := by
  rw [Reading.method, converted_parameters, found]
  rfl

theorem function_performs (counted : conversions.length = method.parameters.length)
    (world : World) (target container : Value) :
    (function method conversions).call world [target, container] =
      LocatedRun.onLine (some Lambda.bodyLine)
        (perform world (world.call World.callLimit) method conversions target container) := by
  obtain ⟨itself, called⟩ := Lambda.call_evaluates (function method conversions)
    [target, container] (by decide : [targetName, argumentsName].Nodup) rfl world
  rw [called]
  exact congrArg (LocatedRun.onLine (some Lambda.bodyLine)) (method_body_performs counted world
    (world.call World.callLimit) itself (method_scope_serves counted target container) rfl
    (reader_apart method.name))

end Method

section Orderly

variable {parameters : List Parameter}

-- What is given by position comes first already, where no parameter that is taken by keyword
-- precedes one that is not.
theorem ordered_of_orderly {α : Type} (placesFirst : parameters.Pairwise fun earlier later =>
    earlier.keywordOnly = true → later.keywordOnly = true) {items : List α}
    (counted : items.length = parameters.length) : ordered parameters items = items := by
  have split := split_of_ordered Parameter.keywordOnly placesFirst
  have positional : ∀ parameter ∈ parameters.filter (fun parameter => !parameter.keywordOnly),
      parameter.keywordOnly = false := by
    intro parameter listed
    simpa using (List.mem_filter.mp listed).2
  have byKeyword : ∀ parameter ∈ parameters.filter (·.keywordOnly),
      parameter.keywordOnly = true := by
    intro parameter listed
    exact (List.mem_filter.mp listed).2
  revert split positional byKeyword
  generalize parameters.filter (fun parameter => !parameter.keywordOnly) = places
  generalize parameters.filter (·.keywordOnly) = options
  intro split positional byKeyword
  subst split
  obtain ⟨first, second, rfl, filled⟩ : ∃ first second, items = first ++ second ∧
      places.length = first.length := by
    refine ⟨items.take places.length, items.drop places.length,
      (List.take_append_drop _ _).symm, ?_⟩
    rw [List.length_append] at counted
    rw [List.length_take]
    omega
  have rest : second.length ≤ (options.map (·.name)).length := by
    simp only [List.length_append] at counted
    rw [List.length_map]
    omega
  rw [ordered, placed_of_split positional byKeyword filled,
    keyed_of_split positional byKeyword filled, List.map_snd_zip rest]

theorem divided_of_orderly (placesFirst : parameters.Pairwise fun earlier later =>
    earlier.keywordOnly = true → later.keywordOnly = true) {values : List Value}
    (counted : values.length = parameters.length) :
    values.take (places parameters) = placed parameters values ∧
      (names parameters).zip (values.drop (places parameters)) = keyed parameters values := by
  have whole : placed parameters values ++ (keyed parameters values).map (·.2) = values :=
    ordered_of_orderly placesFirst counted
  have front := placed_counted counted
  have taken := (congrArg (List.take (places parameters)) whole.symm).trans (List.take_left' front)
  have left := (congrArg (List.drop (places parameters)) whole.symm).trans (List.drop_left' front)
  exact ⟨taken, by rw [left, ← keyed_by_names counted]⟩

theorem accept_in_order (world : World) (caller : Caller) (container : Value)
    (conversions : List (Option Conversion)) (position : Nat) :
    acceptEach world caller container (conversions.zipIdx position) =
      accept world caller container position conversions := by
  induction conversions generalizing position with
  | nil => rfl
  | cons conversion rest ih => rw [List.zipIdx_cons, acceptEach, accept, ih]

-- As many values are accepted as there are conversions.
theorem accept_congr {α : Type} {world : World} {caller : Caller} {container : Value}
    {position : Nat} {conversions : List (Option Conversion)} {next other : List Value → Run α}
    (same : ∀ values, values.length = conversions.length → next values = other values) :
    (accept world caller container position conversions >>= next) =
      (accept world caller container position conversions >>= other) := by
  induction conversions generalizing position next other with
  | nil =>
      simp only [accept, pure_bind]
      exact same [] rfl
  | cons conversion rest ih =>
      simp only [accept, bind_assoc, pure_bind]
      congr 1
      funext item
      congr 1
      funext value
      apply ih
      intro values counted
      exact same (value :: values) (congrArg (· + 1) counted)

variable {method : MethodMember} {conversions : List (Option Conversion)}

theorem perform_orderly (orderly : Orderly method.parameters)
    (counted : conversions.length = method.parameters.length) (world : World) (caller : Caller)
    (target container : Value) :
    perform world caller method conversions target container =
      invoke world caller method conversions target container := by
  have filled : conversions.zipIdx.length = method.parameters.length := by
    rw [List.length_zipIdx, counted]
  rw [perform, invoke, ordered_of_orderly orderly.placesFirst filled, accept_in_order]
  congr 1
  funext narrowed
  congr 1
  funext callee
  apply accept_congr
  intro values given
  obtain ⟨first, second⟩ := divided_of_orderly orderly.placesFirst (given.trans counted)
  rw [first, second]

theorem method_calls {known : World} {lambda : Lambda} (orderly : Orderly method.parameters)
    (built : Reading.method known method = .ok lambda) :
    ∃ conversions, conversionsOf known method.parameters = .ok conversions ∧
      ∀ (world : World) (target container : Value),
        lambda.call world [target, container] = LocatedRun.onLine (some Lambda.bodyLine)
          (invoke world (world.call World.callLimit) method conversions target container) := by
  obtain ⟨conversions, found, rfl⟩ := method_gives built
  refine ⟨conversions, found, ?_⟩
  intro world target container
  have counted := conversions_counted found
  rw [← perform_orderly orderly counted]
  exact function_performs counted world target container

end Orderly

end Reading

end MemberThunks
