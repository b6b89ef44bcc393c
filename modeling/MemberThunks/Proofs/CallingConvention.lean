import MemberThunks.Expression.Reading
import MemberThunks.Proofs.TreeEvaluation

set_option autoImplicit false

/- How a method is called. The reference narrows the target, looks the method up on it, reads
   and converts one item of the arguments for each parameter in the order of their
   declaration, and calls with the positional values and the keyword-only ones under their
   names. The function that is built for a method is one call, whose arguments are divided
   among positions and names. -/
namespace MemberThunks

namespace Reading

-- Reads and converts one item for each conversion, from a position on.
def accept (world : World) (caller : Caller) (container : Value) :
    Nat → List (Option Conversion) → Run (List Value)
  | _, [] => pure []
  | position, conversion :: rest => do
    let item ← world.item caller container (.int position)
    let value ← Conversion.applyOptional world caller conversion item
    return value :: (← accept world caller container (position + 1) rest)

-- What is given by position, and what is given under a name.
def placed {α : Type} (parameters : List Parameter) (items : List α) : List α :=
  ((parameters.zip items).filter fun entry => !entry.1.keywordOnly).map (·.2)

def keyed {α : Type} (parameters : List Parameter) (items : List α) : List (String × α) :=
  ((parameters.zip items).filter fun entry => entry.1.keywordOnly).map fun entry =>
    (entry.1.name, entry.2)

-- The reference.
def invoke (world : World) (caller : Caller) (method : MethodMember)
    (conversions : List (Option Conversion)) (target container : Value) : Run Value := do
  let narrowed ← (Conversion.cast (.cls method.declaring) false).apply world caller target
  let callee ← world.normalGet caller narrowed method.name
  let values ← accept world caller container 0 conversions
  let result ← caller callee (placed method.parameters values) (keyed method.parameters values)
  return if method.isVoid then .none else result

-- The parameters that are taken by keyword come last, under names of their own that a call can
-- give.
structure Orderly (parameters : List Parameter) : Prop where
  placesFirst : parameters.Pairwise fun earlier later =>
    earlier.keywordOnly = true → later.keywordOnly = true
  distinct : ((parameters.filter (·.keywordOnly)).map (·.name)).Nodup
  allowed : KeywordFault.reservedName ∉ (parameters.filter (·.keywordOnly)).map (·.name)

theorem placed_of_split {α : Type} {places options : List Parameter} {first second : List α}
    (positional : ∀ parameter ∈ places, parameter.keywordOnly = false)
    (byKeyword : ∀ parameter ∈ options, parameter.keywordOnly = true)
    (filled : places.length = first.length) :
    placed (places ++ options) (first ++ second) = first := by
  rw [placed, List.zip_append filled, List.filter_append]
  have kept : (places.zip first).filter (fun entry => !entry.1.keywordOnly) = places.zip first := by
    apply List.filter_eq_self.mpr
    intro entry listed
    simp [positional entry.1 (List.of_mem_zip listed).1]
  have dropped : (options.zip second).filter (fun entry => !entry.1.keywordOnly) = [] := by
    apply List.filter_eq_nil_iff.mpr
    intro entry listed
    simp [byKeyword entry.1 (List.of_mem_zip listed).1]
  rw [kept, dropped, List.append_nil, List.map_snd_zip (Nat.le_of_eq filled.symm)]

theorem keyed_of_split {α : Type} {places options : List Parameter} {first second : List α}
    (positional : ∀ parameter ∈ places, parameter.keywordOnly = false)
    (byKeyword : ∀ parameter ∈ options, parameter.keywordOnly = true)
    (filled : places.length = first.length) :
    keyed (places ++ options) (first ++ second) = (options.map (·.name)).zip second := by
  rw [keyed, List.zip_append filled, List.filter_append]
  have dropped : (places.zip first).filter (fun entry => entry.1.keywordOnly) = [] := by
    apply List.filter_eq_nil_iff.mpr
    intro entry listed
    simp [positional entry.1 (List.of_mem_zip listed).1]
  have kept : (options.zip second).filter (fun entry => entry.1.keywordOnly) =
      options.zip second := by
    apply List.filter_eq_self.mpr
    intro entry listed
    exact byKeyword entry.1 (List.of_mem_zip listed).1
  rw [dropped, kept, List.nil_append, List.zip_map_left]
  rfl

-- Where what comes last stays last, a list falls into two.
theorem split_of_ordered {α : Type} (last : α → Bool) {items : List α}
    (ordered : items.Pairwise fun earlier later => last earlier = true → last later = true) :
    items = items.filter (fun item => !last item) ++ items.filter last := by
  induction items with
  | nil => rfl
  | cons item rest ih =>
      obtain ⟨later, ordered⟩ := List.pairwise_cons.mp ordered
      cases kind : last item with
      | false =>
          have tail := ih ordered
          simp only [List.filter_cons, kind, Bool.not_false, if_true, Bool.false_eq_true,
            if_false, List.cons_append, ← tail]
      | true =>
          have noneLeft : rest.filter (fun item => !last item) = [] := by
            apply List.filter_eq_nil_iff.mpr
            intro other listed
            simp [later other listed kind]
          have allKept : rest.filter last = rest := by
            apply List.filter_eq_self.mpr
            intro other listed
            exact later other listed kind
          simp [kind, noneLeft, allKept]

-- The expressions for some arguments, from a position on.
def argumentsFrom (position : Nat) : List (Option Conversion) → Builder (List Expression)
  | [] => pure []
  | conversion :: rest => do
    let expression ← argument position conversion
    return expression :: (← argumentsFrom (position + 1) rest)

theorem call_arguments_split (converted : List Converted) (position : Nat)
    (sofar : CallArguments) (before : Constants) :
    callArguments position sofar converted before =
      (⟨sofar.positional ++ placed (converted.map (·.1))
            (argumentsFrom position (converted.map (·.2)) before).1,
          sofar.keywords ++ keyed (converted.map (·.1))
            (argumentsFrom position (converted.map (·.2)) before).1⟩,
        (argumentsFrom position (converted.map (·.2)) before).2) := by
  induction converted generalizing position sofar before with
  | nil => simp [callArguments, argumentsFrom, placed, keyed]; rfl
  | cons entry rest ih =>
      obtain ⟨parameter, conversion⟩ := entry
      have step : callArguments position sofar ((parameter, conversion) :: rest) before =
          callArguments (position + 1)
            (sofar.add parameter (argument position conversion before).1) rest
            (argument position conversion before).2 := rfl
      have made : argumentsFrom position (conversion :: rest.map (·.2)) before =
          ((argument position conversion before).1 ::
              (argumentsFrom (position + 1) (rest.map (·.2))
                (argument position conversion before).2).1,
            (argumentsFrom (position + 1) (rest.map (·.2))
              (argument position conversion before).2).2) := rfl
      rw [step, ih, List.map_cons, List.map_cons, made]
      cases kind : parameter.keywordOnly <;>
        simp [placed, keyed, CallArguments.add, kind]

-- What the builder makes of some arguments.
structure Accepts (before : Constants) (conversions : List (Option Conversion))
    (made : List Expression × Constants) : Prop where
  counted : made.1.length = conversions.length
  numbered : made.2.Numbered
  grows : Constants.Extends made.2 before
  sound : ∀ expression ∈ made.1, expression.Sound

theorem argument_makes (world : World) (caller : Caller) {before : Constants}
    (numbered : before.Numbered) (position : Nat) (conversion : Option Conversion) :
    Builder.Makes world caller before (argument position conversion before)
      fun itself scope =>
        (Expression.subscript (.name argumentsName) (.number position)).evaluate world caller
          itself scope >>= Conversion.applyOptional world caller conversion := by
  have sound : (Expression.subscript (.name argumentsName) (.number position)).Sound := by
    constructor
    · intro name listed
      simp only [Expression.names, List.mem_singleton] at listed
      subst listed
      decide
    · rfl
  exact Builder.convert_makes world caller numbered sound conversion

theorem arguments_accept (conversions : List (Option Conversion)) (position : Nat)
    {before : Constants} (numbered : before.Numbered) :
    Accepts before conversions (argumentsFrom position conversions before) := by
  induction conversions generalizing position before with
  | nil =>
      refine ⟨rfl, numbered, Constants.extends_refl _, ?_⟩
      intro expression listed
      cases listed
  | cons conversion rest ih =>
      -- what is made does not hang on the world it is evaluated in
      have first := argument_makes .empty (fun _ _ _ => pure .none) numbered position conversion
      have later := ih (position + 1) first.numbered
      refine ⟨congrArg (· + 1) later.counted, later.numbered,
        Constants.extends_trans later.grows first.grows, ?_⟩
      intro expression listed
      cases List.mem_cons.mp listed with
      | inl same =>
          rw [same]
          exact first.sound
      | inr listed => exact later.sound expression listed

-- The reader by name stands for itself wherever nothing else has its name.
theorem reader_known {scope : Scope} (free : scope.parameters.lookup Expression.readerName = none)
    (apart : Expression.readerName ≠ scope.own) (numbered : scope.constants.Numbered) :
    scope.meaning? Expression.readerName = some .reader := by
  have hidden : scope.constants.lookup Expression.readerName = none := by
    cases found : scope.constants.lookup Expression.readerName with
    | none => rfl
    | some constant =>
        have mark := Constants.underscore_in_key numbered (Entries.mem_keys_of_lookup found)
        exact absurd mark (by decide)
  simp only [Scope.meaning?, free, if_neg apart, hidden, if_true]

theorem evaluate_member_callee {world : World} {caller itself : Caller} {scope : Scope}
    (free : scope.parameters.lookup Expression.readerName = none)
    (apart : Expression.readerName ≠ scope.own) (numbered : scope.constants.Numbered)
    (target : Expression) (label : String) :
    (Expression.member target label).evaluateCallee world caller itself scope =
      (target.evaluate world caller itself scope >>= fun value =>
        world.normalGet caller value label >>= fun callee => pure (.value callee)) := by
  rw [Expression.member]
  split
  · rfl
  · simp only [Expression.evaluateCallee, Expression.meaningOf, reader_known free apart numbered,
      Expression.evaluateAll, Expression.evaluate, Expression.evaluateKeywords, pure_bind,
      bind_assoc, Meaning.call, Expression.ofLiteral]

theorem keyed_names {α : Type} {parameters : List Parameter} {items : List α}
    (counted : items.length = parameters.length) :
    (keyed parameters items).map (·.1) = (parameters.filter (·.keywordOnly)).map (·.name) := by
  induction parameters generalizing items with
  | nil => rfl
  | cons parameter rest ih =>
      cases items with
      | nil => simp at counted
      | cons item items =>
          have tail := ih (by simpa using counted)
          cases kind : parameter.keywordOnly <;> simpa [keyed, kind] using tail

theorem mem_of_placed {α : Type} {parameters : List Parameter} {items : List α} {item : α}
    (listed : item ∈ placed parameters items) : item ∈ items := by
  obtain ⟨entry, kept, rfl⟩ := List.mem_map.mp listed
  exact (List.of_mem_zip (List.mem_filter.mp kept).1).2

theorem mem_of_keyed {α : Type} {parameters : List Parameter} {items : List α}
    {entry : String × α} (listed : entry ∈ keyed parameters items) : entry.2 ∈ items := by
  obtain ⟨pair, kept, rfl⟩ := List.mem_map.mp listed
  exact (List.of_mem_zip (List.mem_filter.mp kept).1).2

section Method

variable {method : MethodMember} {conversions : List (Option Conversion)}

-- The body of a method is one call: of the member of the narrowed target, with the arguments
-- divided among positions and names.
theorem method_body_divides (counted : conversions.length = method.parameters.length) :
    (methodBody method (method.parameters.zip conversions)).run [] =
      (Builder.call (castTarget method.declaring []).1 method.name
        (placed method.parameters (argumentsFrom 0 conversions (castTarget method.declaring []).2).1)
        (keyed method.parameters (argumentsFrom 0 conversions (castTarget method.declaring []).2).1),
      (argumentsFrom 0 conversions (castTarget method.declaring []).2).2) := by
  have firsts : (method.parameters.zip conversions).map (·.1) = method.parameters :=
    List.map_fst_zip (Nat.le_of_eq counted.symm)
  have seconds : (method.parameters.zip conversions).map (·.2) = conversions :=
    List.map_snd_zip (Nat.le_of_eq counted)
  have split := call_arguments_split (method.parameters.zip conversions) 0 ⟨[], []⟩
    (castTarget method.declaring []).2
  rw [firsts, seconds, List.nil_append, List.nil_append] at split
  exact congrArg (fun arguments : CallArguments × Constants =>
    (Builder.call (castTarget method.declaring []).1 method.name arguments.1.positional
      arguments.1.keywords, arguments.2)) split

theorem target_narrows (world : World) (caller : Caller) (declaring : ClassRef) :
    Builder.Makes world caller [] (castTarget declaring []) fun itself scope =>
      (Expression.name targetName).evaluate world caller itself scope >>=
        Conversion.applyOptional world caller (some (.cast (.cls declaring) false)) :=
  Builder.convert_makes world caller Constants.numbered_empty
    (Expression.sound_name (by decide)) (some (.cast (.cls declaring) false))

theorem method_body_numbered (counted : conversions.length = method.parameters.length) :
    ((methodBody method (method.parameters.zip conversions)).run []).2.Numbered := by
  -- what is made does not hang on the world it is evaluated in
  have narrows := target_narrows .empty (fun _ _ _ => pure .none) method.declaring
  have accepts := arguments_accept conversions 0 narrows.numbered
  rw [method_body_divides counted]
  exact accepts.numbered

theorem method_body_sound (orderly : Orderly method.parameters)
    (counted : conversions.length = method.parameters.length) :
    ((methodBody method (method.parameters.zip conversions)).run []).1.Sound := by
  have narrows := target_narrows .empty (fun _ _ _ => pure .none) method.declaring
  have accepts := arguments_accept conversions 0 narrows.numbered
  rw [method_body_divides counted]
  have names := keyed_names (accepts.counted.trans counted)
  apply Expression.sound_call (Expression.sound_member narrows.sound method.name)
  · intro expression listed
    exact accepts.sound expression (mem_of_placed listed)
  · intro entry listed
    exact accepts.sound entry.2 (mem_of_keyed listed)
  · rw [names]
    exact orderly.distinct
  · rw [names]
    exact orderly.allowed

theorem invoke_name (name : String) :
    ∃ rest, (Identifier.squash ("Invoke" ++ name)).toList = 'I' :: rest := by
  have starts : ("Invoke" ++ name).toList = 'I' :: ("nvoke".toList ++ name.toList) := by
    simp
  exact ⟨_, Identifier.squash_starts starts (by decide) (by decide)⟩

theorem reader_apart (name : String) :
    Expression.readerName ≠ Identifier.squash ("Invoke" ++ name) := by
  obtain ⟨rest, named⟩ := invoke_name name
  intro same
  rw [← same] at named
  cases named

-- The scope in which the body of a method is evaluated.
theorem method_scope_serves (counted : conversions.length = method.parameters.length)
    (target container : Value) :
    Scope.Serves ⟨[(targetName, target), (argumentsName, container)],
      Identifier.squash ("Invoke" ++ method.name),
      ((methodBody method (method.parameters.zip conversions)).run []).2⟩
      ((methodBody method (method.parameters.zip conversions)).run []).2 := by
  obtain ⟨rest, named⟩ := invoke_name method.name
  have numbered := method_body_numbered counted
  refine Scope.serves_own numbered ?_ (Constants.capital_not_key numbered named rfl)
  intro name listed
  simp only [Entries.keys, List.map_cons, List.map_nil, List.mem_cons, List.not_mem_nil,
    or_false] at listed
  rcases listed with rfl | rfl <;> decide

end Method

-- The conversions of some parameters, or the fault of the first that has none.
def conversionsOf (known : World) (parameters : List Parameter) :
    Except UnsupportedType (List (Option Conversion)) :=
  parameters.mapM fun parameter => known.conversionFor parameter.type false

theorem converted_parameters (known : World) (method : MethodMember) :
    convertedParameters known method =
      match conversionsOf known method.parameters with
      | .ok conversions => .ok (method.parameters.zip conversions)
      | .error fault => .error (.unsupported fault ((Member.method method).qualname known)) := by
  rw [convertedParameters, conversionsOf]
  generalize (Member.method method).qualname known = about
  induction method.parameters with
  | nil => rfl
  | cons parameter rest ih =>
      rw [List.mapM_cons, List.mapM_cons]
      cases first : known.conversionFor parameter.type false with
      | error fault => rfl
      | ok conversion =>
          rw [ih]
          cases rest.mapM fun parameter => known.conversionFor parameter.type false with
          | error fault => rfl
          | ok conversions => rfl

theorem conversions_counted {known : World} {parameters : List Parameter}
    {conversions : List (Option Conversion)}
    (found : conversionsOf known parameters = .ok conversions) :
    conversions.length = parameters.length := by
  induction parameters generalizing conversions with
  | nil =>
      cases found
      rfl
  | cons parameter rest ih =>
      rw [conversionsOf, List.mapM_cons] at found
      obtain ⟨conversion, _, found⟩ := ok_of_bind found
      obtain ⟨later, tail, made⟩ := ok_of_bind found
      cases made
      exact congrArg (· + 1) (ih tail)

theorem unsupported_parameter {known : World} {parameters : List Parameter}
    {fault : UnsupportedType} (found : conversionsOf known parameters = .error fault) :
    ∃ parameter ∈ parameters, known.conversionFor parameter.type false = .error fault := by
  induction parameters with
  | nil => cases found
  | cons parameter rest ih =>
      rw [conversionsOf, List.mapM_cons] at found
      cases first : known.conversionFor parameter.type false with
      | error other =>
          rw [first] at found
          cases found
          exact ⟨parameter, List.mem_cons_self, first⟩
      | ok conversion =>
          cases tail : conversionsOf known rest with
          | error other =>
              rw [conversionsOf] at tail
              rw [first, tail] at found
              cases found
              obtain ⟨failing, listed, same⟩ := ih tail
              exact ⟨failing, List.mem_cons_of_mem _ listed, same⟩
          | ok conversions =>
              rw [conversionsOf] at tail
              rw [first, tail] at found
              cases found

section Thunk

variable {known : World} {method : MethodMember} {lambda : Lambda}

theorem method_gives (built : Reading.method known method = .ok lambda) :
    ∃ conversions, conversionsOf known method.parameters = .ok conversions ∧
      lambda = Lambda.make ("Invoke" ++ method.name) [targetName, argumentsName] method.isVoid
        (methodBody method (method.parameters.zip conversions)) := by
  obtain ⟨converted, found, made⟩ := ok_of_bind built
  rw [converted_parameters] at found
  cases tried : conversionsOf known method.parameters with
  | error fault => simp [tried] at found
  | ok conversions =>
      simp only [tried] at found
      cases found
      exact ⟨conversions, rfl, (Except.ok.inj made).symm⟩

theorem method_loads (orderly : Orderly method.parameters)
    (built : Reading.method known method = .ok lambda) {fileName : String}
    (clean : Char.ofNat 0 ∉ fileName.toList) :
    (Code.tree lambda).load fileName = .ok ⟨.tree lambda, fileName⟩ := by
  obtain ⟨conversions, found, rfl⟩ := method_gives built
  obtain ⟨rest, named⟩ := invoke_name method.name
  have capital : Identifier.squash ("Invoke" ++ method.name) ≠ KeywordFault.reservedName := by
    intro same
    rw [same] at named
    cases named
  exact Lambda.load_sound (method_body_sound orderly (conversions_counted found)) rfl
    (by decide : KeywordFault.reservedName ∉ [targetName, argumentsName]) capital clean

end Thunk

end Reading

end MemberThunks
