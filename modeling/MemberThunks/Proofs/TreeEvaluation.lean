import MemberThunks.Proofs.ConstantNames
import MemberThunks.Proofs.ExactBinding
import MemberThunks.Proofs.Effects
import MemberThunks.Thunk.Loading

set_option autoImplicit false

/- Trees that a builder makes. Each constant that is added keeps its meaning in every scope
   that serves the table, so that a converted expression is evaluated by evaluating it and
   applying the conversion; and a tree made this way loads whatever the member is called. -/
namespace MemberThunks

-- A scope keeps the constants of a table: no parameter is named like a constant, and neither
-- is the function itself.
structure Scope.Serves (scope : Scope) (constants : Constants) : Prop where
  extendsTable : Constants.Extends scope.constants constants
  numbered : scope.constants.Numbered
  plain : ∀ name ∈ scope.parameters.keys, '_' ∉ name.toList
  apart : scope.own ∉ scope.constants.keys

namespace Scope

variable {scope : Scope} {constants earlier : Constants}

theorem serves_earlier (serves : scope.Serves constants)
    (grows : Constants.Extends constants earlier) : scope.Serves earlier :=
  { serves with extendsTable := Constants.extends_trans serves.extendsTable grows }

-- The scope of a call serves the table of the function.
theorem serves_own {parameters : Entries String Value} {own : String}
    (numbered : constants.Numbered) (plain : ∀ name ∈ parameters.keys, '_' ∉ name.toList)
    (apart : own ∉ constants.keys) : Serves ⟨parameters, own, constants⟩ constants :=
  ⟨Constants.extends_refl constants, numbered, plain, apart⟩

theorem meaning_of_constant (serves : scope.Serves constants) {label : String}
    {constant : Constant} (found : constants.lookup label = some constant) :
    scope.meaning? label = some (.constant constant) := by
  have kept := serves.extendsTable label constant found
  have listed := Entries.mem_keys_of_lookup kept
  have free : scope.parameters.lookup label = none := by
    cases taken : scope.parameters.lookup label with
    | none => rfl
    | some value =>
        have clash := serves.plain label (Entries.mem_keys_of_lookup taken)
        exact absurd (Constants.underscore_in_key serves.numbered listed) clash
  have apart : label ≠ scope.own := by
    intro same
    exact serves.apart (same ▸ listed)
  rw [meaning?, free]
  simp only [if_neg apart, kept]

theorem meaning_of_parameter {label : String} {value : Value}
    (found : scope.parameters.lookup label = some value) :
    scope.meaning? label = some (.value value) := by
  rw [meaning?, found]

end Scope

-- What loading asks of a tree: it refers to no constant of the language, and each of its calls
-- gives every keyword once.
structure Expression.Sound (expression : Expression) : Prop where
  names : ∀ name ∈ expression.names, Loading.isConstant name = false
  keywords : expression.keywordFault? = none

theorem Constants.not_constant_of_underscore {label : String} (mark : '_' ∈ label.toList) :
    Loading.isConstant label = false := by
  apply Bool.eq_false_iff.mpr
  intro listed
  simp only [Loading.isConstant, List.contains_iff_mem, List.mem_cons, List.not_mem_nil,
    or_false] at listed
  rcases listed with rfl | rfl | rfl <;> revert mark <;> decide

namespace Expression

theorem find_keyword_fault {names : List String} (distinct : names.Nodup)
    (allowed : KeywordFault.reservedName ∉ names) : KeywordFault.find? names = none := by
  induction names with
  | nil => rfl
  | cons name rest ih =>
      obtain ⟨absent, apart⟩ := List.nodup_cons.mp distinct
      rw [List.mem_cons, not_or] at allowed
      have tail := ih apart allowed.2
      have plain : name ≠ KeywordFault.reservedName := fun same => allowed.1 same.symm
      simp [KeywordFault.find?, plain, absent, tail]

theorem sound_all {expressions : List Expression} (sound : ∀ expression ∈ expressions,
    expression.Sound) : (∀ name ∈ namesAll expressions, Loading.isConstant name = false) ∧
      keywordFaultInAll? expressions = none := by
  induction expressions with
  | nil => exact ⟨by simp [namesAll], rfl⟩
  | cons expression rest ih =>
      obtain ⟨head, tail⟩ := List.forall_mem_cons.mp sound
      obtain ⟨names, keywords⟩ := ih tail
      constructor
      · intro name listed
        cases List.mem_append.mp listed with
        | inl here => exact head.names name here
        | inr later => exact names name later
      · simp [keywordFaultInAll?, head.keywords, keywords]

theorem sound_keywords {entries : List (String × Expression)} (sound : ∀ entry ∈ entries,
    entry.2.Sound) : (∀ name ∈ namesKeywords entries, Loading.isConstant name = false) ∧
      keywordFaultInKeywords? entries = none := by
  induction entries with
  | nil => exact ⟨by simp [namesKeywords], rfl⟩
  | cons entry rest ih =>
      obtain ⟨head, tail⟩ := List.forall_mem_cons.mp sound
      obtain ⟨names, keywords⟩ := ih tail
      constructor
      · intro name listed
        cases List.mem_append.mp listed with
        | inl here => exact head.names name here
        | inr later => exact names name later
      · simp [keywordFaultInKeywords?, head.keywords, keywords]

theorem sound_call {callee : Expression} {arguments : List Expression}
    {keywords : List (String × Expression)} (called : callee.Sound)
    (positional : ∀ expression ∈ arguments, expression.Sound)
    (named : ∀ entry ∈ keywords, entry.2.Sound) (distinct : (keywords.map (·.1)).Nodup)
    (allowed : KeywordFault.reservedName ∉ keywords.map (·.1)) :
    (Expression.call callee arguments keywords).Sound := by
  obtain ⟨names, faults⟩ := sound_all positional
  obtain ⟨moreNames, moreFaults⟩ := sound_keywords named
  constructor
  · intro name listed
    simp only [Expression.names, List.mem_append] at listed
    rcases listed with (here | there) | elsewhere
    · exact called.names name here
    · exact names name there
    · exact moreNames name elsewhere
  · simp [keywordFault?, find_keyword_fault distinct allowed, called.keywords, faults, moreFaults]

theorem sound_name {label : String} (plain : Loading.isConstant label = false) :
    (Expression.name label).Sound :=
  ⟨by simpa [names] using plain, rfl⟩

theorem sound_literal (content : Literal) : (Expression.literal content).Sound :=
  ⟨by simp [names], rfl⟩

theorem sound_member {target : Expression} (sound : target.Sound) (label : String) :
    (Expression.member target label).Sound := by
  rw [Expression.member]
  split
  · exact ⟨sound.names, sound.keywords⟩
  · refine sound_call (sound_name (by decide)) ?_ (by simp)
      List.nodup_nil (by simp)
    intro expression listed
    simp only [List.mem_cons, List.not_mem_nil, or_false] at listed
    rcases listed with rfl | rfl
    · exact sound
    · exact sound_literal _

end Expression

namespace Builder

theorem squash_hint {hint : String} (kind : hint ∈ Constants.hints) :
    Identifier.squash hint = hint := by
  simp only [Constants.hints, List.mem_cons, List.not_mem_nil, or_false] at kind
  rcases kind with rfl | rfl | rfl | rfl | rfl <;> decide

theorem constant_named {hint : String} (kind : hint ∈ Constants.hints) (content : Constant)
    (before : Constants) : constant content hint before =
      (.name (before.nextName hint), (before.add hint content).2) := by
  rw [constant, squash_hint kind]
  rfl

-- What a builder makes of an expression: a sound one which is evaluated, in every scope that
-- serves the table by then, as the given run says.
structure Makes (world : World) (caller : Caller) (before : Constants)
    (made : Expression × Constants) (meaning : Caller → Scope → Run Value) : Prop where
  numbered : made.2.Numbered
  grows : Constants.Extends made.2 before
  sound : made.1.Sound
  evaluates : ∀ (itself : Caller) (scope : Scope), scope.Serves made.2 →
    made.1.evaluate world caller itself scope = meaning itself scope

theorem convert_named (expression : Expression) (check : Conversion) (before : Constants) :
    convert expression (some check) before =
      (.call (.name (before.nextName (Constant.conversionHint check))) [expression] [],
        (before.add (Constant.conversionHint check) (.conversion check)).2) :=
  congrArg (fun named : Expression × Constants => (named.1.call [expression] [], named.2))
    (constant_named (Constants.conversion_hint_listed check) (.conversion check) before)

theorem convert_makes (world : World) (caller : Caller) {before : Constants}
    (numbered : before.Numbered) {expression : Expression} (sound : expression.Sound)
    (conversion : Option Conversion) :
    Makes world caller before (convert expression conversion before)
      fun itself scope => expression.evaluate world caller itself scope >>=
        Conversion.applyOptional world caller conversion := by
  cases conversion with
  | none =>
      refine ⟨numbered, Constants.extends_refl _, sound, ?_⟩
      intro itself scope _
      exact (bind_pure _).symm
  | some check =>
      have known := Constants.add_numbered numbered (Constants.conversion_hint_listed check)
        (.conversion check)
      have found := Constants.lookup_added before (Constant.conversionHint check)
        (.conversion check)
      rw [convert_named]
      refine ⟨known, Constants.add_extends numbered _ _, ?_, ?_⟩
      · have mark := Constants.underscore_in_key known (Entries.mem_keys_of_lookup found)
        refine Expression.sound_call
          (Expression.sound_name (Constants.not_constant_of_underscore mark)) ?_
          (by simp) List.nodup_nil (by simp)
        intro given listed
        exact List.mem_singleton.mp listed ▸ sound
      · intro itself scope serves
        simp only [Expression.evaluate, Expression.evaluateCallee, Expression.evaluateAll,
          Expression.evaluateKeywords, Expression.meaningOf,
          Scope.meaning_of_constant serves found, pure_bind, bind_assoc]
        rfl

end Builder

namespace Expression

section Evaluate

variable {world : World} {caller itself : Caller} {scope : Scope}

theorem evaluate_parameter {label : String} {value : Value}
    (found : scope.parameters.lookup label = some value) :
    (Expression.name label).evaluate world caller itself scope = pure value := by
  simp only [evaluate, meaningOf, Scope.meaning_of_parameter found]
  rfl

theorem evaluate_all_append (first second : List Expression) :
    evaluateAll world caller itself scope (first ++ second) =
      (evaluateAll world caller itself scope first >>= fun values =>
        evaluateAll world caller itself scope second >>= fun others =>
          pure (values ++ others)) := by
  induction first with
  | nil => simp [evaluateAll]
  | cons expression rest ih => simp [evaluateAll, ih]

theorem evaluate_keywords_zip {names : List String} {expressions : List Expression}
    (paired : names.length = expressions.length) :
    evaluateKeywords world caller itself scope (names.zip expressions) =
      (evaluateAll world caller itself scope expressions >>= fun values =>
        pure (names.zip values)) := by
  induction names generalizing expressions with
  | nil =>
      obtain rfl := List.length_eq_zero_iff.mp paired.symm
      simp [evaluateAll, evaluateKeywords]
  | cons name rest ih =>
      cases expressions with
      | nil => simp at paired
      | cons expression expressions =>
          have tail := ih (by simpa using paired)
          simp [evaluateAll, evaluateKeywords, tail]

-- As many values come out of a list of expressions as there are in it.
theorem evaluate_all_congr {α : Type} {expressions : List Expression}
    {next other : List Value → Run α}
    (same : ∀ values, values.length = expressions.length → next values = other values) :
    (evaluateAll world caller itself scope expressions >>= next) =
      (evaluateAll world caller itself scope expressions >>= other) := by
  induction expressions generalizing next other with
  | nil =>
      simp only [evaluateAll, pure_bind]
      exact same [] rfl
  | cons expression rest ih =>
      simp only [evaluateAll, bind_assoc, pure_bind]
      congr 1
      funext value
      apply ih
      intro values counted
      exact same (value :: values) (by simp [counted])

end Evaluate

end Expression

theorem Code.load_marked (code : Code) {fileName : String}
    (marked : Char.ofNat 0 ∈ fileName.toList) : code.load fileName = .error .nulInFileName := by
  have checked : Loading.check code fileName = .error .nulInFileName := by
    simp [Loading.check, marked]
  rw [Code.load, checked]
  rfl

namespace Lambda

theorem call_evaluates (lambda : Lambda) (arguments : List Value)
    (distinct : lambda.parameters.Nodup) (filled : arguments.length = lambda.parameters.length)
    (world : World) : ∃ itself : Caller, lambda.call world arguments =
      LocatedRun.onLine (some bodyLine) (lambda.body.evaluate world
        (world.call World.callLimit) itself
        ⟨lambda.parameters.zip arguments, lambda.name, lambda.constants⟩ >>= fun result =>
          pure (lambda.finish result)) := by
  have bound : Binding.bind lambda.formals arguments [] =
      .ok (lambda.parameters.zip arguments) := Binding.bind_named distinct filled
  have called : ∀ caller depth, ∃ itself : Caller,
      lambda.callWithin world caller (depth + 1) arguments [] =
        LocatedRun.onLine (some bodyLine) (lambda.body.evaluate world caller itself
          ⟨lambda.parameters.zip arguments, lambda.name, lambda.constants⟩ >>= fun result =>
            pure (lambda.finish result)) := by
    intro caller depth
    rw [callWithin, bound]
    exact ⟨_, rfl⟩
  exact called (world.call World.callLimit) 999

-- A sound tree under a capital name loads under every name of a file.
theorem load_sound {lambda : Lambda} (sound : lambda.body.Sound)
    (once : Expression.repeated? lambda.parameters = none)
    (allowed : KeywordFault.reservedName ∉ lambda.parameters)
    (capital : lambda.name ≠ KeywordFault.reservedName) {fileName : String}
    (clean : Char.ofNat 0 ∉ fileName.toList) :
    (Code.tree lambda).load fileName = .ok ⟨.tree lambda, fileName⟩ := by
  have named : lambda.body.names.find? Loading.isConstant = none := by
    apply List.find?_eq_none.mpr
    intro name listed
    simp [sound.names name listed]
  have checked : Loading.check (.tree lambda) fileName = .ok () := by
    simp [Loading.check, clean, Loading.checkTree, named, Loading.checkNames, once, allowed,
      sound.keywords, capital]
  rw [Code.load, checked]
  rfl

end Lambda

end MemberThunks
