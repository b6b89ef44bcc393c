import MemberThunks.Proofs.MethodBuild
import MemberThunks.Proofs.PropertyReads

set_option autoImplicit false

/- A builder never hands out a name twice. Whatever it is asked for and under whatever hints, the
   table it ends with is what it handed out, each name with the constant it was handed out for.
   The functions that read members refer to nothing else: a name in such a body is a parameter,
   a constant, or the reader by name where the name of the member cannot stand after a dot. -/
namespace MemberThunks

theorem Entries.lookup_of_distinct {κ ν : Type} [BEq κ] [LawfulBEq κ] {entries : Entries κ ν}
    (distinct : entries.keys.Nodup) {entry : κ × ν} (listed : entry ∈ entries) :
    entries.lookup entry.1 = some entry.2 := by
  obtain ⟨before, after, split⟩ := List.append_of_mem listed
  refine List.lookup_eq_some_iff.mpr ⟨before, after, split, ?_⟩
  intro earlier preceding
  have apart : entry.1 ≠ earlier.1 := by
    rw [split, keys, List.map_append, List.nodup_append] at distinct
    exact (distinct.2.2 earlier.1 (List.mem_map_of_mem preceding) entry.1 (by simp)).symm
  simpa using apart

namespace Constants

-- A table that no further name clashes with, as no two of its own do.
structure Open (constants : Constants) : Prop where
  counted : constants.Counted
  distinct : constants.keys.Nodup

theorem open_empty : Open [] :=
  ⟨Constants.counted_of_numbered Constants.numbered_empty, List.nodup_nil⟩

theorem open_add {constants : Constants} (known : Open constants) (hint : String)
    (constant : Constant) : Open (constants ++ [(constants.nextName hint, constant)]) := by
  have grown : Entries.keys (constants ++ [(constants.nextName hint, constant)]) =
      constants.keys ++ [constants.nextName hint] := by
    simp [Entries.keys]
  constructor
  · intro label listed
    rw [grown, List.mem_append, List.mem_singleton] at listed
    rw [List.length_append, List.length_singleton]
    cases listed with
    | inl earlier =>
        obtain ⟨other, number, before, named⟩ := known.counted label earlier
        exact ⟨other, number, by omega, named⟩
    | inr latest => exact ⟨hint, constants.length, by omega, latest⟩
  · rw [grown, List.nodup_append]
    refine ⟨known.distinct, by simp, ?_⟩
    intro label earlier latest listed same
    rw [List.mem_singleton.mp listed] at same
    exact fresh_of_counted known.counted hint (same ▸ earlier)

end Constants

namespace Builder

-- What a builder keeps a constant for, if it has to.
inductive Ask where
  | constant (content : Constant) (hint : String)
  | convert (expression : Expression) (conversion : Option Conversion)
  | load (target : Expression) (label : String)

def Ask.build : Ask → Builder Expression
  | constant content hint => Builder.constant content hint
  | convert expression conversion => Builder.convert expression conversion
  | load target label => Builder.load target label

-- What is built for a request, and what is handed out for it: nothing, or a constant under the
-- name by which the answer refers to it.
inductive Answered : Ask → Expression → Constants → Prop where
  | constant (content : Constant) (hint label : String) :
      Answered (.constant content hint) (.name label) [(label, content)]
  | unconverted (expression : Expression) : Answered (.convert expression none) expression []
  | converted (expression : Expression) (check : Conversion) (label : String) :
      Answered (.convert expression (some check)) (.call (.name label) [expression] [])
        [(label, .conversion check)]
  | loaded (target : Expression) (member label : String) :
      Answered (.load target member) (.call (.name label) [target, .literal (.text member)] [])
        [(label, .directGet)]

-- One request after another, and all that is handed out for them in their order.
inductive Answers : List Ask → List Expression → Constants → Prop where
  | done : Answers [] [] []
  | next {ask : Ask} {answer : Expression} {handed : Constants} {asks : List Ask}
      {answers : List Expression} {later : Constants} (first : Answered ask answer handed)
      (rest : Answers asks answers later) :
      Answers (ask :: asks) (answer :: answers) (handed ++ later)

theorem constant_handed {before : Constants} (known : before.Open) (content : Constant)
    (hint : String) : ∃ label, constant content hint before =
      (.name label, before ++ [(label, content)]) ∧ Constants.Open (before ++ [(label, content)]) :=
  ⟨before.nextName (Identifier.squash hint),
    congrArg (Prod.mk _) (Constants.appends_of_counted known.counted _ content),
    Constants.open_add known _ content⟩

theorem ask_answered {before : Constants} (known : before.Open) (ask : Ask) :
    ∃ answer handed, ask.build before = (answer, before ++ handed) ∧
      Answered ask answer handed ∧ Constants.Open (before ++ handed) := by
  cases ask with
  | constant content hint =>
      obtain ⟨label, made, grown⟩ := constant_handed known content hint
      exact ⟨_, _, made, .constant content hint label, grown⟩
  | convert expression conversion =>
      cases conversion with
      | none =>
          refine ⟨expression, [], ?_, .unconverted expression, ?_⟩
          · rw [List.append_nil]
            rfl
          · rwa [List.append_nil]
      | some check =>
          obtain ⟨label, made, grown⟩ :=
            constant_handed known (.conversion check) (Constant.conversionHint check)
          exact ⟨_, _, congrArg (fun named : Expression × Constants =>
            (named.1.call [expression] [], named.2)) made, .converted expression check label, grown⟩
  | load target member =>
      obtain ⟨label, made, grown⟩ := constant_handed known .directGet "load"
      exact ⟨_, _, congrArg (fun named : Expression × Constants =>
        (named.1.call [target, .literal (.text member)] [], named.2)) made,
        .loaded target member label, grown⟩

theorem asks_answered {before : Constants} (known : before.Open) (asks : List Ask) :
    ∃ answers handed, (asks.mapM Ask.build).run before = (answers, before ++ handed) ∧
      Answers asks answers handed ∧ Constants.Open (before ++ handed) := by
  induction asks generalizing before with
  | nil =>
      refine ⟨[], [], ?_, .done, ?_⟩
      · rw [List.append_nil]
        rfl
      · rwa [List.append_nil]
  | cons ask rest ih =>
      obtain ⟨answer, handed, made, answered, grown⟩ := ask_answered known ask
      obtain ⟨answers, later, ran, tail, final⟩ := ih grown
      rw [List.append_assoc] at ran final
      refine ⟨answer :: answers, handed ++ later, ?_, .next answered tail, final⟩
      have step : ((ask :: rest).mapM Ask.build).run before =
          ((ask.build before).1 :: ((rest.mapM Ask.build).run (ask.build before).2).1,
            ((rest.mapM Ask.build).run (ask.build before).2).2) := by
        rw [List.mapM_cons]
        rfl
      rw [step, made, ran]

end Builder

namespace Expression

theorem mem_names_all {label : String} {expressions : List Expression} :
    label ∈ namesAll expressions ↔ ∃ expression ∈ expressions, label ∈ expression.names := by
  induction expressions with
  | nil => simp [namesAll]
  | cons expression rest ih => simp [namesAll, ih]

theorem mem_names_keywords {label : String} {entries : List (String × Expression)} :
    label ∈ namesKeywords entries ↔ ∃ entry ∈ entries, label ∈ entry.2.names := by
  induction entries with
  | nil => simp [namesKeywords]
  | cons entry rest ih => simp [namesKeywords, ih]

theorem mem_names_member {label name : String} {target : Expression} :
    label ∈ (member target name).names ↔
      label ∈ target.names ∨ label = readerName ∧ Identifier.isPlain name = false := by
  rw [member]
  cases plain : Identifier.isPlain name with
  | true => simp [names]
  | false => simp [names, namesAll, namesKeywords, or_comm]

end Expression

namespace Builder

-- The names that a request brings along.
def Ask.given : Ask → List String
  | constant _ _ => []
  | convert expression _ => expression.names
  | load target _ => target.names

theorem answered_names {ask : Ask} {answer : Expression} {handed : Constants}
    (answered : Answered ask answer handed) {label : String} (listed : label ∈ answer.names) :
    label ∈ ask.given ∨ label ∈ handed.keys := by
  cases answered with
  | constant content hint kept => exact Or.inr listed
  | unconverted expression => exact Or.inl listed
  | converted _ _ _ | loaded _ _ _ =>
      simpa [Expression.names, Expression.namesAll, Expression.namesKeywords, Ask.given,
        Entries.keys, or_comm] using listed

theorem answers_names {asks : List Ask} {answers : List Expression} {handed : Constants}
    (answered : Answers asks answers handed) {answer : Expression} (among : answer ∈ answers)
    {label : String} (listed : label ∈ answer.names) :
    (∃ ask ∈ asks, label ∈ ask.given) ∨ label ∈ handed.keys := by
  induction answered with
  | done => cases among
  | next first rest ih =>
      rw [Entries.keys, List.map_append, List.mem_append]
      cases List.mem_cons.mp among with
      | inl same =>
          cases answered_names first (same ▸ listed) with
          | inl given => exact Or.inl ⟨_, List.mem_cons_self, given⟩
          | inr kept => exact Or.inr (Or.inl kept)
      | inr later =>
          cases ih later with
          | inl given =>
              obtain ⟨ask, within, brought⟩ := given
              exact Or.inl ⟨ask, List.mem_cons_of_mem _ within, brought⟩
          | inr kept => exact Or.inr (Or.inr kept)

end Builder

-- A function whose body refers to nothing but its parameters, its constants and, if at all, the
-- reader by name. The table is that of a builder, and hides nothing nor is hidden in a call.
structure Lambda.Closed (lambda : Lambda) (byName : Bool) : Prop where
  requested : ∃ asks : List Builder.Ask,
    lambda.constants = ((asks.mapM Builder.Ask.build).run []).2
  apart : ∀ label ∈ lambda.constants.keys, label ∉ lambda.parameters ∧ label ≠ lambda.name
  known : ∀ label ∈ lambda.body.names, label ∈ lambda.parameters ∨
    label ∈ lambda.constants.keys ∨ label = Expression.readerName ∧ byName = true
  reads : Expression.readerName ∈ lambda.body.names ↔ byName = true
  means : ∀ bound : Entries String Value, bound.keys = lambda.parameters →
    (∀ label constant, lambda.constants.lookup label = some constant →
      Scope.meaning? ⟨bound, lambda.name, lambda.constants⟩ label = some (.constant constant)) ∧
    Scope.meaning? ⟨bound, lambda.name, lambda.constants⟩ Expression.readerName = some .reader

namespace Reading

-- Whether a member is looked up by a name that cannot stand after a dot. A field never is: its
-- name is given to the direct read in any case.
def byName : Member → Bool
  | .method details => !Identifier.isPlain details.name
  | .property details => !Identifier.isPlain details.name
  | .field _ | .bare _ _ => false

-- A body that is put together of the answers to some requests and, if at all, the reader. What the
-- requests bring along are parameters, and constants that were handed out before.
structure Composed (parameters : List String) (reader : Bool) (made : Expression × Constants)
    (asks : List Builder.Ask) (answers : List Expression) : Prop where
  ran : (asks.mapM Builder.Ask.build).run [] = (answers, made.2)
  numbered : made.2.Numbered
  given : ∀ ask ∈ asks, ∀ label ∈ ask.given, label ∈ parameters ∨ label ∈ made.2.keys
  names : ∀ label ∈ made.1.names, (∃ answer ∈ answers, label ∈ answer.names) ∨
    label = Expression.readerName ∧ reader = true
  reads : reader = true → Expression.readerName ∈ made.1.names

section Composed

variable {parameters : List String} {reader : Bool} {made : Expression × Constants}
  {asks : List Builder.Ask} {answers : List Expression}

theorem composed_known (composed : Composed parameters reader made asks answers) {label : String}
    (listed : label ∈ made.1.names) : label ∈ parameters ∨ label ∈ made.2.keys ∨
      label = Expression.readerName ∧ reader = true := by
  obtain ⟨told, handed, same, answered, _⟩ := Builder.asks_answered Constants.open_empty asks
  rw [composed.ran, List.nil_append] at same
  obtain ⟨rfl, rfl⟩ := Prod.mk.inj same
  rcases composed.names label listed with ⟨answer, among, within⟩ | byReader
  · rcases Builder.answers_names answered among within with ⟨ask, asked, brought⟩ | kept
    · exact (composed.given ask asked label brought).imp_right Or.inl
    · exact Or.inr (Or.inl kept)
  · exact Or.inr (Or.inr byReader)

-- In a call nothing takes the place of a constant or of the reader: parameters have no underscore,
-- and no constant begins with a capital letter, as the function does.
theorem call_means {constants : Constants} (numbered : constants.Numbered)
    (plain : ∀ label ∈ parameters, '_' ∉ label.toList ∧ label ≠ Expression.readerName)
    {own : String} {first : Char} {rest : List Char} (named : own.toList = first :: rest)
    (capital : first.isUpper = true) {bound : Entries String Value}
    (filled : bound.keys = parameters) :
    (∀ label constant, constants.lookup label = some constant →
      Scope.meaning? ⟨bound, own, constants⟩ label = some (.constant constant)) ∧
    Scope.meaning? ⟨bound, own, constants⟩ Expression.readerName = some .reader := by
  have serves : Scope.Serves ⟨bound, own, constants⟩ constants :=
    Scope.serves_own numbered (fun label listed => (plain label (filled ▸ listed)).1)
      (Constants.capital_not_key numbered named capital)
  have free : bound.lookup Expression.readerName = none := by
    apply Option.eq_none_iff_forall_ne_some.mpr
    intro value found
    exact (plain _ (filled ▸ Entries.mem_keys_of_lookup found)).2 rfl
  have apart : Expression.readerName ≠ own := by
    rintro rfl
    cases named
    cases capital
  exact ⟨fun label constant found => Scope.meaning_of_constant serves found,
    reader_known free apart numbered⟩

theorem make_closed {name : String} {isVoid : Bool} {body : Builder Expression}
    (composed : Composed parameters reader (body.run []) asks answers)
    (plain : ∀ label ∈ parameters, '_' ∉ label.toList ∧ label ≠ Expression.readerName)
    {first : Char} {rest : List Char} (named : (Identifier.squash name).toList = first :: rest)
    (capital : first.isUpper = true) :
    (Lambda.make name parameters isVoid body).Closed reader where
  requested := ⟨asks, (congrArg Prod.snd composed.ran).symm⟩
  apart := by
    intro label listed
    constructor
    · intro parameter
      exact (plain label parameter).1 (Constants.underscore_in_key composed.numbered listed)
    · rintro rfl
      exact Constants.capital_not_key composed.numbered named capital listed
  known := fun label listed => composed_known composed listed
  reads := by
    refine ⟨fun listed => ?_, composed.reads⟩
    rcases composed_known composed listed with parameter | kept | byReader
    · exact absurd rfl (plain _ parameter).2
    · exact absurd (Constants.underscore_in_key composed.numbered kept) (by decide)
    · exact byReader.2
  means := fun bound filled => call_means composed.numbered plain named capital filled

end Composed

-- The request that every function which reads begins with.
def targetAsk (declaring : ClassRef) : Builder.Ask :=
  .convert (.name targetName) (some (.cast (.cls declaring) false))

-- What the function of a method asks for after that: one conversion for each parameter.
def argumentAsks : Nat → List (Option Conversion) → List Builder.Ask
  | _, [] => []
  | position, conversion :: rest =>
    .convert (.subscript (.name argumentsName) (.number position)) conversion ::
      argumentAsks (position + 1) rest

theorem arguments_asked (position : Nat) (conversions : List (Option Conversion)) :
    (argumentAsks position conversions).mapM Builder.Ask.build =
      argumentsFrom position conversions := by
  induction conversions generalizing position with
  | nil => rfl
  | cons conversion rest ih =>
      rw [argumentAsks, List.mapM_cons, ih]
      rfl

theorem arguments_given {position : Nat} {conversions : List (Option Conversion)}
    {ask : Builder.Ask} (listed : ask ∈ argumentAsks position conversions) :
    ask.given = [argumentsName] := by
  induction conversions generalizing position with
  | nil => cases listed
  | cons conversion rest ih =>
      cases List.mem_cons.mp listed with
      | inl same =>
          rw [same]
          rfl
      | inr later => exact ih later

theorem method_composed {method : MethodMember} {conversions : List (Option Conversion)}
    (counted : conversions.length = method.parameters.length) :
    Composed [targetName, argumentsName] (!Identifier.isPlain method.name)
      ((methodBody method (method.parameters.zip conversions)).run [])
      (targetAsk method.declaring :: argumentAsks 0 conversions)
      ((castTarget method.declaring []).1 ::
        (argumentsFrom 0 conversions (castTarget method.declaring []).2).1) := by
  have numbered := method_body_numbered counted
  rw [method_body_divides counted] at numbered ⊢
  refine ⟨?_, numbered, ?_, ?_, ?_⟩
  · rw [List.mapM_cons, arguments_asked]
    rfl
  · intro ask listed label brought
    left
    cases List.mem_cons.mp listed with
    | inl same =>
        rw [same] at brought
        exact List.mem_cons.mpr (Or.inl (List.mem_singleton.mp brought))
    | inr later =>
        rw [arguments_given later] at brought
        exact List.mem_cons_of_mem _ brought
  · intro label listed
    rw [Builder.call, Expression.names, List.mem_append, List.mem_append,
      Expression.mem_names_member, Expression.mem_names_all, Expression.mem_names_keywords] at listed
    rcases listed with ((target | byReader) | placed) | keyed
    · exact Or.inl ⟨_, List.mem_cons_self, target⟩
    · exact Or.inr (by simpa using byReader)
    · obtain ⟨expression, among, within⟩ := placed
      exact Or.inl ⟨expression, List.mem_cons_of_mem _ (mem_of_placed among), within⟩
    · obtain ⟨entry, among, within⟩ := keyed
      exact Or.inl ⟨entry.2, List.mem_cons_of_mem _ (mem_of_keyed among), within⟩
  · intro odd
    rw [Builder.call, Expression.names, List.mem_append, List.mem_append,
      Expression.mem_names_member]
    exact Or.inl (Or.inl (Or.inr ⟨rfl, by simpa using odd⟩))

theorem target_composed (declaring : ClassRef) :
    Composed [targetName] false (castTarget declaring []) [targetAsk declaring]
      [(castTarget declaring []).1] := by
  -- what is made does not hang on the world it is evaluated in
  have narrows := target_narrows .empty (fun _ _ _ => pure .none) declaring
  refine ⟨rfl, narrows.numbered, ?_, ?_, ?_⟩
  · intro ask listed label brought
    rw [List.mem_singleton.mp listed] at brought
    exact Or.inl brought
  · intro label listed
    exact Or.inl ⟨_, List.mem_cons_self, listed⟩
  · intro odd
    cases odd

theorem property_composed (property : PropertyMember) :
    Composed [targetName] (!Identifier.isPlain property.name) ((propertyBody property).run [])
      [targetAsk property.declaring] [(castTarget property.declaring []).1] := by
  have target := target_composed property.declaring
  have made : (propertyBody property).run [] =
      (Expression.member (castTarget property.declaring []).1 property.name,
        (castTarget property.declaring []).2) := rfl
  rw [made]
  refine ⟨target.ran, target.numbered, target.given, ?_, ?_⟩
  · intro label listed
    rcases Expression.mem_names_member.mp listed with narrowed | byReader
    · exact Or.inl ⟨_, List.mem_cons_self, narrowed⟩
    · exact Or.inr (by simpa using byReader)
  · intro odd
    exact Expression.mem_names_member.mpr (Or.inr ⟨rfl, by simpa using odd⟩)

theorem field_composed (field : FieldMember) :
    Composed [targetName] false ((fieldBody field).run [])
      [targetAsk field.declaring, .load (castTarget field.declaring []).1 field.name]
      [(castTarget field.declaring []).1, ((fieldBody field).run []).1] := by
  have target := target_composed field.declaring
  have narrows := target_narrows .empty (fun _ _ _ => pure .none) field.declaring
  have loads := Builder.load_makes .empty (fun _ _ _ => pure .none) narrows.numbered narrows.sound
    field.name
  have grows : Constants.Extends ((fieldBody field).run []).2 (castTarget field.declaring []).2 :=
    loads.grows
  have kept : ∀ label ∈ (castTarget field.declaring []).1.names, label ∈ [targetName] ∨
      label ∈ ((fieldBody field).run []).2.keys := by
    intro label listed
    rcases composed_known target listed with parameter | held | ⟨_, odd⟩
    · exact Or.inl parameter
    · obtain ⟨constant, found⟩ := Option.isSome_iff_exists.mp (Binding.lookup_isSome_of_mem held)
      exact Or.inr (Entries.mem_keys_of_lookup (grows label constant found))
    · cases odd
  refine ⟨rfl, loads.numbered, ?_, ?_, ?_⟩
  · intro ask listed label brought
    simp only [List.mem_cons, List.not_mem_nil, or_false] at listed
    rcases listed with rfl | rfl
    · exact Or.inl brought
    · exact kept label brought
  · intro label listed
    exact Or.inl ⟨_, List.mem_cons_of_mem _ List.mem_cons_self, listed⟩
  · intro odd
    cases odd

theorem member_closed {world : World} {member : Member} {lambda : Lambda}
    (built : Reading.member world member = .ok lambda) : lambda.Closed (byName member) := by
  cases member with
  | method details =>
      obtain ⟨conversions, found, rfl⟩ := method_gives built
      obtain ⟨rest, named⟩ := invoke_name details.name
      exact make_closed (method_composed (conversions_counted found)) (by decide) named rfl
  | property details =>
      obtain ⟨_, rfl⟩ := property_gives built
      obtain ⟨rest, named⟩ := get_name details.name
      exact make_closed (property_composed details) (by decide) named rfl
  | field details =>
      cases built
      obtain ⟨rest, named⟩ := get_name details.name
      exact make_closed (field_composed details) (by decide) named rfl
  | bare owner label => cases built

-- The names that a builder hands out are all apart, and each of them keeps its meaning to the end;
-- and the functions that read members refer to nothing that is not theirs.
theorem constant_names_fresh :
    (∀ asks : List Builder.Ask, ∃ answers table,
      (asks.mapM Builder.Ask.build).run [] = (answers, table) ∧
      Builder.Answers asks answers table ∧ table.keys.Nodup ∧
      ∀ entry ∈ table, table.lookup entry.1 = some entry.2) ∧
    ∀ (world : World) (member : Member) (lambda : Lambda),
      Reading.member world member = .ok lambda → lambda.Closed (byName member) := by
  refine ⟨fun asks => ?_, fun world member lambda built => member_closed built⟩
  obtain ⟨answers, table, ran, answered, known⟩ := Builder.asks_answered Constants.open_empty asks
  rw [List.nil_append] at ran known
  exact ⟨answers, table, ran, answered, known.distinct, fun entry listed =>
    Entries.lookup_of_distinct known.distinct listed⟩

-- Hints that become one name, that end as a numbered name does, or that say nothing.
def oddAsks : List Builder.Ask := [
  .constant (.value (.int 1)) "a ", .constant (.value (.int 2)) "a_",
  .constant (.value (.int 3)) "a__0", .convert (.name "item") none,
  .convert (.name "item") (some (.cast (.cls .object) false)), .constant (.value (.int 4)) ""]

theorem odd_hints_stay_apart :
    ((oddAsks.mapM Builder.Ask.build).run []).2.keys =
      ["a__0", "a__1", "a__0_2", "cast_3", "__4"] ∧
    (∃ answers table, (oddAsks.mapM Builder.Ask.build).run [] = (answers, table) ∧
      Builder.Answers oddAsks answers table ∧ table.keys.Nodup ∧
      ∀ entry ∈ table, table.lookup entry.1 = some entry.2) ∧
    ∃ lambda, Reading.member .empty (.method Strategy.assortedMethod) = .ok lambda ∧
      lambda.constants.keys = ["cast_0", "unbox_1", "cast_2"] ∧ lambda.Closed true := by
  obtain ⟨asked, closed⟩ := constant_names_fresh
  refine ⟨by decide +kernel, asked oddAsks, _, rfl, by decide +kernel, ?_⟩
  exact closed .empty (.method Strategy.assortedMethod) _ rfl

end Reading

end MemberThunks
