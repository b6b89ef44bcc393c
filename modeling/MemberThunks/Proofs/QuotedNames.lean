import MemberThunks.Proofs.EqualBuilds
import MemberThunks.Proofs.QuotedLiterals
import MemberThunks.Proofs.SlotDiscipline

set_option autoImplicit false

/- Names of fields in listings. The line that stores a field is read as a call of the store with
   the target, one literal and the value, whatever the field is called, and the literal stands for
   that name. -/
namespace MemberThunks

namespace Annotation

-- Whether a character begins a token where one may stand.
def isSolid (c : Char) : Bool := !(isSpace c || c = '#' || isBreak c || c = Quoted.backslash)

theorem solid_parts {c : Char} (solid : isSolid c = true) :
    isSpace c = false ∧ c ≠ '#' ∧ isBreak c = false ∧ c ≠ Quoted.backslash := by
  simpa [isSolid, and_assoc] using solid

-- How deep brackets nest after a token.
def nested (token : Token) (depth : Nat) : Nat :=
  if opens token then depth + 1 else if closes token then depth - 1 else depth

-- A text as some tokens, one after the other up to its end.
inductive Lexes : Nat → List Char → List Token → Prop where
  | finish (depth : Nat) : Lexes depth [] []
  | blank {depth : Nat} {chars : List Char} {tokens : List Token} (rest : Lexes depth chars tokens) :
      Lexes depth (' ' :: chars) tokens
  | token {depth : Nat} {c : Char} {chars after : List Char} {token : Token} {tokens : List Token}
      (solid : isSolid c = true) (taken : takeToken (c :: chars) = some (token, after))
      (shorter : after.length ≤ chars.length) (shallow : nested token depth ≤ depthLimit)
      (rest : Lexes (nested token depth) after tokens) : Lexes depth (c :: chars) (token :: tokens)

theorem tokens_of_lexes {depth steps : Nat} {chars : List Char} {tokens : List Token}
    (lexes : Lexes depth chars tokens) (enough : chars.length ≤ steps) :
    tokensWithin depth steps chars = some tokens := by
  induction lexes generalizing steps with
  | finish depth => simp only [tokensWithin]
  | @blank depth chars tokens rest ih =>
      obtain ⟨steps, rfl⟩ := Nat.exists_eq_add_of_lt enough
      have onward : tokensWithin depth (chars.length + steps) chars = some tokens := ih (by omega)
      simp only [tokensWithin, isSpace, decide_true, Bool.true_or, if_true, onward]
  | @token depth c chars after token tokens solid taken shorter shallow rest ih =>
      obtain ⟨steps, rfl⟩ := Nat.exists_eq_add_of_lt enough
      have onward : tokensWithin (nested token depth) (chars.length + steps) after = some tokens :=
        ih (by omega)
      obtain ⟨unspaced, plain, unbroken, direct⟩ := solid_parts solid
      have within : ¬ depthLimit < nested token depth := Nat.not_lt.mpr shallow
      unfold nested at within onward
      simp only [tokensWithin, unspaced, Bool.false_eq_true, if_false, plain, unbroken, direct, taken,
        Option.bind_eq_bind, Option.bind_some, within, onward]
      rfl

-- A text that begins with a token is read from its first character on.
theorem tokens_of_text {text : String} {c : Char} {chars : List Char} {tokens : List Token}
    (starts : text.toList = c :: chars) (solid : isSolid c = true)
    (lexes : Lexes 0 (c :: chars) tokens) : tokens? text = some tokens := by
  obtain ⟨unspaced, plain, unbroken, _⟩ := solid_parts solid
  have fed : c ≠ Char.ofNat 12 := by
    rintro rfl
    exact absurd unspaced (by decide)
  have first : firstLine? (text.length + 1) (c :: chars) = some (c :: chars) := by
    simp only [firstLine?, indented, if_neg fed, unspaced, unbroken, plain, Bool.false_eq_true,
      if_false, if_true]
  rw [tokens?, starts, first, Option.bind_eq_bind, Option.bind_some]
  exact tokens_of_lexes lexes (Nat.le_succ _)

section Tokens

variable {depth : Nat} {chars : List Char} {tokens : List Token}

-- A word that begins with the letter of slots and stores is a name, as no keyword does.
theorem take_word {text : String} {word : List Char} (starts : text.toList = 's' :: word)
    (fits : ∀ c ∈ word, Character.continuesName c = true ∧ c.toNat < 128)
    (ends : chars.head?.any Character.continuesName = false)
    (follows : startsLiteral chars = false) :
    takeToken ('s' :: (word ++ chars)) = some (.name text, chars) := by
  have continues : ∀ c ∈ word, Character.continuesName c = true := fun c listed =>
    (fits c listed).1
  have letter : Character.startsName 's' = true ∧ Character.continuesName 's' = true := by decide
  have stops : chars.takeWhile Character.continuesName = [] ∧
      chars.dropWhile Character.continuesName = chars := by
    cases chars with
    | nil => exact ⟨rfl, rfl⟩
    | cons c rest =>
        have stop : Character.continuesName c = false := ends
        simp [stop]
  have taken : String.ofList (('s' :: (word ++ chars)).takeWhile Character.continuesName) =
      text := by
    rw [List.takeWhile_cons, if_pos letter.2, List.takeWhile_append_of_pos continues, stops.1,
      List.append_nil, ← starts, String.ofList_toList]
  have left : ('s' :: (word ++ chars)).dropWhile Character.continuesName = chars := by
    rw [List.dropWhile_cons, if_pos letter.2, List.dropWhile_append_of_pos continues, stops.2]
  have free : Identifier.isKeyword text = false := by
    have apart : ∀ keyword ∈ Identifier.keywords, keyword.toList.head? ≠ some 's' := by decide
    apply Bool.eq_false_iff.mpr
    intro listed
    exact apart text (List.contains_iff_mem.mp listed) (by rw [starts, List.head?_cons])
  have normal : Compatibility.normalized text = text := by
    have short : text.toList.all (fun c => c.toNat < 128) = true := by
      rw [starts]
      simpa using fun c listed => (fits c listed).2
    rw [Compatibility.normalized, if_pos short]
  have begins : takeToken ('s' :: (word ++ chars)) = takeWord ('s' :: (word ++ chars)) := by
    simp [takeToken, startsLiteral, isDecimal, letter.1, Quoted.single, Quoted.double]
  simp only [begins, takeWord, taken, left, follows, free, normal, Bool.false_and,
    Bool.false_eq_true, if_false]

theorem lexes_word {text : String} {word : List Char} (starts : text.toList = 's' :: word)
    (fits : ∀ c ∈ word, Character.continuesName c = true ∧ c.toNat < 128)
    (ends : chars.head?.any Character.continuesName = false)
    (follows : startsLiteral chars = false) (shallow : depth ≤ depthLimit)
    (rest : Lexes depth chars tokens) :
    Lexes depth (text.toList ++ chars) (.name text :: tokens) := by
  rw [starts, List.cons_append]
  refine .token (by decide) (take_word starts fits ends follows) ?_ shallow rest
  rw [List.length_append]
  omega

theorem take_sign {c : Char} (among : c ∈ ['(', ')', ',']) :
    takeToken (c :: chars) = some (.sign (String.ofList [c]), chars) := by
  have single : startsLiteral (c :: chars) = false ∧ isDecimal c = false ∧ c ≠ '.' ∧
      Character.startsName c = false ∧ c ∈ shortSigns := by
    simp only [List.mem_cons, List.not_mem_nil, or_false] at among
    rcases among with rfl | rfl | rfl <;> exact ⟨rfl, by decide, by decide, by decide, by decide⟩
  have alone : longSign? (c :: chars) = none := by
    simp only [List.mem_cons, List.not_mem_nil, or_false] at among
    rcases among with rfl | rfl | rfl <;> simp [longSign?, longSigns, stripped?]
  obtain ⟨unquoted, uncounted, plain, unnamed, short⟩ := single
  simp [takeToken, unquoted, uncounted, plain, unnamed, alone, short]

theorem lexes_open (rest : Lexes 1 chars tokens) :
    Lexes 0 ('(' :: chars) (.sign "(" :: tokens) := by
  refine .token (by decide) ?_ (Nat.le_refl _) (by decide) rest
  exact take_sign (by decide)

theorem lexes_comma (shallow : depth ≤ depthLimit) (rest : Lexes depth chars tokens) :
    Lexes depth (',' :: ' ' :: chars) (.sign "," :: tokens) := by
  refine .token (by decide) ?_ (Nat.le_refl _) shallow (.blank rest)
  exact take_sign (by decide)

theorem lexes_close : Lexes 1 [')'] [.sign ")"] := by
  refine .token (by decide) ?_ (Nat.le_refl _) (by decide) (.finish 0)
  exact take_sign (by decide)

theorem lexes_text (text : String) (follows : startsLiteral chars = false)
    (shallow : depth ≤ depthLimit) (rest : Lexes depth chars tokens) :
    Lexes depth ((Quoted.quote text).toList ++ chars) (.text text :: tokens) := by
  have taken := Quoted.take_quoted text follows
  have quotes := Quoted.delimiter_quotes text.toList
  have solid : isSolid (Quoted.delimiter text.toList) = true := by
    rcases quotes with same | same <;> rw [same] <;> decide
  have begins : ∀ more, startsLiteral (Quoted.delimiter text.toList :: more) = true := by
    intro more
    rcases quotes with same | same <;> rw [same] <;> rfl
  rw [Quoted.quote_chars, List.cons_append] at taken ⊢
  refine .token solid ?_ ?_ shallow rest
  · rw [takeToken, if_pos (begins _), taken]
  · rw [List.length_append]
    omega

theorem numeral_char {number : Nat} {c : Char} (listed : c ∈ (toString number).toList) :
    Character.continuesName c = true ∧ c.toNat < 128 := by
  rw [Nat.toString_eq_repr, Nat.toList_repr] at listed
  have digit : c.isDigit = true := Nat.isDigit_of_mem_toDigits (by decide) (by decide) listed
  obtain ⟨least, most⟩ := Char.isDigit_iff_toNat.mp digit
  have lower : 48 ≤ c.toNat := least
  have upper : c.toNat ≤ 57 := most
  have short : c.toNat < 128 := by omega
  refine ⟨?_, short⟩
  rw [Character.continuesName, Character.traits, if_pos short, Character.asciiTraits]
  simp [lower, upper, CharacterTraits.decimal]

end Tokens

end Annotation

namespace Statement

open Annotation

-- The tokens of the line that stores a field.
def storeTokens (label : String) (target : Nat) (field : String) (source : Nat) : List Token :=
  [.name label, .sign "(", .name (slotName target), .sign ",", .text field, .sign ",",
    .name (slotName source), .sign ")"]

theorem lexes_slot (slot : Nat) {depth : Nat} {chars : List Char} {tokens : List Token}
    (ends : chars.head?.any Character.continuesName = false)
    (follows : startsLiteral chars = false) (shallow : depth ≤ depthLimit)
    (rest : Lexes depth chars tokens) :
    Lexes depth ((slotName slot).toList ++ chars) (.name (slotName slot) :: tokens) := by
  have starts : (slotName slot).toList = 's' :: (toString slot).toList := by simp [slotName]
  exact lexes_word starts (fun _ listed => numeral_char listed) ends follows shallow rest

theorem store_chars (number : Nat) : (Constants.numbered "store" number).toList =
    's' :: ("tore_".toList ++ (toString number).toList) := by
  simp [Constants.numbered]

theorem lexes_store (number : Nat) {chars : List Char} {tokens : List Token}
    (ends : chars.head?.any Character.continuesName = false)
    (follows : startsLiteral chars = false) (rest : Lexes 0 chars tokens) :
    Lexes 0 ((Constants.numbered "store" number).toList ++ chars)
      (.name (Constants.numbered "store" number) :: tokens) := by
  have letters : ("tore_".toList.all fun c =>
      Character.continuesName c && decide (c.toNat < 128)) = true := by
    decide
  refine lexes_word (store_chars number) ?_ ends follows (Nat.zero_le _) rest
  intro c listed
  rcases List.mem_append.mp listed with letter | digit
  · simpa using List.all_eq_true.mp letters c letter
  · exact numeral_char digit

-- The line that stores a field is a call with three arguments, of which the second is one literal.
-- The literal stands for the name of the field, and nothing in the name ends it.
theorem store_line_read (number target source : Nat) (field : String) :
    tokens? (store (Constants.numbered "store" number) target field source).source =
      some (storeTokens (Constants.numbered "store" number) target field source) := by
  have shallow : 1 ≤ depthLimit := by decide
  have value := lexes_slot source rfl rfl shallow lexes_close
  have literal := lexes_text field rfl shallow (lexes_comma shallow value)
  have object := lexes_slot target rfl rfl shallow (lexes_comma shallow literal)
  have whole := lexes_store number rfl rfl (lexes_open object)
  have written : (store (Constants.numbered "store" number) target field source).source.toList =
      (Constants.numbered "store" number).toList ++ '(' :: ((slotName target).toList ++ ',' :: ' ' ::
        ((Quoted.quote field).toList ++ ',' :: ' ' :: ((slotName source).toList ++ [')']))) := by
    simp [Statement.source]
  rw [store_chars, List.cons_append] at written whole
  exact tokens_of_text written (by decide) whole

end Statement

-- A text that stays on its line.
def Unbroken (text : String) : Prop := ∀ c ∈ text.toList, Annotation.isBreak c = false

instance (text : String) : Decidable (Unbroken text) :=
  List.decidableBAll (fun c => Annotation.isBreak c = false) text.toList

section Unbroken

variable {first second text : String}

theorem unbroken_append : Unbroken (first ++ second) ↔ Unbroken first ∧ Unbroken second := by
  simp only [Unbroken, String.toList_append, List.mem_append, or_imp, forall_and]

-- Characters of which no line break is one stay on their line.
theorem unbroken_of_trait (trait : Char → Bool) (lacks : trait '\n' = false ∧ trait '\r' = false)
    (each : ∀ c ∈ text.toList, trait c = true) : Unbroken text := by
  intro c listed
  apply Bool.eq_false_iff.mpr
  intro breaks
  have has := each c listed
  simp only [Bool.or_eq_true, decide_eq_true_eq, Annotation.isBreak] at breaks
  rcases breaks with rfl | rfl
  · cases has.symm.trans lacks.1
  · cases has.symm.trans lacks.2

theorem unbroken_numeral (number : Nat) : Unbroken (toString number) := by
  apply unbroken_of_trait Character.continuesName (by decide)
  intro c listed
  obtain ⟨continues, _⟩ := Annotation.numeral_char listed
  exact continues

theorem unbroken_quote (text : String) : Unbroken (Quoted.quote text) :=
  unbroken_of_trait Character.isPrintable (by decide) (Quoted.quote_prints text)

theorem unbroken_squash (text : String) : Unbroken (Identifier.squash text) := by
  refine unbroken_of_trait (fun c => Identifier.keep c == c) (by decide) ?_
  have again : ∀ c, Identifier.keep (Identifier.keep c) = Identifier.keep c := by
    intro c
    unfold Identifier.keep
    split_ifs <;> rfl
  have kept : ∀ c ∈ text.toList.map Identifier.keep, (Identifier.keep c == c) = true := by
    intro c listed
    obtain ⟨origin, _, rfl⟩ := List.mem_map.mp listed
    exact beq_iff_eq.mpr (again origin)
  intro c listed
  rw [Identifier.squash, String.toList_ofList] at listed
  cases shape : text.toList.map Identifier.keep with
  | nil =>
      rw [shape] at listed
      obtain rfl := List.mem_singleton.mp listed
      decide
  | cons first rest =>
      rw [shape, Identifier.guardFirst] at listed
      split at listed
      · rcases List.mem_cons.mp listed with rfl | later
        · decide
        · exact kept c (shape ▸ later)
      · exact kept c (shape ▸ listed)

theorem unbroken_intercalate {parts : List String} (separates : Unbroken text)
    (each : ∀ part ∈ parts, Unbroken part) : Unbroken (text.intercalate parts) := by
  induction parts with
  | nil => exact fun _ listed => absurd listed (by simp)
  | cons part parts ih =>
      obtain ⟨here, later⟩ := List.forall_mem_cons.mp each
      cases parts with
      | nil => rwa [String.intercalate_singleton]
      | cons next parts =>
          rw [String.intercalate_cons_cons]
          exact unbroken_append.mpr ⟨unbroken_append.mpr ⟨here, separates⟩, ih later⟩

end Unbroken

namespace Statement

theorem unbroken_slot (slot : Nat) : Unbroken (slotName slot) :=
  unbroken_append.mpr ⟨by decide, unbroken_numeral slot⟩

theorem unbroken_argument (index : Nat) : Unbroken (argumentName index) :=
  unbroken_append.mpr ⟨by decide, unbroken_numeral index⟩

-- The text of a statement stays on its line, if the name of the constant does that it calls.
theorem unbroken_source {statement : Statement}
    (calls : ∀ label, statement.constant? = some label → Unbroken label) :
    Unbroken statement.source := by
  have signs : Unbroken " = " ∧ Unbroken "(" ∧ Unbroken ", " ∧ Unbroken ")" := by decide
  cases statement with
  | load slot argument =>
      simp only [source, unbroken_append, unbroken_slot, unbroken_argument, signs, and_self]
  | check slot label other =>
      simp only [source, unbroken_append, unbroken_slot, calls label rfl, signs, and_self]
  | store label target field other =>
      simp only [source, unbroken_append, unbroken_slot, unbroken_quote, calls label rfl, signs,
        and_self]
  | set label target other =>
      simp only [source, unbroken_append, unbroken_slot, calls label rfl, signs, and_self]
  | finish =>
      rw [source]
      decide

end Statement

namespace Listing

-- The lines of a listing: its header, and a line for each statement.
def lines (listing : Listing) : List String :=
  ("def " ++ listing.name ++ "(" ++ ", ".intercalate listing.parameters ++ "):") ::
    listing.statements.map fun statement => "    " ++ statement.source

theorem lines_of_source {listing : Listing} (unbroken : ∀ line ∈ listing.lines, Unbroken line) :
    Registry.linesOf listing.source = listing.lines.map (· ++ "\n") := by
  have written : listing.source = "\n".intercalate listing.lines := rfl
  have clean : ∀ chars ∈ listing.lines.map String.toList, '\n' ∉ chars := by
    intro chars listed
    obtain ⟨line, among, rfl⟩ := List.mem_map.mp listed
    intro breaks
    exact absurd (unbroken line among '\n' breaks) (by decide)
  have feed : "\n".toList = ['\n'] := by decide
  rw [Registry.linesOf, Parts.split, written, String.toList_intercalate, feed,
    List.splitOn_intercalate '\n' clean (by simp [lines])]
  simp

theorem unbroken_lines {listing : Listing} (named : Unbroken listing.name)
    (calls : ∀ statement ∈ listing.statements, ∀ label, statement.constant? = some label →
      Unbroken label) : ∀ line ∈ listing.lines, Unbroken line := by
  have parameters : Unbroken (", ".intercalate listing.parameters) := by
    refine unbroken_intercalate (by decide) fun parameter among => ?_
    obtain ⟨index, _, rfl⟩ := List.mem_map.mp among
    exact Statement.unbroken_argument index
  have words : Unbroken "def " ∧ Unbroken "(" ∧ Unbroken "):" ∧ Unbroken "    " := by decide
  intro line listed
  rcases List.mem_cons.mp listed with rfl | later
  · simp only [unbroken_append, named, parameters, words, and_self]
  · obtain ⟨statement, among, rfl⟩ := List.mem_map.mp later
    exact unbroken_append.mpr ⟨words.2.2.2, Statement.unbroken_source (calls statement among)⟩

end Listing

theorem Constants.unbroken_label {constants : Constants} (numbered : constants.Numbered)
    {label : String} (listed : label ∈ constants.keys) : Unbroken label := by
  obtain ⟨hint, kind, number, _, rfl⟩ := numbered label listed
  have hints : ∀ hint ∈ Constants.hints, Unbroken hint := by decide
  exact unbroken_append.mpr ⟨unbroken_append.mpr ⟨hints hint kind, by decide⟩,
    unbroken_numeral number⟩

namespace Program

variable {world : World} {program : Program} {listing : Listing}

-- The lines of a source are its header and a line for each instruction that is written, whatever
-- names stand in it.
theorem lines_of_lowered (lowered : program.lower world = .ok listing) :
    Registry.linesOf listing.source = listing.lines.map (· ++ "\n") ∧
      listing.lines.length =
        1 + (program.instructions.filter (Lowering.writes world)).length := by
  have inScope := lower_in_scope lowered
  have numbered := lower_numbered lowered
  obtain ⟨state, reached, rfl⟩ := lower_reaches lowered
  have counted := (Lowering.kept_of_reached reached).lines.length_eq
  constructor
  · refine Listing.lines_of_source (Listing.unbroken_lines (unbroken_squash _) ?_)
    intro statement among label calls
    obtain ⟨earlier, later, written⟩ := List.append_of_mem among
    exact Constants.unbroken_label numbered
      ((inScope earlier statement later written).constant label calls)
  · rw [Listing.lines, List.length_cons, List.length_map, ← counted, Nat.add_comm]

end Program

namespace Writing

variable {world : World} {details first second : FieldMember} {listing : Listing}

-- What a function that writes a field is lowered to.
def Lists (world : World) (details : FieldMember) (listing : Listing) : Prop :=
  ∃ program, field world details = .ok program ∧ program.lower world = .ok listing

theorem lists_program (lists : Lists world details listing) :
    (program details.declaring details.name details.type (.storeField (.field details))).lower
      world = .ok listing := by
  obtain ⟨_, composed, lowered⟩ := lists
  obtain ⟨_, _, same⟩ := ok_of_bind composed
  exact (Except.ok.inj same) ▸ lowered

-- Only the conversion of the type may be left out of a write.
theorem written_count (declaring : ClassRef) (name : String) (member : Member) {type : TypeForm}
    {conversion : Option Conversion} (converted : world.conversionFor type false = .ok conversion) :
    ((program declaring name type (.storeField member)).instructions.filter
      (Lowering.writes world)).length = if conversion.isSome then 6 else 5 := by
  have unboxes : Lowering.writes world (.unboxAny type) = conversion.isSome := by
    rw [Lowering.writes, converted]
    cases conversion <;> rfl
  simp only [program, List.filter, unboxes]
  cases conversion <;> rfl

theorem same_lines (typed : second.type = first.type) (lists : Lists world first listing) :
    ∃ other, Lists world second other ∧
      (Registry.linesOf other.source).length = (Registry.linesOf listing.source).length := by
  have lowered := lists_program lists
  obtain ⟨conversion, found⟩ := conversion_of_lowered lowered
  have writable : isWritable (.field second) = true := rfl
  obtain ⟨composed, other, made, done, _⟩ := listing_made writable rfl (typed ▸ found)
  have alsoLists : Lists world second other := ⟨composed, made, done⟩
  have count := Program.lines_of_lowered lowered
  have alsoCount := Program.lines_of_lowered (lists_program alsoLists)
  refine ⟨other, alsoLists, ?_⟩
  rw [count.1, alsoCount.1, List.length_map, List.length_map, count.2, alsoCount.2,
    written_count _ _ _ found, written_count _ _ _ (typed ▸ found)]

end Writing

theorem Lowering.store_written {world : World} {count : Nat} {state next : Lowering.State}
    {member : Member}
    (stepped : Lowering.step world count state (.storeField member) = .ok next) :
    ∃ number target source, next.statements = state.statements ++
      [.store (Constants.numbered "store" number) target member.name source] := by
  obtain ⟨⟨source, rest⟩, taken, below⟩ := ok_of_bind stepped
  obtain ⟨⟨target, popped⟩, takenBelow, stored⟩ := ok_of_bind below
  obtain ⟨_, before, _⟩ := Lowering.pop_gives taken
  obtain ⟨_, beforeBelow, _⟩ := Lowering.pop_gives takenBelow
  cases stored
  refine ⟨popped.constants.length, target, source, ?_⟩
  rw [← before, ← beforeBelow]
  rfl

-- Whatever a field is called, the line that stores it holds one literal, on one line, which is read
-- as its name; so the name changes neither how the line is read nor how many lines there are.
theorem Program.field_names_quoted (world : World) :
    (∀ name : String, Quoted.decode (Quoted.quote name).toList = some name.toList ∧
      (∀ c ∈ (Quoted.quote name).toList,
        Character.isPrintable c = true ∧ Annotation.isBreak c = false) ∧
      ∀ rest, Annotation.startsLiteral rest = false →
        Annotation.takeQuoted "" ((Quoted.quote name).toList ++ rest) =
          some (.text name, rest)) ∧
    (∀ first second, Quoted.quote first = Quoted.quote second → first = second) ∧
    (∀ count state member next, Lowering.step world count state (.storeField member) = .ok next →
      ∃ label target source, next.statements = state.statements ++
          [.store label target member.name source] ∧
        Annotation.tokens? (Statement.store label target member.name source).source =
          some (Statement.storeTokens label target member.name source)) ∧
    ∀ (first second : FieldMember) (listing : Listing), second.type = first.type →
      Writing.Lists world first listing → ∃ other, Writing.Lists world second other ∧
        (Registry.linesOf other.source).length = (Registry.linesOf listing.source).length := by
  refine ⟨fun name => ⟨Quoted.decode_quote name, fun c listed => ?_, fun rest follows => ?_⟩,
    fun _ _ same => Quoted.quote_injective same, fun count state member next stepped => ?_,
    fun _ _ _ typed lists => Writing.same_lines typed lists⟩
  · exact ⟨Quoted.quote_prints name c listed, unbroken_quote name c listed⟩
  · exact Quoted.take_quoted name follows
  · obtain ⟨number, target, source, written⟩ := Lowering.store_written stepped
    exact ⟨_, target, source, written, Statement.store_line_read number target source member.name⟩

namespace Writing

def plainField : FieldMember := ⟨.object, "x", .cls (.builtin .int)⟩

def plainListing : Listing :=
  ⟨"Setx", 2, [.load 0 0, .check 0 "cast_0" 0, .load 1 1, .check 1 "unbox_1" 1,
    .store "store_2" 0 "x" 1, .finish],
    [("cast_0", .conversion (.cast (.cls .object) false)),
      ("unbox_1", .conversion (.unbox (.cls (.builtin .int)) false)), ("store_2", .directSet)]⟩

-- Both quotes, a backslash, a line feed and a character that does not print.
def oddField : FieldMember := ⟨.object, "\x27\x22\x5c\n\x00 = 1", .cls (.builtin .int)⟩

theorem odd_field_quoted :
    Annotation.startsLiteral ", s1)".toList = false ∧
    Annotation.takeQuoted "" ((Quoted.quote oddField.name).toList ++ ", s1)".toList) =
      some (.text oddField.name, ", s1)".toList) ∧
    Lowering.step .empty 2 ⟨[1, 0], [], []⟩ (.storeField (.field oddField)) =
      .ok ⟨[], [.store "store_0" 0 oddField.name 1], [("store_0", .directSet)]⟩ ∧
    Annotation.tokens? (Statement.store "store_0" 0 oddField.name 1).source =
      some (Statement.storeTokens "store_0" 0 oddField.name 1) ∧
    Lists .empty plainField plainListing ∧ oddField.type = plainField.type ∧
    ∃ listing, Lists .empty oddField listing ∧ (Registry.linesOf listing.source).length = 7 := by
  obtain ⟨reads, _, writes, lines⟩ := Program.field_names_quoted .empty
  have lists : Lists .empty plainField plainListing := ⟨_, rfl, rfl⟩
  have follows : Annotation.startsLiteral ", s1)".toList = false := by decide
  have counted : (Registry.linesOf plainListing.source).length = 7 := by decide +kernel
  have stepped : Lowering.step .empty 2 ⟨[1, 0], [], []⟩ (.storeField (.field oddField)) =
      .ok ⟨[], [.store "store_0" 0 oddField.name 1], [("store_0", .directSet)]⟩ := rfl
  obtain ⟨label, target, source, written, read⟩ := writes 2 _ _ _ stepped
  simp only [List.nil_append, List.cons.injEq, Statement.store.injEq] at written
  obtain ⟨⟨rfl, rfl, _, rfl⟩, _⟩ := written
  refine ⟨follows, (reads oddField.name).2.2 _ follows, stepped, read, lists, rfl, ?_⟩
  obtain ⟨listing, also, same⟩ := lines plainField oddField plainListing rfl lists
  exact ⟨listing, also, same.trans counted⟩

end Writing

end MemberThunks
