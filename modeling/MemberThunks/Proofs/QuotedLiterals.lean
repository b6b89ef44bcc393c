import Mathlib.Algebra.Group.Nat.Defs
import Mathlib.Tactic.SplitIfs
import MemberThunks.Annotation.Token

set_option autoImplicit false

/- Literals read back. Whatever a text holds, the literal that it is written as consists of
   characters that print, is read as one literal up to its closing quote and no further, and
   stands for that very text. -/
namespace MemberThunks

namespace Quoted

open Annotation

section Digits

variable {width number digit : Nat} {c : Char}

theorem hex_value_of_digit (small : digit < 16) : hexValue (hexDigit digit) = some digit := by
  have each : ∀ digit : Fin 16, hexValue (hexDigit digit) = some digit.val := by decide
  exact each ⟨digit, small⟩

-- A digit is its own lower form and prints, and is neither a quote nor a backslash.
theorem hex_digit_traits (small : digit < 16) :
    (hexDigit digit).toLower = hexDigit digit ∧ Character.isPrintable (hexDigit digit) = true ∧
      hexDigit digit ∉ [single, double, backslash, '\n'] := by
  have each : ∀ digit : Fin 16, (hexDigit digit).toLower = hexDigit digit ∧
      Character.isPrintable (hexDigit digit) = true ∧
        hexDigit digit ∉ [single, double, backslash, '\n'] := by decide
  exact each ⟨digit, small⟩

theorem hexadecimal_length (width number : Nat) : (hexadecimal width number).length = width := by
  induction width generalizing number with
  | zero => rfl
  | succ width ih => rw [hexadecimal, List.length_append, ih, List.length_singleton]

theorem hexadecimal_divides (width number : Nat) (rest : List Char) :
    (hexadecimal width number ++ rest).take width = hexadecimal width number ∧
      (hexadecimal width number ++ rest).drop width = rest :=
  ⟨List.take_left' (hexadecimal_length width number),
    List.drop_left' (hexadecimal_length width number)⟩

theorem mem_hexadecimal (listed : c ∈ hexadecimal width number) :
    ∃ digit < 16, c = hexDigit digit := by
  induction width generalizing number with
  | zero => cases listed
  | succ width ih =>
      rcases List.mem_append.mp listed with earlier | last
      · exact ih earlier
      · exact ⟨number % 16, Nat.mod_lt _ (by omega), List.mem_singleton.mp last⟩

theorem lower_hexadecimal (width number : Nat) :
    (hexadecimal width number).map Char.toLower = hexadecimal width number := by
  have kept : ∀ c ∈ hexadecimal width number, c.toLower = id c := by
    intro c listed
    obtain ⟨digit, small, rfl⟩ := mem_hexadecimal listed
    exact (hex_digit_traits small).1
  rw [List.map_congr_left kept, List.map_id]

theorem hex_number_snoc {digits : List Char} {sum : Nat} (earlier : hexNumber digits = some sum)
    (last : hexValue c = some digit) : hexNumber (digits ++ [c]) = some (sum * 16 + digit) := by
  unfold hexNumber at earlier ⊢
  rw [List.foldl_append, earlier, List.foldl_cons, List.foldl_nil, last]
  rfl

-- A number is read back from its digits, if these are enough.
theorem hex_number_hexadecimal (fits : number < 16 ^ width) :
    hexNumber (hexadecimal width number) = some number := by
  induction width generalizing number with
  | zero =>
      obtain rfl : number = 0 := by simpa using fits
      rfl
  | succ width ih =>
      rw [Nat.pow_succ] at fits
      have earlier : hexNumber (hexadecimal width (number / 16)) = some (number / 16) :=
        ih (by omega)
      have last := hex_value_of_digit (Nat.mod_lt number (by omega : 0 < 16))
      rw [hexadecimal, hex_number_snoc earlier last]
      congr 1
      omega

theorem hex_escape_read (fits : number < 16 ^ width) (rest : List Char) :
    hexEscape? width (hexadecimal width number ++ rest) = some (Char.ofNat number, rest) := by
  obtain ⟨taken, left⟩ := hexadecimal_divides width number rest
  simp only [hexEscape?, taken, left, hexadecimal_length, if_true, lower_hexadecimal,
    hex_number_hexadecimal fits, Option.map_some]

end Digits

-- The ways to write a character of a text in a literal: as itself, by a letter after a backslash, or
-- by its number.
inductive Spelled (delim c : Char) : List Char → Prop where
  | plain (apart : c ≠ delim) (kept : c ≠ backslash) (prints : Character.isPrintable c = true) :
      Spelled delim c [c]
  | short {letter : Char} (stands : shortEscape letter = some c) :
      Spelled delim c [backslash, letter]
  | numbered {letter : Char} {width : Nat} (digits : escapeWidth letter = some width)
      (fits : c.toNat < 16 ^ width) :
      Spelled delim c (backslash :: letter :: hexadecimal width c.toNat)

theorem short_letter {c letter : Char} (stands : shortEscape letter = some c) :
    letter ≠ '\n' ∧ letterEscape? letter = some c ∧ Character.isPrintable letter = true := by
  unfold shortEscape at stands
  split_ifs at stands with feed carriage tab mark
  · exact eq_of_beq feed ▸ by cases stands; decide
  · exact eq_of_beq carriage ▸ by cases stands; decide
  · exact eq_of_beq tab ▸ by cases stands; decide
  · cases stands
    simp only [Bool.or_eq_true, beq_iff_eq] at mark
    rcases mark with (rfl | rfl) | rfl <;> decide

theorem number_letter {letter : Char} {width : Nat} (digits : escapeWidth letter = some width) :
    letter ≠ '\n' ∧ letterEscape? letter = none ∧ shortEscape letter = none ∧
      Character.isPrintable letter = true := by
  unfold escapeWidth at digits
  split_ifs at digits with two four eight
  · exact eq_of_beq two ▸ by decide
  · exact eq_of_beq four ▸ by decide
  · exact eq_of_beq eight ▸ by decide

theorem escape_code_spelled (delim c : Char) : Spelled delim c (escapeCode c.toNat) := by
  unfold escapeCode
  split_ifs with two four
  · exact .numbered rfl (by omega)
  · exact .numbered rfl (by omega)
  · have short : c.toNat < 0x110000 := by
      rcases c.valid with below | above
      · exact Nat.lt_trans below (by omega)
      · exact above.2
    exact .numbered rfl (by omega)

theorem encode_char_spelled {delim : Char} (quotes : delim = single ∨ delim = double) (c : Char) :
    Spelled delim c (encodeChar delim c) := by
  unfold encodeChar
  split_ifs with marked feed carriage tab prints
  · have mark : shortEscape c = some c := by
      rcases Bool.or_eq_true_iff.mp marked with same | same
      · rcases quotes with rfl | rfl <;> rw [eq_of_beq same] <;> decide
      · rw [eq_of_beq same]
        decide
    exact .short mark
  · exact eq_of_beq feed ▸ .short rfl
  · exact eq_of_beq carriage ▸ .short rfl
  · exact eq_of_beq tab ▸ .short rfl
  · rw [Bool.or_eq_true_iff, beq_iff_eq, beq_iff_eq, not_or] at marked
    exact .plain marked.1 marked.2 prints
  · exact escape_code_spelled delim c

-- What can stand between the quotes of a literal: any character after a backslash, and no quote and
-- no line break but there.
inductive Content (delim : Char) : List Char → Prop where
  | nil : Content delim []
  | plain {c : Char} {chars : List Char} (apart : c ≠ delim) (kept : c ≠ backslash)
      (unbroken : c ≠ '\n') (rest : Content delim chars) : Content delim (c :: chars)
  | escaped {c : Char} {chars : List Char} (rest : Content delim chars) :
      Content delim (backslash :: c :: chars)

section Content

variable {delim : Char} {chars more : List Char}

theorem content_append (first : Content delim chars) (second : Content delim more) :
    Content delim (chars ++ more) := by
  induction first with
  | nil => exact second
  | plain apart kept unbroken _ ih => exact .plain apart kept unbroken ih
  | escaped _ ih => exact .escaped ih

theorem content_of_clean (clean : ∀ c ∈ chars, c ≠ delim ∧ c ≠ backslash ∧ c ≠ '\n') :
    Content delim chars := by
  induction chars with
  | nil => exact .nil
  | cons c chars ih =>
      obtain ⟨⟨apart, kept, unbroken⟩, later⟩ := List.forall_mem_cons.mp clean
      exact .plain apart kept unbroken (ih later)

theorem content_of_spelled {c : Char} (quotes : delim = single ∨ delim = double)
    (spelled : Spelled delim c chars) : Content delim chars := by
  cases spelled with
  | plain apart kept prints =>
      refine .plain apart kept ?_ .nil
      rintro rfl
      exact absurd prints (by decide)
  | short stands => exact .escaped .nil
  | numbered digits fits =>
      refine .escaped (content_of_clean fun d listed => ?_)
      obtain ⟨digit, small, rfl⟩ := mem_hexadecimal listed
      have absent := (hex_digit_traits small).2.2
      simp only [List.mem_cons, List.not_mem_nil, or_false, not_or] at absent
      rcases quotes with rfl | rfl
      · exact ⟨absent.1, absent.2.2⟩
      · exact ⟨absent.2.1, absent.2.2⟩

theorem content_of_encoded (quotes : delim = single ∨ delim = double) (text : List Char) :
    Content delim (text.flatMap (encodeChar delim)) := by
  induction text with
  | nil => exact .nil
  | cons c text ih =>
      rw [List.flatMap_cons]
      exact content_append (content_of_spelled quotes (encode_char_spelled quotes c)) ih

theorem stripped_quote (rest : List Char) : stripped? [delim] (delim :: rest) = some rest := by
  simp [stripped?]

theorem stripped_other {c : Char} (apart : c ≠ delim) (closing rest : List Char) :
    stripped? (delim :: closing) (c :: rest) = none := by
  simp [stripped?, Ne.symm apart]

theorem quote_not_backslash (quotes : delim = single ∨ delim = double) : backslash ≠ delim := by
  rcases quotes with rfl | rfl <;> decide

-- The content of a literal is taken up to the quote that closes it.
theorem take_content (quotes : delim = single ∨ delim = double) (content : Content delim chars)
    {steps : Nat} (enough : chars.length < steps) (rest : List Char) :
    takeLiteral [delim] steps (chars ++ delim :: rest) = some (chars, rest) := by
  induction content generalizing steps with
  | nil =>
      obtain ⟨steps, rfl⟩ := Nat.exists_eq_add_of_lt enough
      simp only [List.nil_append, takeLiteral, stripped_quote]
  | @plain c chars apart kept unbroken _ ih =>
      obtain ⟨steps, rfl⟩ := Nat.exists_eq_add_of_lt enough
      have taken : takeLiteral [delim] (chars.length + 1 + steps) (chars ++ delim :: rest) =
          some (chars, rest) := ih (by omega)
      rw [List.length_cons, List.cons_append]
      simp only [takeLiteral, stripped_other apart, if_neg kept, taken, Option.map_some]
      simp [unbroken]
  | @escaped c chars _ ih =>
      obtain ⟨steps, rfl⟩ := Nat.exists_eq_add_of_lt enough
      have taken : takeLiteral [delim] (chars.length + 1 + 1 + steps) (chars ++ delim :: rest) =
          some (chars, rest) := ih (by omega)
      rw [List.length_cons, List.length_cons, List.cons_append, List.cons_append]
      simp only [takeLiteral, stripped_other (quote_not_backslash quotes), if_true, taken,
        Option.map_some]

-- The quote before a content is not the first of three, unless a quote follows an empty one.
theorem quotes_of_content (quotes : delim = single ∨ delim = double)
    (content : Content delim chars) {rest : List Char} (follows : startsLiteral rest = false) :
    quotesOf? (delim :: (chars ++ delim :: rest)) = some ([delim], chars ++ delim :: rest) := by
  have once : stripped? [delim, delim, delim] (delim :: (chars ++ delim :: rest)) = none := by
    cases content with
    | nil =>
        cases rest with
        | nil => simp [stripped?]
        | cons c rest =>
            have apart : c ≠ delim := by
              rintro rfl
              rcases quotes with rfl | rfl <;> exact absurd follows (by simp [startsLiteral])
            simp [stripped?, Ne.symm apart]
    | plain apart kept unbroken rest => simp [stripped?, Ne.symm apart]
    | escaped rest => simp [stripped?, Ne.symm (quote_not_backslash quotes)]
  rcases quotes with rfl | rfl
  · simp only [quotesOf?, List.findSome?_cons, once, stripped_quote, Option.map_some]
  · have other : double ≠ single := by decide
    simp only [quotesOf?, List.findSome?_cons, stripped_other other, once, stripped_quote,
      Option.map_some, Option.map_none]

end Content

theorem unescaped_spelled {delim c : Char} {chars : List Char} (spelled : Spelled delim c chars)
    (steps : Nat) (rest : List Char) :
    unescaped? some textEscape? (steps + 1) (chars ++ rest) =
      (unescaped? some textEscape? steps rest).map (c :: ·) := by
  cases spelled with
  | plain apart kept prints =>
      simp only [List.singleton_append, unescaped?, if_neg kept]
      cases unescaped? some textEscape? steps rest <;> rfl
  | short stands =>
      obtain ⟨unbroken, plain, _⟩ := short_letter stands
      simp only [List.cons_append, List.nil_append, unescaped?, if_true, textEscape?,
        if_neg unbroken, plain, Option.bind_eq_bind, Option.bind_some]
      cases unescaped? some textEscape? steps rest <;> rfl
  | numbered digits fits =>
      obtain ⟨unbroken, long, _, _⟩ := number_letter digits
      simp only [List.cons_append, unescaped?, if_true, textEscape?, if_neg unbroken, long, digits,
        hex_escape_read fits, Char.ofNat_toNat, Option.map_some, Option.bind_eq_bind,
        Option.bind_some]
      cases unescaped? some textEscape? steps rest <;> rfl

theorem unescaped_encoded {delim : Char} (quotes : delim = single ∨ delim = double)
    {text : List Char} {steps : Nat} (enough : text.length ≤ steps) :
    unescaped? some textEscape? steps (text.flatMap (encodeChar delim)) = some text := by
  induction text generalizing steps with
  | nil => simp only [List.flatMap_nil, unescaped?]
  | cons c text ih =>
      obtain ⟨steps, rfl⟩ := Nat.exists_eq_add_of_lt enough
      have read : unescaped? some textEscape? (text.length + steps)
          (text.flatMap (encodeChar delim)) = some text := ih (by omega)
      rw [List.flatMap_cons, unescaped_spelled (encode_char_spelled quotes c), read]
      rfl

theorem spelled_length {delim c : Char} {chars : List Char} (spelled : Spelled delim c chars) :
    0 < chars.length := by
  cases spelled <;> simp

theorem spelled_prints {delim c : Char} {chars : List Char} (spelled : Spelled delim c chars) :
    ∀ d ∈ chars, Character.isPrintable d = true := by
  intro d listed
  cases spelled with
  | plain apart kept prints => exact List.mem_singleton.mp listed ▸ prints
  | short stands =>
      rcases List.mem_cons.mp listed with rfl | later
      · decide
      · exact List.mem_singleton.mp later ▸ (short_letter stands).2.2
  | numbered digits fits =>
      rcases List.mem_cons.mp listed with rfl | later
      · decide
      · rcases List.mem_cons.mp later with rfl | among
        · exact (number_letter digits).2.2.2
        · obtain ⟨digit, small, rfl⟩ := mem_hexadecimal among
          exact (hex_digit_traits small).2.1

theorem encoded_length {delim : Char} (quotes : delim = single ∨ delim = double)
    (text : List Char) : text.length ≤ (text.flatMap (encodeChar delim)).length := by
  induction text with
  | nil => exact Nat.le_refl 0
  | cons c text ih =>
      have some := spelled_length (encode_char_spelled quotes c)
      rw [List.flatMap_cons, List.length_append, List.length_cons]
      omega

theorem delimiter_quotes (text : List Char) :
    delimiter text = single ∨ delimiter text = double := by
  unfold delimiter
  split
  · exact .inr rfl
  · exact .inl rfl

theorem quote_chars (text : String) :
    (quote text).toList = delimiter text.toList ::
      (text.toList.flatMap (encodeChar (delimiter text.toList)) ++ [delimiter text.toList]) := by
  rw [quote, String.toList_ofList]
  rfl

-- A written text is one literal, which stands for the text; what follows is left as it is.
theorem take_quoted (text : String) {rest : List Char} (follows : startsLiteral rest = false) :
    takeQuoted "" ((quote text).toList ++ rest) = some (.text text, rest) := by
  have quotes := delimiter_quotes text.toList
  have content := content_of_encoded quotes text.toList
  have opened := quotes_of_content quotes content follows
  have inside : (text.toList.flatMap (encodeChar (delimiter text.toList))).length <
      (text.toList.flatMap (encodeChar (delimiter text.toList)) ++
        delimiter text.toList :: rest).length + 1 := by
    rw [List.length_append]
    omega
  have taken := take_content quotes content inside rest
  have read := unescaped_encoded quotes (Nat.le_succ_of_le (encoded_length quotes text.toList))
  have unmarked : "".toLower.toList = [] := String.toList_map
  rw [quote_chars, List.cons_append, List.append_assoc, List.singleton_append]
  simp only [takeQuoted, opened, taken, unmarked, textOf?, read, Option.bind_eq_bind,
    Option.bind_some, List.contains_nil, Bool.false_eq_true, if_false, String.ofList_toList]
  rfl

theorem decode_spelled {delim c : Char} {chars rest : List Char}
    (quotes : delim = single ∨ delim = double) (spelled : Spelled delim c chars)
    (onward : rest ≠ []) :
    decodeBody delim (chars ++ rest) = (decodeBody delim rest).map (c :: ·) := by
  have apart : (backslash == delim) = false := by simpa using quote_not_backslash quotes
  have opens : (backslash == delim || backslash == '\n' || backslash == '\r') = false := by
    rw [apart]
    decide
  cases spelled with
  | plain apart kept prints =>
      obtain ⟨next, more, rfl⟩ := List.exists_cons_of_ne_nil onward
      have unbroken : c ≠ '\n' ∧ c ≠ '\r' := by
        constructor <;> rintro rfl <;> exact absurd prints (by decide)
      rw [List.singleton_append, decodeBody]
      simp [apart, kept, unbroken]
  | short stands =>
      rw [List.cons_append, List.singleton_append, decodeBody]
      simp only [opens, Bool.false_eq_true, if_false, beq_self_eq_true, if_true, stands]
  | @numbered letter width digits fits =>
      obtain ⟨taken, left⟩ := hexadecimal_divides width c.toNat rest
      have enough : ¬ (hexadecimal width c.toNat ++ rest).length < width := by
        rw [List.length_append, hexadecimal_length]
        omega
      rw [List.cons_append, List.cons_append, decodeBody]
      simp only [opens, Bool.false_eq_true, if_false, beq_self_eq_true, if_true,
        (number_letter digits).2.2.1, digits, enough, taken, left, hex_number_hexadecimal fits,
        Option.bind_eq_bind, Option.bind_some, Char.ofNat_toNat]
      cases decodeBody delim rest <;> rfl

-- A literal stands for the text that it was written for.
theorem decode_quote (text : String) : decode (quote text).toList = some text.toList := by
  have quotes := delimiter_quotes text.toList
  have mark : (delimiter text.toList == single || delimiter text.toList == double) = true := by
    simpa using quotes
  have body : ∀ chars, decodeBody (delimiter text.toList)
      (chars.flatMap (encodeChar (delimiter text.toList)) ++ [delimiter text.toList]) =
        some chars := by
    intro chars
    induction chars with
    | nil => simp [decodeBody]
    | cons c chars ih =>
        rw [List.flatMap_cons, List.append_assoc,
          decode_spelled quotes (encode_char_spelled quotes c) (by simp), ih]
        rfl
  rw [quote_chars, decode, if_pos mark, body]

theorem quote_injective : Function.Injective quote := by
  intro first second same
  have read := congrArg (fun literal => decode literal.toList) same
  simpa only [decode_quote, Option.some.injEq, String.toList_inj] using read

-- A literal stays on one line: all its characters print.
theorem quote_prints (text : String) :
    ∀ c ∈ (quote text).toList, Character.isPrintable c = true := by
  have quotes := delimiter_quotes text.toList
  have mark : Character.isPrintable (delimiter text.toList) = true := by
    rcases quotes with same | same <;> rw [same] <;> decide
  intro c listed
  rw [quote_chars, List.mem_cons, List.mem_append, List.mem_singleton] at listed
  rcases listed with rfl | inside | rfl
  · exact mark
  · obtain ⟨origin, _, among⟩ := List.mem_flatMap.mp inside
    exact spelled_prints (encode_char_spelled quotes origin) c among
  · exact mark

end Quoted

end MemberThunks
