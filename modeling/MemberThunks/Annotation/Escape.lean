import MemberThunks.Text.Quoted

set_option autoImplicit false

/- The contents of literals as they are written: what stands for a character after a
   backslash, in texts and in octets. -/
namespace MemberThunks.Annotation

/-- What is left of a text after something it begins with. -/
def stripped? (start : List Char) (chars : List Char) : Option (List Char) :=
  if start.isPrefixOf chars then some (chars.drop start.length) else none

def numberIn (base : Nat) (digits : List Char) : Nat :=
  digits.foldl (fun sum c => sum * base + (Quoted.hexValue c.toLower).getD 0) 0

def isDigitIn (base : Nat) (c : Char) : Bool :=
  (Quoted.hexValue c.toLower).any (· < base)

/-- The character for a letter after a backslash. -/
def letterEscape? (c : Char) : Option Char :=
  match c with
  | 'a' => some (Char.ofNat 7)
  | 'b' => some (Char.ofNat 8)
  | 'f' => some (Char.ofNat 12)
  | 'v' => some (Char.ofNat 11)
  | other => Quoted.shortEscape other

/-- Characters that go by names, beside letters and digits. -/
def namedSigns : List (String × Nat) := [
  ("SPACE", 32), ("EXCLAMATION MARK", 33), ("QUOTATION MARK", 34), ("NUMBER SIGN", 35),
  ("DOLLAR SIGN", 36), ("PERCENT SIGN", 37), ("AMPERSAND", 38), ("APOSTROPHE", 39),
  ("LEFT PARENTHESIS", 40), ("RIGHT PARENTHESIS", 41), ("ASTERISK", 42), ("PLUS SIGN", 43),
  ("COMMA", 44), ("HYPHEN-MINUS", 45), ("FULL STOP", 46), ("SOLIDUS", 47), ("COLON", 58),
  ("SEMICOLON", 59), ("LESS-THAN SIGN", 60), ("EQUALS SIGN", 61), ("GREATER-THAN SIGN", 62),
  ("QUESTION MARK", 63), ("COMMERCIAL AT", 64), ("LEFT SQUARE BRACKET", 91),
  ("REVERSE SOLIDUS", 92), ("RIGHT SQUARE BRACKET", 93), ("CIRCUMFLEX ACCENT", 94),
  ("LOW LINE", 95), ("GRAVE ACCENT", 96), ("LEFT CURLY BRACKET", 123), ("VERTICAL LINE", 124),
  ("RIGHT CURLY BRACKET", 125), ("TILDE", 126), ("NO-BREAK SPACE", 160),
  ("LATIN SMALL LETTER E WITH ACUTE", 233), ("LATIN SMALL LETTER O WITH DIAERESIS", 246),
  ("LATIN SMALL LIGATURE FI", 64257)]

def digitNames : List String :=
  ["ZERO", "ONE", "TWO", "THREE", "FOUR", "FIVE", "SIX", "SEVEN", "EIGHT", "NINE"]

/-- The letter that a name ends in, after the words before it. -/
def letterNamed? (start : String) (name : String) : Option Char :=
  match stripped? start.toList name.toList with
  | some [c] => if 65 ≤ c.toNat && c.toNat ≤ 90 then some c else none
  | _ => none

/-- The character that goes by a name, in letters of either case. -/
def characterNamed? (name : String) : Option Char :=
  let name := name.toUpper
  match letterNamed? "LATIN CAPITAL LETTER " name, letterNamed? "LATIN SMALL LETTER " name,
      namedSigns.lookup name with
  | some c, _, _ => some c
  | none, some c, _ => some c.toLower
  | none, none, some code => some (Char.ofNat code)
  | none, none, none =>
    ((digitNames.zipIdx.find? fun entry => "DIGIT " ++ entry.1 = name).map fun entry =>
      Char.ofNat (48 + entry.2))

/-- A number of some digits in base sixteen, and what follows it. -/
def hexEscape? (width : Nat) (rest : List Char) : Option (Char × List Char) :=
  let digits := rest.take width
  if digits.length = width then
    (Quoted.hexNumber (digits.map Char.toLower)).map fun code =>
      (Char.ofNat code, rest.drop width)
  else none

/-- A number of up to three digits in base eight, and what follows it. -/
def octalEscape (c : Char) (rest : List Char) : Nat × List Char :=
  let digits := (c :: rest.take 2).takeWhile (isDigitIn 8)
  (numberIn 8 digits, (c :: rest).drop digits.length)

/-- The characters for what follows a backslash in a text, and the rest. -/
def textEscape? (c : Char) (rest : List Char) : Option (List Char × List Char) :=
  if c = '\n' then some ([], rest)
  else
    match letterEscape? c, Quoted.escapeWidth c with
    | some plain, _ => some ([plain], rest)
    | none, some width => (hexEscape? width rest).map fun taken => ([taken.1], taken.2)
    | none, none =>
      if c = 'N' then
        match rest with
        | opening :: inner =>
          let name := inner.takeWhile fun c => c.toNat != 125
          if opening.toNat = 123 && name.length < inner.length then
            (characterNamed? (String.ofList name)).map fun found =>
              ([found], inner.drop (name.length + 1))
          else none
        | [] => none
      else if isDigitIn 8 c then
        let (code, after) := octalEscape c rest
        some ([Char.ofNat code], after)
      else some ([Quoted.backslash, c], rest)

/-- The octets for what follows a backslash among octets, and the rest. -/
def octetEscape? (c : Char) (rest : List Char) : Option (List Nat × List Char) :=
  if c = '\n' then some ([], rest)
  else
    match letterEscape? c with
    | some plain => some ([plain.toNat], rest)
    | none =>
      if c = 'x' then (hexEscape? 2 rest).map fun taken => ([taken.1.toNat], taken.2)
      else if isDigitIn 8 c then
        let (code, after) := octalEscape c rest
        some ([code % 256], after)
      else some ([Quoted.backslash.toNat, c.toNat], rest)

/-- Reads contents with escapes. Each step takes a character at least. -/
def unescaped? {α : Type} (plain : Char → Option α)
    (escape? : Char → List Char → Option (List α × List Char)) : Nat → List Char → Option (List α)
  | _, [] => some []
  | 0, _ => none
  | steps + 1, c :: rest =>
    if c = Quoted.backslash then
      match rest with
      | [] => none
      | next :: more => do
        let (found, after) ← escape? next more
        return found ++ (← unescaped? plain escape? steps after)
    else do return (← plain c) :: (← unescaped? plain escape? steps rest)

/-- The text that the contents of a literal stand for. -/
def textOf? (isRaw : Bool) (content : List Char) : Option (List Char) :=
  if isRaw then some content else unescaped? some textEscape? (content.length + 1) content

/-- The octets that the contents of a literal stand for, which are written in ASCII. -/
def octetsOf? (isRaw : Bool) (content : List Char) : Option (List Nat) :=
  if content.all fun c => c.toNat < 128 then
    if isRaw then some (content.map Char.toNat)
    else unescaped? (fun c => some c.toNat) octetEscape? (content.length + 1) content
  else none

end MemberThunks.Annotation
