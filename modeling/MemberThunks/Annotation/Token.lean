import MemberThunks.Annotation.Escape
import MemberThunks.Text.Compatibility
import MemberThunks.Text.Identifier

set_option autoImplicit false

/- Splitting the text of an annotation into tokens: names, numbers, literals and signs.
   Blanks between tokens do not count, except that no line may begin with them; line
   breaks count only outside brackets, where nothing may follow them. Brackets nest up to
   a limit. -/
namespace MemberThunks.Annotation

/-- A part of a literal with fields. -/
inductive Piece where
  | plain (content : String)
  /-- A field: its term, how it is turned into a text, and how that is laid out. -/
  | field (source : String) (conversion : Option Char) (layout : String)
deriving DecidableEq

inductive Token where
  | name (label : String)
  /-- A word that is no name. -/
  | keyword (label : String)
  | whole (value : Nat)
  | fraction (digits : String)
  | imaginary (digits : String)
  | text (content : String)
  | octets (content : List Nat)
  /-- A text with fields. -/
  | formatted (pieces : List Piece)
  | sign (symbol : String)
deriving DecidableEq

/-- Signs of several characters, the longest first. -/
def longSigns : List String :=
  ["...", "**", "//", "<<", ">>", "<=", ">=", "==", "!=", ":="]

def shortSigns : List Char :=
  ['(', ')', '[', ']', Char.ofNat 123, Char.ofNat 125, ',', ':', '=', '.', '|', '^', '&', '+',
    '-', '*', '/', '%', '@', '~', '<', '>']

def longSign? (chars : List Char) : Option (String × List Char) :=
  longSigns.findSome? fun sign => (stripped? sign.toList chars).map fun rest => (sign, rest)

def isDecimal (c : Char) : Bool := 48 ≤ c.toNat && c.toNat ≤ 57

/-- The digits at the beginning of a text. Single underscores may stand between them. -/
def takeDigits (isDigit : Char → Bool) : List Char → List Char × List Char
  | [] => ([], [])
  | c :: rest =>
    if isDigit c then
      let (digits, after) := takeDigits isDigit rest
      (c :: digits, after)
    else if c = '_' then
      match rest with
      | next :: _ =>
        if isDigit next then takeDigits isDigit rest else ([], c :: rest)
      | [] => ([], [c])
    else ([], c :: rest)

/-- The base that a letter after a zero announces. -/
def baseOf? (c : Char) : Option Nat :=
  if c = 'x' || c = 'X' then some 16 else if c = 'o' || c = 'O' then some 8
  else if c = 'b' || c = 'B' then some 2 else none

/-- The exponent at the beginning of a text, if there is one. -/
def takeExponent : List Char → List Char × List Char
  | e :: rest =>
    if e = 'e' || e = 'E' then
      let (sign, digits) :=
        match rest with
        | '-' :: more => (['-'], more)
        | '+' :: more => (['+'], more)
        | more => ([], more)
      match takeDigits isDecimal digits with
      | ([], _) => ([], e :: rest)
      | (power, after) => ('e' :: sign ++ power, after)
    else ([], e :: rest)
  | [] => ([], [])

/-- A number in base ten: a whole one, one with a fraction, or an imaginary one. -/
def takeDecimal (chars : List Char) : Option (Token × List Char) :=
  let (whole, afterWhole) := takeDigits isDecimal chars
  let (fraction, afterFraction) :=
    match afterWhole with
    | '.' :: more =>
      let (digits, after) := takeDigits isDecimal more
      ('.' :: digits, after)
    | more => ([], more)
  let (power, after) := takeExponent afterFraction
  let digits := String.ofList (whole ++ fraction ++ power)
  match after with
  | 'j' :: rest | 'J' :: rest => some (.imaginary digits, rest)
  | rest =>
    if !(fraction.isEmpty && power.isEmpty) then some (.fraction digits, rest)
    else if whole.length = 1 || whole.head? != some '0' || whole.all (· == '0') then
      some (.whole (numberIn 10 whole), rest)
    else none

/-- The words that may follow a number directly. -/
def followers : List (List Char) :=
  ["and", "else", "for", "if", "in", "is", "not", "or"].map String.toList

/-- A number at the beginning of a text. No other name may follow it directly. -/
def takeNumber (chars : List Char) : Option (Token × List Char) := do
  let (token, rest) ←
    match chars with
    | '0' :: letter :: more =>
      match baseOf? letter with
      | some base =>
        let digits := takeDigits (isDigitIn base) (if more.head? = some '_' then more.drop 1 else more)
        match digits with
        | ([], _) => none
        | (digits, rest) => some (.whole (numberIn base digits), rest)
      | none => takeDecimal chars
    | _ => takeDecimal chars
  if rest.head?.any Character.continuesName && !followers.any (fun word => word.isPrefixOf rest) then
    none
  else some (token, rest)

/-- The contents of a literal as they are written, up to its closing quotes. -/
def takeLiteral (closing : List Char) : Nat → List Char → Option (List Char × List Char)
  | 0, _ => none
  | _, [] => none
  | steps + 1, c :: rest =>
    match stripped? closing (c :: rest) with
    | some after => some ([], after)
    | none =>
      if c = Quoted.backslash then
        match rest with
        | [] => none
        | next :: more =>
          (takeLiteral closing steps more).map fun taken => (c :: next :: taken.1, taken.2)
      else if c = '\n' && closing.length = 1 then none
      else (takeLiteral closing steps rest).map fun taken => (c :: taken.1, taken.2)

def isOpening (c : Char) : Bool := c = '(' || c = '[' || c = Char.ofNat 123

def isClosing (c : Char) : Bool := c = ')' || c = ']' || c = Char.ofNat 125

/-- The text of a field up to the sign that ends it. Neither a backslash nor the sign of a
comment may stand in it. -/
def takeField (depth : Nat) (quote : Option Char) : List Char → Option (List Char × List Char)
  | [] => none
  | c :: rest =>
    let next (depth : Nat) (quote : Option Char) :=
      (takeField depth quote rest).map fun taken => (c :: taken.1, taken.2)
    if c = Quoted.backslash || (quote.isNone && c = '#') then none
    else
      match quote with
      | some opened => next depth (if c = opened then none else quote)
      | none =>
        if c = Quoted.single || c = Quoted.double then next depth (some c)
        else if isOpening c then next (depth + 1) none
        else if 0 < depth then next (if isClosing c then depth - 1 else depth) none
        else if c = Char.ofNat 125 || c = ':' then some ([], c :: rest)
        else if c = '!' && rest.head? != some '=' then some ([], c :: rest)
        else if isClosing c then none
        else next depth none

/-- The layout of a field, up to the brace that ends the field. -/
def takeLayout (depth : Nat) : List Char → Option (List Char × List Char)
  | [] => none
  | c :: rest =>
    if c = Char.ofNat 125 && depth = 0 then some ([], rest)
    else
      let inner :=
        if c = Char.ofNat 123 then depth + 1 else if c = Char.ofNat 125 then depth - 1 else depth
      (takeLayout inner rest).map fun taken => (c :: taken.1, taken.2)

/-- Whether a field shows its own text: it ends in a sign that is no part of a comparison. -/
def showsItself (source : List Char) : Bool :=
  match (source.reverse.dropWhile (· == ' ')) with
  | '=' :: before :: _ => !(['=', '!', '<', '>'].contains before)
  | _ => false

def withoutSign (source : List Char) : List Char :=
  ((source.reverse.dropWhile (· == ' ')).drop 1).reverse

/-- A field after its opening brace, and what follows the brace that closes it. -/
def field? (chars : List Char) : Option (List Piece × List Char) := do
  let (source, afterSource) ← takeField 0 none chars
  let (conversion, afterConversion) ←
    match afterSource with
    | '!' :: letter :: rest =>
      if ['r', 's', 'a'].contains letter then some (some letter, rest) else none
    | rest => some (none, rest)
  let (layout, rest) ←
    match afterConversion with
    | ':' :: more => takeLayout 0 more
    | c :: more => if c = Char.ofNat 125 then some ([], more) else none
    | [] => none
  let layout := String.ofList layout
  if showsItself source then
    let inner := withoutSign source
    let conversion := conversion.or (if layout.isEmpty then some 'r' else none)
    return ([.plain (String.ofList source), .field (String.ofList inner) conversion layout], rest)
  else if source.all Character.isBlank then none
  else return ([.field (String.ofList source) conversion layout], rest)

/-- The plain beginning of a text with fields, as it is written: a doubled brace stands for
one, and what stands in braces after the mark of a named character belongs to it. -/
def takePlain (isRaw named : Bool) : List Char → Option (List Char × List Char)
  | [] => some ([], [])
  | c :: rest =>
    let kept (named : Bool) := (takePlain isRaw named rest).map fun taken => (c :: taken.1, taken.2)
    if named then kept (c.toNat != 125)
    else if c = Quoted.backslash && !isRaw && (stripped? ['N', Char.ofNat 123] rest).isSome then
      kept true
    else if c = Char.ofNat 123 || c = Char.ofNat 125 then
      match rest with
      | next :: more =>
        if next = c then (takePlain isRaw false more).map fun taken => (c :: taken.1, taken.2)
        else if c = Char.ofNat 123 then some ([], c :: rest)
        else none
      | [] => if c = Char.ofNat 123 then some ([], [c]) else none
    else kept false

/-- The parts of a text with fields. Each step takes a plain part or a field. -/
def pieces? (isRaw : Bool) : Nat → List Char → Option (List Piece)
  | 0, _ => none
  | _, [] => some []
  | steps + 1, chars => do
    let (plain, rest) ← takePlain isRaw false chars
    let first : List Piece ←
      if plain.isEmpty then some []
      else (textOf? isRaw plain).map fun content => [.plain (String.ofList content)]
    match rest with
    | [] => return first
    | _ :: inner =>
      let (found, after) ← field? inner
      return first ++ found ++ (← pieces? isRaw steps after)

/-- The letters before a literal, in lower case. -/
def isLiteralMark (letters : String) : Bool :=
  ["", "r", "u", "b", "f", "br", "rb", "fr", "rf"].contains letters.toLower

def quotesOf? (chars : List Char) : Option (List Char × List Char) :=
  [Quoted.single, Quoted.double].findSome? fun quote =>
    match stripped? [quote, quote, quote] chars with
    | some rest => some ([quote, quote, quote], rest)
    | none => (stripped? [quote] chars).map fun rest => ([quote], rest)

/-- A literal at the beginning of a text, after the letters that mark its kind. -/
def takeQuoted (letters : String) (chars : List Char) : Option (Token × List Char) := do
  let (closing, rest) ← quotesOf? chars
  let marks := letters.toLower.toList
  let isRaw := marks.contains 'r'
  let (content, after) ← takeLiteral closing (rest.length + 1) rest
  if marks.contains 'b' then return (.octets (← octetsOf? isRaw content), after)
  else if marks.contains 'f' then
    return (.formatted (← pieces? isRaw (2 * content.length + 2) content), after)
  else return (.text (String.ofList (← textOf? isRaw content)), after)

def startsLiteral (chars : List Char) : Bool :=
  chars.head?.any fun c => c == Quoted.single || c == Quoted.double

/-- A word at the beginning of a text: a name, a keyword or the mark of a literal. -/
def takeWord (chars : List Char) : Option (Token × List Char) :=
  let word := String.ofList (chars.takeWhile Character.continuesName)
  let rest := chars.dropWhile Character.continuesName
  if startsLiteral rest && isLiteralMark word then takeQuoted word rest
  else if Identifier.isKeyword word then some (.keyword word, rest)
  else some (.name (Compatibility.normalized word), rest)

/-- One token at the beginning of a text that does not begin with a blank. -/
def takeToken (chars : List Char) : Option (Token × List Char) :=
  match chars with
  | [] => none
  | c :: rest =>
    if startsLiteral chars then takeQuoted "" chars
    else if isDecimal c || (c = '.' && rest.head?.any isDecimal) then takeNumber chars
    else if Character.startsName c then takeWord chars
    else
      match longSign? chars with
      | some (sign, after) => some (.sign sign, after)
      | none =>
        if shortSigns.contains c then some (.sign (String.ofList [c]), rest) else none

def opens (token : Token) : Bool :=
  [Token.sign "(", .sign "[", .sign "\x7b"].contains token

def closes (token : Token) : Bool :=
  [Token.sign ")", .sign "]", .sign "\x7d"].contains token

def isSpace (c : Char) : Bool := c = ' ' || c = '\t' || c = Char.ofNat 12

def isBreak (c : Char) : Bool := c = '\n' || c = '\r'

def dropComment (chars : List Char) : List Char := chars.dropWhile fun c => !isBreak c

/-- What is left of a line after the blanks that it begins with, and how many of them count:
a form feed begins the line anew. -/
def indented (column : Nat) : List Char → Nat × List Char
  | [] => (column, [])
  | c :: rest =>
    if c = Char.ofNat 12 then indented 0 rest
    else if isSpace c then indented (column + 1) rest
    else (column, c :: rest)

/-- The rest of a text from its first line that is neither blank nor a comment. That line
may not begin with blanks. -/
def firstLine? : Nat → List Char → Option (List Char)
  | 0, _ => none
  | steps + 1, chars =>
    match indented 0 chars with
    | (column, []) => if column = 0 then some [] else none
    | (column, c :: rest) =>
      if isBreak c then firstLine? steps rest
      else if c = '#' then firstLine? steps (dropComment rest)
      else if column = 0 then some (c :: rest)
      else none

/-- The limit to which brackets nest. -/
def depthLimit : Nat := 200

/-- The tokens of a text, inside some number of brackets. Each step takes a character
at least, so the length of the text bounds the steps. -/
def tokensWithin (depth : Nat) : Nat → List Char → Option (List Token)
  | _, [] => some []
  | 0, _ => none
  | steps + 1, c :: rest =>
    if isSpace c then tokensWithin depth steps rest
    else if c = '#' then tokensWithin depth steps (dropComment rest)
    else if isBreak c then
      if 0 < depth then tokensWithin depth steps rest
      else if (firstLine? (rest.length + 1) rest).any List.isEmpty then some [] else none
    else if c = Quoted.backslash then
      match rest with
      | '\n' :: more => if more.isEmpty then none else tokensWithin depth steps more
      | _ => none
    else do
      let (token, after) ← takeToken (c :: rest)
      let inner := if opens token then depth + 1 else if closes token then depth - 1 else depth
      if depthLimit < inner then none
      else
        let others ← tokensWithin inner steps after
        return token :: others

/-- The tokens of an annotation. -/
def tokens? (text : String) : Option (List Token) := do
  let chars ← firstLine? (text.length + 1) text.toList
  tokensWithin 0 (chars.length + 1) chars

end MemberThunks.Annotation
