import MemberThunks.Text.Character

set_option autoImplicit false

/- Quoted literals. `quote` writes any text as a literal on one line: in single
   quotes unless the text has a single quote and no double one, with a backslash
   before a backslash and before the quote in use, short escapes for line feed,
   return and tab, and numeric escapes for all else that does not print.
   `decode` reads a literal back by the same rules. -/
namespace MemberThunks.Quoted

def single : Char := Char.ofNat 39
def double : Char := Char.ofNat 34
def backslash : Char := Char.ofNat 92

def delimiter (chars : List Char) : Char :=
  if chars.contains single && !chars.contains double then double else single

def hexDigit (n : Nat) : Char :=
  if n < 10 then Char.ofNat (48 + n) else Char.ofNat (87 + n)

/-- The last `width` hexadecimal digits of a number. -/
def hexadecimal : Nat → Nat → List Char
  | 0, _ => []
  | width + 1, n => hexadecimal width (n / 16) ++ [hexDigit (n % 16)]

def escapeCode (code : Nat) : List Char :=
  if code < 0x100 then backslash :: 'x' :: hexadecimal 2 code
  else if code < 0x10000 then backslash :: 'u' :: hexadecimal 4 code
  else backslash :: 'U' :: hexadecimal 8 code

def encodeChar (delim c : Char) : List Char :=
  if c == delim || c == backslash then [backslash, c]
  else if c == '\n' then [backslash, 'n']
  else if c == '\r' then [backslash, 'r']
  else if c == '\t' then [backslash, 't']
  else if Character.isPrintable c then [c]
  else escapeCode c.toNat

def encode (chars : List Char) : List Char :=
  let delim := delimiter chars
  delim :: chars.flatMap (encodeChar delim) ++ [delim]

def quote (text : String) : String := String.ofList (encode text.toList)

def encodeOctet (delim : Char) (octet : Nat) : List Char :=
  let c := Char.ofNat octet
  if c == delim || c == backslash then [backslash, c]
  else if c == '\n' then [backslash, 'n']
  else if c == '\r' then [backslash, 'r']
  else if c == '\t' then [backslash, 't']
  else if 32 ≤ octet && octet < 127 then [c]
  else backslash :: 'x' :: hexadecimal 2 octet

/-- A byte string: the letter b before a literal in which only ASCII stands for itself. -/
def quoteOctets (octets : List Nat) : String :=
  let delim := delimiter (octets.map Char.ofNat)
  String.ofList ('b' :: delim :: octets.flatMap (encodeOctet delim) ++ [delim])

def hexValue (c : Char) : Option Nat :=
  if 48 ≤ c.toNat && c.toNat ≤ 57 then some (c.toNat - 48)
  else if 97 ≤ c.toNat && c.toNat ≤ 102 then some (c.toNat - 87)
  else none

def hexNumber (digits : List Char) : Option Nat :=
  digits.foldl (fun sum c => do return (← sum) * 16 + (← hexValue c)) (some 0)

/-- The octets that pairs of hexadecimal digits stand for. -/
def octetsOf : List Char → List Nat
  | high :: low :: rest => (hexNumber [high.toLower, low.toLower]).getD 0 :: octetsOf rest
  | _ => []

/-- How many digits follow a numeric escape letter. -/
def escapeWidth (c : Char) : Option Nat :=
  if c == 'x' then some 2 else if c == 'u' then some 4 else if c == 'U' then some 8 else none

/-- What a letter after a backslash stands for, where it stands for one character. -/
def shortEscape (c : Char) : Option Char :=
  if c == 'n' then some '\n' else if c == 'r' then some '\r' else if c == 't' then some '\t'
  else if c == single || c == double || c == backslash then some c
  else none

/-- Reads up to the closing delimiter, which has to be the last character. -/
def decodeBody (delim : Char) : List Char → Option (List Char)
  | [] => none
  | [c] => if c == delim then some [] else none
  | c :: next :: rest =>
    if c == delim || c == '\n' || c == '\r' then none
    else if c == backslash then
      match shortEscape next with
      | some plain => (decodeBody delim rest).map (plain :: ·)
      | none => do
        let width ← escapeWidth next
        let code ← if rest.length < width then none else hexNumber (rest.take width)
        let chars ← decodeBody delim (rest.drop width)
        return Char.ofNat code :: chars
    else (decodeBody delim (next :: rest)).map (c :: ·)
termination_by chars => chars.length

def decode : List Char → Option (List Char)
  | [] => none
  | delim :: rest => if delim == single || delim == double then decodeBody delim rest else none

end MemberThunks.Quoted
