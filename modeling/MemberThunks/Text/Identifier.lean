import MemberThunks.Text.Character

set_option autoImplicit false

/- Names in generated code. `squash` turns any text into the name a generated
   function or constant goes by; `isPlain` tells which member names can be written
   after a dot; `Fault` tells why generated text cannot define a squashed name. -/
namespace MemberThunks.Identifier

def keywords : List String := [
  "False", "None", "True", "and", "as", "assert", "async", "await", "break", "class", "continue",
  "def", "del", "elif", "else", "except", "finally", "for", "from", "global", "if", "import", "in",
  "is", "lambda", "nonlocal", "not", "or", "pass", "raise", "return", "try", "while", "with", "yield"]

def isKeyword (name : String) : Bool := keywords.contains name

def keep (c : Char) : Char :=
  if Character.isAlphanumeric c || c == '_' then c else '_'

def guardFirst : List Char → List Char
  | [] => ['_']
  | c :: rest => if Character.isDigit c then '_' :: c :: rest else c :: rest

/-- Every character that is neither alphanumeric nor an underscore becomes an
underscore, and an empty name or one that begins with a digit gets one in front. -/
def squash (text : String) : String :=
  String.ofList (guardFirst (text.toList.map keep))

theorem squash_starts {text : String} {first : Char} {rest : List Char}
    (starts : text.toList = first :: rest) (kept : keep first = first)
    (letter : Character.isDigit first = false) :
    (squash text).toList = first :: rest.map keep := by
  simp [squash, starts, kept, guardFirst, letter]

theorem keep_not_nul (c : Char) : keep c ≠ Char.ofNat 0 := by
  unfold keep
  split
  next kept =>
    intro nul
    subst nul
    exact absurd kept (by decide)
  next => decide

theorem squash_without_nul (text : String) : Char.ofNat 0 ∉ (squash text).toList := by
  have kept : Char.ofNat 0 ∉ text.toList.map keep := by
    intro listed
    obtain ⟨c, _, nul⟩ := List.mem_map.mp listed
    exact keep_not_nul c nul
  simp only [squash, String.toList_ofList]
  cases shape : text.toList.map keep with
  | nil => decide
  | cons first rest =>
      rw [shape] at kept
      simp only [guardFirst]
      split
      · rw [List.mem_cons, not_or]
        exact ⟨by decide, kept⟩
      · exact kept

/-- A word is one name character after another, the first of them a starting one. -/
def isWord : List Char → Bool
  | [] => false
  | c :: rest => Character.startsName c && rest.all Character.continuesName

/-- A name that can stand after a dot. -/
def isPlain (name : String) : Bool := isWord name.toList && !isKeyword name

/-- The first character at which reading a word stops. -/
def firstForeign : List Char → Option Char
  | [] => none
  | c :: rest =>
    if Character.startsName c then rest.find? fun next => !Character.continuesName next else some c

end MemberThunks.Identifier
