import MemberThunks.Text.CharacterRuns

set_option autoImplicit false

/- The properties of characters that names, literals and blank-trimming depend on.
   ASCII is decided by rule, and beyond it each character belongs to one of a few
   classes. -/
namespace MemberThunks

structure CharacterTraits where
  alphanumeric : Bool
  digit : Bool
  startsName : Bool
  continuesName : Bool
  printable : Bool
  blank : Bool
deriving DecidableEq

namespace CharacterTraits

def letter : CharacterTraits := ⟨true, false, true, true, true, false⟩
def symbol : CharacterTraits := ⟨false, false, false, false, true, false⟩
def unprintable : CharacterTraits := ⟨false, false, false, false, false, false⟩
def space : CharacterTraits := ⟨false, false, false, false, false, true⟩
def mark : CharacterTraits := ⟨false, false, false, true, true, false⟩
def decimal : CharacterTraits := ⟨true, true, false, true, true, false⟩
/-- A symbol that names may begin with. -/
def nameSymbol : CharacterTraits := ⟨false, false, true, true, true, false⟩
/-- A number that is no digit and stands in no name. -/
def numeral : CharacterTraits := ⟨true, false, false, false, true, false⟩
/-- A letter or number that can only continue a name. -/
def follower : CharacterTraits := ⟨true, false, false, true, true, false⟩
/-- A digit that stands in no name. -/
def raisedDigit : CharacterTraits := ⟨true, true, false, false, true, false⟩

/-- The traits of the class with a letter. -/
def ofLetter (letterOfClass : Char) : CharacterTraits :=
  match letterOfClass with
  | 'B' => space
  | 'C' => symbol
  | 'D' => mark
  | 'E' => nameSymbol
  | 'F' => numeral
  | 'G' => follower
  | 'H' => letter
  | 'I' => raisedDigit
  | 'J' => decimal
  | _ => unprintable

end CharacterTraits

namespace Character

open CharacterTraits

def asciiTraits (code : Nat) : CharacterTraits :=
  if 48 ≤ code && code ≤ 57 then decimal
  else if (65 ≤ code && code ≤ 90) || (97 ≤ code && code ≤ 122) then letter
  else if code = 95 then nameSymbol
  else if code = 32 then ⟨false, false, false, false, true, true⟩
  else if (9 ≤ code && code ≤ 13) || (28 ≤ code && code ≤ 31) then space
  else if code < 32 || code = 127 then unprintable
  else symbol

/-- The traits of a character beyond ASCII, by its place after ASCII. -/
def wideTraits (place : Nat) : CharacterTraits :=
  match CharacterRuns.letterAt? place CharacterRuns.runs with
  | some found => ofLetter found
  | none => unprintable

def traits (c : Char) : CharacterTraits :=
  if c.toNat < 128 then asciiTraits c.toNat else wideTraits (c.toNat - 128)

def isAlphanumeric (c : Char) : Bool := (traits c).alphanumeric
def isDigit (c : Char) : Bool := (traits c).digit
def startsName (c : Char) : Bool := (traits c).startsName
def continuesName (c : Char) : Bool := (traits c).continuesName
def isPrintable (c : Char) : Bool := (traits c).printable
def isBlank (c : Char) : Bool := (traits c).blank

end Character

end MemberThunks
