import MemberThunks.Text.Composition

set_option autoImplicit false

/- Whether a text is in its composed compatibility form. A text is when each of its
   characters is its own compatibility form, and taking them apart, ordering their marks
   and composing them again gives the same text. Syllables compose by rule. -/
namespace MemberThunks.NormalForm

def leadBase : Nat := 0x1100
def vowelBase : Nat := 0x1161
def tailBase : Nat := 0x11A7
def syllableBase : Nat := 0xAC00
def vowelCount : Nat := 21
def tailCount : Nat := 28
def syllableCount : Nat := 11172

/-- The two parts of a syllable: a lead and a vowel, or those two and a tail. -/
def syllableParts? (code : Nat) : Option (Nat × Nat) :=
  if syllableBase ≤ code && code < syllableBase + syllableCount then
    let place := code - syllableBase
    if place % tailCount = 0 then
      some (leadBase + place / (vowelCount * tailCount),
        vowelBase + place / tailCount % vowelCount)
    else some (code - place % tailCount, tailBase + place % tailCount)
  else none

def syllableOf? (left right : Nat) : Option Nat :=
  if leadBase ≤ left && left < leadBase + 19 && vowelBase ≤ right &&
      right < vowelBase + vowelCount then
    some (syllableBase + ((left - leadBase) * vowelCount + (right - vowelBase)) * tailCount)
  else if syllableBase ≤ left && left < syllableBase + syllableCount &&
      (left - syllableBase) % tailCount = 0 && tailBase < right &&
      right < tailBase + tailCount then
    some (left + (right - tailBase))
  else none

def parts? (code : Nat) : Option (Nat × Nat) :=
  match syllableParts? code with
  | some parts => some parts
  | none =>
    (Composition.pairs.find? fun pair => pair.2.2 == code).map fun pair => (pair.1, pair.2.1)

def composite? (left right : Nat) : Option Nat :=
  match syllableOf? left right with
  | some syllable => some syllable
  | none =>
    (Composition.pairs.find? fun pair => pair.1 == left && pair.2.1 == right).map (·.2.2)

/-- Takes a character apart; no character holds more than a few others. -/
def decomposeWithin : Nat → Nat → List Nat
  | 0, code => [code]
  | depth + 1, code =>
    match parts? code with
    | some (first, second) => decomposeWithin depth first ++ [second]
    | none => [code]

def decompose (codes : List Nat) : List Nat := codes.flatMap (decomposeWithin 8)

/-- Puts a character before what follows it in the order of marks. -/
def insertMark (code : Nat) : List Nat → List Nat
  | [] => [code]
  | next :: rest =>
    if Composition.rank next != 0 && Composition.rank next < Composition.rank code then
      next :: insertMark code rest
    else code :: next :: rest

/-- Orders marks that follow each other. -/
def reorder (codes : List Nat) : List Nat := codes.foldr insertMark []

/-- Composes what follows a character with it, where no mark of the same rank stands
between them. -/
def composeFrom (starter : Nat) (skipped : List Nat) (last : Nat) : List Nat → List Nat
  | [] => starter :: skipped
  | code :: rest =>
    let rank := Composition.rank code
    match if skipped.isEmpty || last < rank then composite? starter code else none with
    | some whole => composeFrom whole skipped last rest
    | none =>
      if rank = 0 then starter :: skipped ++ composeFrom code [] 0 rest
      else composeFrom starter (skipped ++ [code]) rank rest

def compose : List Nat → List Nat
  | [] => []
  | code :: rest =>
    if Composition.rank code = 0 then composeFrom code [] 0 rest else code :: compose rest

/-- Whether a text is its own composed compatibility form, as every ASCII text is. -/
def isNormal (text : String) : Bool :=
  let codes := text.toList.map Char.toNat
  codes.all (· < 128) ||
    (codes.all Composition.isStable && compose (reorder (decompose codes)) == codes)

end MemberThunks.NormalForm
