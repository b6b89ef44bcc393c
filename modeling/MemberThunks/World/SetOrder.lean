import MemberThunks.TypeForm.Equality
import MemberThunks.World.Magnitude

set_option autoImplicit false

/- The order in which a set goes through its elements. Each element stands in a table at a place
that its hash decides, or at the next free one; a table that is three fifths full gives way to
a larger one. Numbers that are equal have one hash, and so the order of sets of numbers and of
tuples of numbers is known; other elements come as they were put in. -/
namespace MemberThunks

namespace SetOrder

/-- The hashes of numbers are remainders of this prime. -/
def modulus : Nat := 2305843009213693951

/-- A hash from a signed number; one value is kept for failures. -/
def ofSigned (number : Int) : UInt64 :=
  if number = -1 then UInt64.ofNat (18446744073709551616 - 2)
  else if number < 0 then UInt64.ofNat (18446744073709551616 - number.natAbs)
  else UInt64.ofNat number.toNat

/-- The hash of a number as a multiple of a power of two, which counts by its remainder. -/
def ofMagnitude : Magnitude → UInt64
  | .infinite negative => ofSigned (if negative then -314159 else 314159)
  | .finite mantissa exponent =>
    let turned := (exponent % 61).toNat
    let remainder := mantissa.natAbs % modulus * Nat.shiftLeft 1 turned % modulus
    ofSigned (if mantissa < 0 then -remainder else remainder)

/-- Turns the bits of a word. -/
def rotated (word : UInt64) (count : UInt64) : UInt64 :=
  (word <<< count) ||| (word >>> (64 - count))

/-- The hash of a tuple of hashes. -/
def ofTuple (hashes : List UInt64) : UInt64 :=
  let mixed := hashes.foldl (fun sum hash =>
    rotated (sum + hash * 14029467366897019727) 31 * 11400714785074694791) 2870177450012600261
  let seed : UInt64 := 2870177450012600261
  let turn : UInt64 := 3527539
  let final := mixed + (UInt64.ofNat hashes.length ^^^ (seed ^^^ turn))
  if final = 18446744073709551615 then 1546275796 else final

/-- The hash of a set of hashes, which does not depend on their order. -/
def ofSet (hashes : List UInt64) : UInt64 :=
  let shuffled (hash : UInt64) : UInt64 := 
    ((hash ^^^ (89869747 : UInt64)) ^^^ (hash <<< (16 : UInt64))) * 3644798167
  let mixed := hashes.foldl (fun sum hash => sum ^^^ shuffled hash) 0
  let counted := mixed ^^^ ((UInt64.ofNat hashes.length + 1) * 1927868237)
  let spread := (counted ^^^ (counted >>> 11) ^^^ (counted >>> 25)) * 69069 + 907133923
  if spread = 18446744073709551615 then 590923713 else spread

mutual

/-- The hash of a value, where it does not change from run to run. -/
def hash? : Value → Option UInt64
  | .bool truth => some (if truth then 1 else 0)
  | .int number => some (ofMagnitude (.ofInt number))
  | .float digits => some (ofMagnitude (.ofDigits digits))
  | .complex real imaginary =>
    let sum := ofMagnitude (.ofDigits real) + 1000003 * ofMagnitude (.ofDigits imaginary)
    some (if sum = 18446744073709551615 then 18446744073709551614 else sum)
  | .text content => if content.isEmpty then some 0 else none
  | .octets content => if content.isEmpty then some 0 else none
  | .tuple items => (hashes? items).map ofTuple
  | .frozenset items => (hashes? items).map ofSet
  | .wrapped _ _ content => hash? content
  | _ => none
termination_by structural value => value

def hashes? : List Value → Option (List UInt64)
  | [] => some []
  | first :: rest =>
    match hash? first, hashes? rest with
    | some hash, some hashes => some (hash :: hashes)
    | _, _ => none
termination_by structural values => values

end

/-- What stands in a table: places with the hashes there and the values, in order of places. -/
abbrev Table := List (Nat × UInt64 × Value)

/-- The first free place for a hash. From each place ten in a row are tried where there are as
many, and the next one depends on more and more bits of the hash. -/
def freePlace (size : Nat) (table : Table) : Nat → Nat → Nat → Nat
  | 0, place, _ => place
  | tries + 1, place, rest =>
    let row := (List.range (if place + 9 < size then 10 else 1)).map (place + ·)
    match row.find? fun candidate => !(table.any (·.1 = candidate)) with
    | some found => found
    | none => freePlace size table tries ((place * 5 + 1 + rest / 32) % size) (rest / 32)

/-- Puts an entry among others by its place. -/
def put (entry : Nat × UInt64 × Value) : Table → Table
  | [] => [entry]
  | first :: rest => if entry.1 < first.1 then entry :: first :: rest else first :: put entry rest

def insert (size : Nat) (table : Table) (hash : UInt64) (value : Value) : Table :=
  let start := hash.toNat
  put (freePlace size table (size + 64) (start % size) start, hash, value) table

/-- The least size of a table above a count. -/
def sizeAbove (count : Nat) : Nat :=
  ((List.range 64).map fun power => Nat.shiftLeft 8 power).find? (count < ·) |>.getD 8

/-- Puts all entries of a table into an empty one of another size. -/
def refilled (size : Nat) (table : Table) : Table :=
  table.foldl (fun kept entry => insert size kept entry.2.1 entry.2.2) []

/-- Whether a table of a size with so many entries is too full. -/
def isFull (size count : Nat) : Bool := (size - 1) * 3 ≤ count * 5

/-- A table that values are put into one by one. -/
def grown (entries : List (UInt64 × Value)) : Nat × Table :=
  entries.foldl (fun state entry =>
    let table := insert state.1 state.2 entry.1 entry.2
    if isFull state.1 table.length then
      let size := sizeAbove (table.length * 4)
      (size, refilled size table)
    else (state.1, table)) (8, [])

/-- A table that another one is put into at once. -/
def copied (table : Nat × Table) : Nat × Table :=
  let count := table.2.length
  let size := if isFull 8 count then sizeAbove (count * 2) else 8
  if size = table.1 then table else (size, refilled size table.2)

/-- Values in the order of a table made of them. -/
def ordered (table : List (UInt64 × Value) → Nat × Table) (values : List Value) : List Value :=
  match hashes? values with
  | some hashes => (table (hashes.zip values)).2.map (·.2.2)
  | none => values

end SetOrder

namespace Value

/-- The elements of a set of some values, in the order in which the set goes through them. -/
def elementsOf (values : List Value) : List Value :=
  SetOrder.ordered SetOrder.grown (distinct values)

/-- The elements of a set made of a whole set. -/
def copyOf (elements : List Value) : List Value :=
  SetOrder.ordered (fun entries => SetOrder.copied (SetOrder.grown entries)) elements

end Value

end MemberThunks
