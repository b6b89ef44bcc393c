import MemberThunks.World.Access
import MemberThunks.World.Arithmetic

set_option autoImplicit false

/- Operations on values that a class of the world may define: whether a value counts as
   true, how long it is, what it gives one by one, which of two values is greater, and
   sums. What acts as a built-in value falls back on the operation of that. -/
namespace MemberThunks

namespace Value

def isNan (value : Value) : Bool :=
  match value.payload with
  | nan _ => true
  | _ => false

/-- Whether a value stands on the line of numbers, on which complex numbers do not. -/
def isReal (value : Value) : Bool :=
  match value.payload with
  | bool _ | int _ | float _ | nan _ => true
  | _ => false

def octets? (value : Value) : Option (List Nat) :=
  match value.payload with
  | octets content | buffer content => some content
  | _ => Option.none

def elements? (value : Value) : Option (List Value) :=
  match value.payload with
  | list items | tuple items | set items | frozenset items => some items
  | dict entries => some (entries.map (·.1))
  | text content => some (content.toList.map fun c => .text (String.ofList [c]))
  | octets content | buffer content => some (content.map fun (octet : Nat) => .int octet)
  | holder kind shown held =>
    if (holder kind shown held).isProxy then some (held.map fun entry => .text entry.1)
    else Option.none
  | _ => Option.none

/-- Whether a value counts as true where its class does not say. -/
def isTruthy (value : Value) : Bool :=
  match value.payload with
  | none => false
  | nan _ => true
  | text content => !content.isEmpty
  | form _ | cls _ | foreign _ _ => true
  | holder _ _ held => !value.isProxy || !held.isEmpty
  | other =>
    match other.elements?, other.magnitude? with
    | some items, _ => !items.isEmpty
    | _, some magnitude => !magnitude.isZero
    | _, _ => true

end Value

namespace World

/-- The elements of a value that acts as a built-in one or is an enumeration. -/
def nativeElements? (world : World) (value : Value) : Option (List Value) :=
  match value with
  | .cls (.enumeration place transparent) =>
    some (eachMember (world.membersOf (.enumeration place transparent)))
  | other => other.elements?

/-- The length that a class of the world tells. -/
def statedLength (world : World) (told : Value) : Except Raised Value :=
  match told.whole? with
  | none => .error (.notInteger (world.ownerName told))
  | some count =>
    if count < 0 then .error .negativeLength
    else if 9223372036854775807 < count then
      .error (.user (.other "OverflowError") "cannot fit 'int' into an index-sized integer")
    else .ok (.int count)

def lengthOf (world : World) (call : Caller) (value : Value) : Run Value :=
  match world.hook? value "__len__" with
  | some answer => do Run.ofExcept (world.statedLength (← call answer [] []))
  | none =>
    match value.payload, world.nativeElements? value with
    | .text content, _ => pure (.int content.length)
    | _, some items => pure (.int items.length)
    | _, none => Run.fail (.noLength (world.ownerName value))

def truth (world : World) (call : Caller) (value : Value) : Run Bool :=
  match world.hook? value "__bool__", world.hook? value "__len__" with
  | some answer, _ => do
    match ← call answer [] [] with
    | .bool truth => return truth
    | given => Run.fail (.notTruth (world.ownerName given))
  | none, some _ => return (← world.lengthOf call value).isTruthy
  | none, none => pure value.isTruthy

/-- The items of a value by their places, up to the first place that has none. -/
def itemsFrom (call : Caller) (answer : Value) : Nat → Int → Run (List Value)
  | 0, _ => Run.fail .tooDeep
  | steps + 1, place => do
    let found ← tryCatch (some <$> call answer [.int place] []) fun raised =>
      if raised.failure.kind = .indexFault then pure none else throw raised
    match found with
    | none => return []
    | some item => return item :: (← itemsFrom call answer steps (place + 1))

/-- How many items by place a value gives at most. -/
def itemLimit : Nat := 1000

/-- The items that something gives next, up to the failure by which it ends. -/
def itemsNext (call : Caller) (answer : Value) : Nat → Run (List Value)
  | 0 => Run.fail .tooDeep
  | steps + 1 => do
    let found ← tryCatch (some <$> call answer [] []) fun raised =>
      if raised.failure.kind = .other "StopIteration" then pure none else throw raised
    match found with
    | none => return []
    | some item => return item :: (← itemsNext call answer steps)

/-- What a value gives one by one. A class may deny that its instances do. -/
def elements (world : World) (call : Caller) (value : Value) : Run (List Value) :=
  match world.hook? value "__iter__", world.nativeElements? value,
      world.hook? value "__getitem__" with
  | some .none, _, _ => Run.fail (.notIterable (world.ownerName value))
  | some answer, _, _ => do
    let given ← call answer [] []
    match world.hook? given "__next__" with
    | some next => itemsNext call next itemLimit
    | none => Run.fail (.notIterator (world.ownerName given))
  | none, some items, _ => pure items
  | none, none, some answer => itemsFrom call answer itemLimit 0
  | none, none, none => Run.fail (.notIterable (world.ownerName value))

/-- The first of two lists of numbers comes after the second. -/
def isAfter : List Nat → List Nat → Bool
  | [], _ => false
  | _ :: _, [] => true
  | left :: lefts, right :: rights =>
    if left = right then isAfter lefts rights else right < left

/-- The first places at which two lists differ: a pair of values, or how their lengths
compare. -/
def difference : List Value → List Value → Except Bool (Value × Value)
  | [], _ => .error false
  | _ :: _, [] => .error true
  | left :: lefts, right :: rights =>
    if left.equal right then difference lefts rights else .ok (left, right)

/-- Whether the first of two values is greater by what they act as. -/
def nativelyGreater (world : World) (within : Value → Value → Run Bool) (left right : Value) :
    Run Bool :=
  let refused : Run Bool :=
    Run.fail (.notOrdered ">" (world.ownerName left) (world.ownerName right))
  let lists (first second : List Value) : Run Bool :=
    match difference first second with
    | .ok (one, other) => within one other
    | .error longer => pure longer
  match left.payload, right.payload with
  | .text first, .text second => pure (second < first)
  | .list first, .list second | .tuple first, .tuple second => lists first second
  | .set first, .set second | .set first, .frozenset second
  | .frozenset first, .set second | .frozenset first, .frozenset second =>
    pure (second.length < first.length && Value.within second first)
  | _, _ =>
    match left.octets?, right.octets? with
    | some first, some second => pure (isAfter first second)
    | _, _ =>
      if left.isReal && right.isReal then
        match left.magnitude?, right.magnitude? with
        | some first, some second => pure (second.less first)
        | _, _ => pure false
      else refused

/-- Whether the first of two values is greater. The class of either may decide, that of
the second one first where it derives from the other. -/
def isGreater (world : World) (call : Caller) : Nat → Value → Value → Run Bool
  | 0, _, _ => Run.fail .tooDeep
  | depth + 1, left, right =>
    let derived := right.typeOf != left.typeOf && world.isSubclass right.typeOf left.typeOf
    match world.hook? left "__gt__", world.hook? right "__lt__" with
    | none, some answer => do world.truth call (← call answer [left] [])
    | some greater, some less => do
      world.truth call (← if derived then call less [left] [] else call greater [right] [])
    | some answer, none => do world.truth call (← call answer [right] [])
    | none, none => world.nativelyGreater (world.isGreater call depth) left right

/-- How deep values nest that are compared. -/
def nestingDepth : Nat := 1000

def sum (world : World) (call : Caller) (left right : Value) : Run Value :=
  match world.hook? left "__add__", world.hook? right "__radd__" with
  | some answer, _ => call answer [right] []
  | none, some answer => call answer [left] []
  | none, none => Run.ofExcept (Arithmetic.binary world "+" left right)

end World

end MemberThunks
