import MemberThunks.Text.Numeral
import MemberThunks.World.Item
import MemberThunks.World.SetOrder
import MemberThunks.World.Telling

set_option autoImplicit false

/- What built-in classes make of arguments. Numbers are made of numbers, of texts and of
   objects that say which number they are, texts of anything, and collections of what gives
   elements one by one. -/
namespace MemberThunks

/-- The arguments of a call, by position and by name. -/
structure Given where
  arguments : List Value
  keywords : Entries String Value

def Given.isEmpty (given : Given) : Bool := given.arguments.isEmpty && given.keywords.isEmpty

namespace Construction

def refuse {α : Type} (fault : ConstructionFault) : Run α := Run.fail (.construction fault)

/-- The only argument of a class that takes one at most, and none by name. -/
def only? (callee owner : String) (lenient : Bool) (given : Given) : Run (Option Value) :=
  if !given.keywords.isEmpty && !lenient then Run.fail (.noKeywords callee)
  else
    match given.arguments with
    | [] => pure none
    | [value] => pure (some value)
    | several => refuse (.expectedOne owner several.length)

/-- The arguments under some names, of which the first few can only be given by position. -/
def placed (callee : String) (nameless : Nat) (names : List String) (given : Given) :
    Run (List (Option Value)) := do
  let count := given.arguments.length + given.keywords.length
  if names.length < count then refuse (.takesAtMost callee names.length count)
  let known := names.drop nameless
  match given.keywords.find? fun entry => !known.contains entry.1 with
  | some entry => refuse (.unknownKeyword entry.1 callee)
  | none =>
    match (names.take given.arguments.length).zipIdx.find? fun entry =>
        (given.keywords.lookup entry.1).isSome with
    | some entry => refuse (.givenTwice callee entry.1 (entry.2 + 1))
    | none =>
      return names.zipIdx.map fun entry =>
        (given.arguments[entry.2]?).or (given.keywords.lookup entry.1)

/-- The whole number that an operation of an object gives. -/
def statedWhole (world : World) (call : Caller) (answer : Value) (operation wanted : String) :
    Run Int := do
  let given ← call answer [] []
  match given.whole? with
  | some number => return number
  | none => refuse (.gaveOther operation wanted (world.ownerName given))

/-- The whole number that something stands for where a whole number is needed. -/
def index (world : World) (call : Caller) (value : Value) : Run Int :=
  match value.whole?, world.hook? value "__index__" with
  | some number, _ => pure number
  | none, some answer => statedWhole world call answer "__index__" "int"
  | none, none => Run.fail (.notInteger (world.ownerName value))

/-- The first characters of what an object is written as. -/
def shownStart (world : World) (call : Caller) (value : Value) : Run String := do
  return String.ofList ((← world.writtenText call value).toList.take 200)

/-- The characters that octets stand for, one each. -/
def octetText (octets : List Nat) : String := String.ofList (octets.map Char.ofNat)

def wholeOfText (world : World) (call : Caller) (base : Nat) (value : Value) (content : String) :
    Run Value := do
  match Numeral.whole? base content with
  | some number => return .int number
  | none => refuse (.badWhole base (← shownStart world call value))

/-- The whole number of a number, without what stands behind the point. -/
def truncated (number : Float) : Run Value :=
  if number.isNaN then refuse .undefinedWhole
  else
    match Magnitude.ofBits number.toBits.toNat with
    | .finite mantissa exponent =>
      pure (.int (if 0 ≤ exponent then mantissa * Nat.shiftLeft 1 exponent.toNat
        else Int.tdiv mantissa (Nat.shiftLeft 1 (-exponent).toNat)))
    | .infinite _ => refuse .infiniteWhole

/-- The whole number of a value. -/
def whole (world : World) (call : Caller) (value : Value) : Run Value :=
  match world.hook? value "__int__", value.whole?, value.real? with
  | some answer, _, _ => Value.int <$> statedWhole world call answer "__int__" "int"
  | none, some number, _ => pure (.int number)
  | none, none, some number => truncated number
  | none, none, none =>
    match world.hook? value "__index__", world.hook? value "__trunc__", value.payload,
        value.octets? with
    | some answer, _, _, _ => Value.int <$> statedWhole world call answer "__index__" "int"
    | none, some answer, _, _ =>
      Value.int <$> statedWhole world call answer "__trunc__" "Integral"
    | none, none, .text content, _ => wholeOfText world call 10 value content
    | none, none, _, some octets => wholeOfText world call 10 value (octetText octets)
    | none, none, _, none => refuse (.notWhole (world.ownerName value))

/-- The whole number of digits to a base. -/
def wholeTo (world : World) (call : Caller) (value base : Value) : Run Value := do
  let radix ← index world call base
  if radix != 0 && (radix < 2 || 36 < radix) then refuse .badBase
  else
    match value.payload, value.octets? with
    | .text content, _ => wholeOfText world call radix.toNat value content
    | _, some octets => wholeOfText world call radix.toNat value (octetText octets)
    | _, none => refuse .baseForNumber

/-- The machine number that is nearest to what a text stands for. -/
def floatOf : Numeral.Real → Float
  | .pointed negative number =>
    let nearest := Magnitude.nearest number.whole number.fraction number.power
    if negative then -nearest else nearest
  | .infinite negative => if negative then -(1.0 / 0.0) else 1.0 / 0.0
  | .undefined => 0.0 / 0.0

def realOfText (world : World) (call : Caller) (value : Value) (content : String) : Run Value := do
  match Numeral.real? content with
  | some number => return Value.ofFloat (floatOf number)
  | none => refuse (.badReal (← world.writtenText call value))

/-- A whole number as a machine number, if one is near. -/
def realOfWhole (number : Int) : Run Value :=
  let nearest := Float.ofInt number
  if nearest.isInf then refuse .tooLarge else pure (Value.ofFloat nearest)

/-- The machine number that an object says it is. -/
def statedReal (world : World) (call : Caller) (value answer : Value) : Run Value := do
  let given ← call answer [] []
  match given.payload with
  | .float digits => return .float digits
  | .nan mark => return .nan mark
  | _ => refuse (.gaveNoReal (world.ownerName value) (world.ownerName given))

/-- The machine number of a value that stands for one, if it stands for one. -/
def number? (world : World) (call : Caller) (value : Value) : Option (Run Value) :=
  match world.hook? value "__float__", value.whole?, value.payload,
      world.hook? value "__index__" with
  | some answer, _, _, _ => some (statedReal world call value answer)
  | none, some number, _, _ => some (realOfWhole number)
  | none, none, .float digits, _ => some (pure (.float digits))
  | none, none, .nan mark, _ => some (pure (.nan mark))
  | none, none, _, some answer =>
    some (statedWhole world call answer "__index__" "int" >>= realOfWhole)
  | none, none, _, none => none

def real (world : World) (call : Caller) (value : Value) : Run Value :=
  match number? world call value, value.payload, value.octets? with
  | some found, _, _ => found
  | none, .text content, _ => realOfText world call value content
  | none, _, some octets => realOfText world call value (octetText octets)
  | none, _, none => refuse (.notReal (world.ownerName value))

/-- The parts of a complex number that a text of one part stands for. -/
def complexOfPart? (chars : List Char) : Option (Float × Float) :=
  match chars.reverse with
  | 'j' :: rest | 'J' :: rest =>
    match rest.reverse with
    | [] | ['+'] => some (0.0, 1.0)
    | ['-'] => some (-0.0, -1.0)
    | digits => (Numeral.realOfChars? digits).map fun number => (0.0, floatOf number)
  | _ => (Numeral.realOfChars? chars).map fun number => (floatOf number, 0.0)

/-- The places at which the second part of a complex number may begin. -/
def splits (chars : List Char) : List (List Char × List Char) :=
  (List.range chars.length).filterMap fun place =>
    let (first, second) := (chars.take place, chars.drop place)
    match second.head?, first.getLast? with
    | some sign, some before =>
      if (sign = '+' || sign = '-') && before != 'e' && before != 'E' then some (first, second)
      else none
    | _, _ => none

/-- The parts of the complex number that a text stands for. -/
def complexOfText? (content : String) : Option (Float × Float) :=
  let chars := Numeral.trimmed content.toList
  let bare :=
    match chars with
    | '(' :: rest =>
      if rest.getLast? = some ')' then Numeral.trimmed rest.dropLast else chars
    | _ => chars
  (complexOfPart? bare).or <| (splits bare).findSome? fun parts =>
    match Numeral.realOfChars? parts.1, parts.2.getLast? with
    | some first, some last =>
      if last = 'j' || last = 'J' then
        (complexOfPart? parts.2).map fun second => (floatOf first, second.2)
      else none
    | _, _ => none

/-- The parts of a value that stands for a complex number. -/
def parts (world : World) (call : Caller) (fault : String → ConstructionFault) (value : Value) :
    Run (Float × Float) :=
  match value.payload, number? world call value with
  | .complex real imaginary, _ => pure (Magnitude.floatOf real, Magnitude.floatOf imaginary)
  | _, some found => do return ((← found).real?.getD 0.0, 0.0)
  | _, none => refuse (fault (world.ownerName value))

def complex (world : World) (call : Caller) (first second : Option Value) : Run Value :=
  match first.map Value.payload, second.map Value.payload with
  | some (.text _), some _ => refuse .imaginaryAfterText
  | some (.text content), none =>
    match complexOfText? content with
    | some (real, imaginary) => pure (Value.ofParts real imaginary)
    | none => refuse .badComplex
  | _, some (.text _) => refuse .imaginaryText
  | _, _ => do
    let (real, imaginary) ← parts world call .notComplex (first.getD (.int 0))
    match second with
    | none => return Value.ofParts real imaginary
    | some other => do
      let (real', imaginary') ← parts world call .notImaginary other
      return Value.ofParts (real - imaginary') (imaginary + real')

/-- What tells how a text is written, which has to be a text. -/
def nameOf (world : World) (callee name : String) : Option Value → Run (Option String)
  | none => pure none
  | some value =>
    match value.payload with
    | .text content => pure (some content)
    | _ => refuse (.notName callee name (world.ownerName value))

def isWide (encoding : String) : Bool := ["utf-8", "utf8", "UTF-8"].contains encoding
def isNarrow (encoding : String) : Bool :=
  ["ascii", "us-ascii", "latin-1", "latin1", "iso-8859-1"].contains encoding

/-- The text that octets are written for. -/
def decoded (encoding : String) (octets : List Nat) : Run Value :=
  if isWide encoding then
    match String.fromUTF8? (ByteArray.mk (octets.map UInt8.ofNat).toArray) with
    | some content => pure (.text content)
    | none => refuse (.unknownEncoding encoding)
  else if isNarrow encoding then pure (.text (octetText octets))
  else refuse (.unknownEncoding encoding)

/-- The octets that a text is written as. -/
def encoded (encoding content : String) : Run (List Nat) :=
  if isWide encoding then pure (content.toUTF8.toList.map UInt8.toNat)
  else if isNarrow encoding then pure (content.toList.map Char.toNat)
  else refuse (.unknownEncoding encoding)

def text (world : World) (call : Caller) (given : Given) : Run Value := do
  match ← placed "str" 0 ["object", "encoding", "errors"] given with
  | [value, encoding, errors] =>
    let writing ← nameOf world "str" "encoding" encoding
    let handling ← nameOf world "str" "errors" errors
    match value with
    | none => return .text ""
    | some value =>
      if writing.isNone && handling.isNone then return .text (← world.plainText call value)
      else
        match value.payload, value.octets? with
        | _, some octets => decoded (writing.getD "utf-8") octets
        | .text _, none => refuse .decodedText
        | _, none => refuse (.notDecoded (world.ownerName value))
  | _ => return .text ""

/-- The octets of elements that each are one. -/
def octetsOf (world : World) (call : Caller) (subject : String) (items : List Value) :
    Run (List Nat) :=
  items.mapM fun item => do
    let number ← index world call item
    if 0 ≤ number && number < 256 then return number.toNat else refuse (.octetRange subject)

/-- Whether something gives elements one by one. -/
def isIterable (world : World) (value : Value) : Bool :=
  (world.hook? value "__iter__").isSome || (world.nativeElements? value).isSome ||
    (world.hook? value "__getitem__").isSome

/-- The octets that a class of octets makes of something. -/
def octets (world : World) (call : Caller) (callee : String) (given : Given) :
    Run (List Nat) := do
  match ← placed callee 0 ["source", "encoding", "errors"] given with
  | [value, encoding, errors] =>
    let writing ← nameOf world callee "encoding" encoding
    let handling ← nameOf world callee "errors" errors
    match value.map Value.payload, value, writing with
    | some (.text content), _, some name => encoded name content
    | some (.text _), _, none => refuse .noEncoding
    | none, _, none | none, _, some _ =>
      if writing.isSome then refuse (.noTextFor "encoding")
      else if handling.isSome then refuse (.noTextFor "errors")
      else return []
    | some _, some source, none =>
      if handling.isSome then refuse (.noTextFor "errors")
      else
        match source.octets?, source.whole?, world.hook? source "__index__" with
        | some octets, _, _ => return octets
        | none, some count, _ =>
          if count < 0 then refuse .negativeCount else return List.replicate count.toNat 0
        | none, none, some _ =>
          let count ← index world call source
          if count < 0 then refuse .negativeCount else return List.replicate count.toNat 0
        | none, none, none =>
          if isIterable world source then do
            octetsOf world call (if callee = "bytes" then "bytes" else "byte")
              (← world.elements call source)
          else refuse (.notOctets (world.ownerName source) callee)
    | some _, _, some _ => refuse (.noTextFor "encoding")
    | some _, none, none => return []
  | _ => return []

/-- Elements that all have a hash, each once. -/
def distinct (world : World) (items : List Value) : Run (List Value) := do
  items.forM fun item => Run.ofExcept (world.checkKey item)
  return Value.elementsOf items

/-- An element of a dictionary as a key with its value. -/
def pairOf (world : World) (call : Caller) (item : Value) (place : Nat) : Run (Value × Value) := do
  if !isIterable world item then refuse (.notPair place)
  else
    match ← world.elements call item with
    | [key, content] => return (key, content)
    | other => refuse (.wrongPair place other.length)

def entries (world : World) (call : Caller) (value : Value) : Run (List (Value × Value)) := do
  match value.payload with
  | .dict found => return found
  | _ =>
    let items ← world.elements call value
    items.zipIdx.mapM fun item => do
      let (key, content) ← pairOf world call item.1 item.2
      Run.ofExcept (world.checkKey key)
      return (key, content)

def dictionary (world : World) (call : Caller) (given : Given) : Run Value := do
  let listed ←
    match given.arguments with
    | [] => pure []
    | [value] => entries world call value
    | several => refuse (.expectedOne "dict" several.length)
  let named := given.keywords.map fun entry => (Value.text entry.1, entry.2)
  return .dict (Value.distinctEntries (listed ++ named))

/-- The elements of the only argument, if there is one. -/
def gathered (world : World) (call : Caller) (value : Option Value) : Run (List Value) :=
  match value with
  | none => pure []
  | some value => world.elements call value

/-- What a built-in class with contents makes of arguments for a class that goes by a name.
Where that class has an initializer of its own, keywords are left to it. -/
def content? (world : World) (call : Caller) (kind : Builtin) (owner : String) (lenient : Bool)
    (given : Given) : Option (Run Value) :=
  let single (shown : String) : Run (Option Value) := only? kind.qualname shown lenient given
  match kind with
  | .bool => some do
    match ← single "bool" with
    | none => return .bool false
    | some value => return .bool (← world.truth call value)
  | .int => some do
    match ← placed "int" 1 ["x", "base"] given with
    | [some value, some base] => wholeTo world call value base
    | [none, some _] => refuse .noDigits
    | [some value, none] => whole world call value
    | _ => return .int 0
  | .float => some do
    match ← single "float" with
    | none => return .float "0.0"
    | some value => real world call value
  | .complex => some do
    match ← placed "complex" 0 ["real", "imag"] given with
    | [first, second] => complex world call first second
    | _ => return .complex "0.0" "0.0"
  | .str => some (text world call given)
  | .bytes => some (Value.octets <$> octets world call "bytes" given)
  | .bytearray => some (Value.buffer <$> octets world call "bytearray" given)
  | .list => some do return .list (← gathered world call (← single "list"))
  | .tuple => some do return .tuple (← gathered world call (← single "tuple"))
  | .set => some do
    return .set (← distinct world (← gathered world call (← single owner)))
  | .frozenset => some do
    return .frozenset (← distinct world (← gathered world call (← single owner)))
  | .dict => some (dictionary world call given)
  | .noneType => some do
    if given.isEmpty then return .none
    else refuse (.takesNone "NoneType")
  | .type => some do
    match given.arguments with
    | [value] =>
      if given.keywords.isEmpty then return .cls value.typeOf
      else Run.fail (.noKeywords "type")
    | _ => refuse .classArity
  | _ => none

/-- Whether a class fills its instances only after it has made them. -/
def fillsLater (kind : Builtin) : Bool :=
  [Builtin.list, .dict, .set, .bytearray].contains kind

end Construction

end MemberThunks
