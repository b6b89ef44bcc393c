import MemberThunks.World.Magnitude
import MemberThunks.World.Value

set_option autoImplicit false

/- When two values are equal and when two declared types are the same type. Unions are
   compared as sets of members, whichever way they are spelled, and literal types as sets
   of values, each with its class; a type parameter is known by its name, and an alias made by
   `newType` by its name and what it stands for; all else is compared part by part. Literal
   types that list values without a hash cannot be compared unless they are one. -/
namespace MemberThunks

/-- The number that a value is, whatever its class. -/
def Value.magnitude? (value : Value) : Option Magnitude :=
  match value.payload with
  | .bool truth => some (.ofInt (if truth then 1 else 0))
  | .int number => some (.ofInt number)
  | .float digits => some (.ofDigits digits)
  | .complex real imaginary =>
    if (Magnitude.ofDigits imaginary).isZero then some (.ofDigits real) else Option.none
  | _ => Option.none

def Value.hasMagnitude (magnitude : Magnitude) (value : Value) : Bool :=
  value.magnitude?.any magnitude.equal

/-- Whether a value is the complex number of two parts. -/
def Value.isComplex (real imaginary : String) (value : Value) : Bool :=
  if (Magnitude.ofDigits imaginary).isZero then value.hasMagnitude (.ofDigits real)
  else
    match value.payload with
    | .complex other rest =>
      (Magnitude.ofDigits real).equal (.ofDigits other) &&
        (Magnitude.ofDigits imaginary).equal (.ofDigits rest)
    | _ => false

def Value.isText (content : String) (value : Value) : Bool :=
  match value.payload with
  | .text other => content == other
  | _ => false

def Value.isOctets (content : List Nat) (value : Value) : Bool :=
  match value.payload with
  | .octets other | .buffer other => content == other
  | _ => false

def Value.isMarked (mark : Nat) (value : Value) : Bool :=
  match value.payload with
  | .nan other => mark == other
  | _ => false

/-- Whether two values are one by their addresses. -/
def Value.sameAddress (address : Nat) (value : Value) : Bool := value.address? == some address

mutual

/-- Numbers and texts are compared by what they are, whatever their classes; objects
without contents are themselves only. -/
def Value.equal : Value → Value → Bool
  | .none, right => right.isNone
  | .bool truth, right => right.hasMagnitude (.ofInt (if truth then 1 else 0))
  | .int number, right => right.hasMagnitude (.ofInt number)
  | .float digits, right => right.hasMagnitude (.ofDigits digits)
  | .nan mark, right => right.isMarked mark
  | .complex real imaginary, right => right.isComplex real imaginary
  | .text content, right => right.isText content
  | .octets content, right | .buffer content, right => right.isOctets content
  | .list left, right =>
    match right.payload with
    | .list items => Value.equalAll left items
    | _ => false
  | .tuple left, right =>
    match right.payload with
    | .tuple items => Value.equalAll left items
    | _ => false
  | .set left, right | .frozenset left, right =>
    match right.payload with
    | .set items | .frozenset items => Value.within left items && items.all (Value.anyEqual left)
    | _ => false
  | .dict left, right =>
    match right.payload with
    | .dict entries => left.length == entries.length && Value.entriesWithin left entries
    | _ => false
  | .object address _, right => right.sameAddress address
  | .wrapped address _ content, right => right.sameAddress address || content.equal right
  | .enumMember address (.enumeration _ true) _ content, right =>
    right.sameAddress address || content.equal right
  | .enumMember address _ _ _, right => right.sameAddress address
  | .cls left, .cls right => left == right
  | .function left _, .function right _ => left == right
  | .callable left _, .callable right _ => left == right
  | .native left, .native right => left == right
  | .bound receiver callee, .bound receiver' callee' =>
    receiver.equal receiver' && callee.equal callee'
  | .form left, .form right => left.equal right
  | .foreign left shown, .foreign right shown' => left == right && shown == shown'
  | .holder left shown _, .holder right shown' _ => left == right && shown == shown'
  | _, _ => false
termination_by structural left => left

def Value.equalAll : List Value → List Value → Bool
  | [], [] => true
  | left :: lefts, right :: rights => left.equal right && Value.equalAll lefts rights
  | _, _ => false
termination_by structural lefts => lefts

/-- Each of the first values equals one of the second. -/
def Value.within : List Value → List Value → Bool
  | [], _ => true
  | left :: lefts, rights => rights.any left.equal && Value.within lefts rights
termination_by structural lefts => lefts

def Value.anyEqual : List Value → Value → Bool
  | [], _ => false
  | left :: lefts, right => left.equal right || Value.anyEqual lefts right
termination_by structural lefts => lefts

/-- Each of the first entries equals one of the second. -/
def Value.entriesWithin : List (Value × Value) → List (Value × Value) → Bool
  | [], _ => true
  | (key, value) :: lefts, rights =>
    (rights.any fun right => key.equal right.1 && value.equal right.2) &&
      Value.entriesWithin lefts rights
termination_by structural lefts => lefts

/-- Each of the first values equals one of the second that has the same class. -/
def Value.literallyWithin : List Value → List Value → Bool
  | [], _ => true
  | left :: lefts, rights =>
    (rights.any fun right => left.typeOf == right.typeOf && left.equal right) &&
      Value.literallyWithin lefts rights
termination_by structural lefts => lefts

def Value.anyLiterallyEqual : List Value → Value → Bool
  | [], _ => false
  | left :: lefts, right =>
    (left.typeOf == right.typeOf && left.equal right) || Value.anyLiterallyEqual lefts right
termination_by structural lefts => lefts

def TypeForm.equal : TypeForm → TypeForm → Bool
  | .cls left, .cls right => left == right
  | .none, .none => true
  | .special left, .special right => left == right
  | .shorthand left origin, .shorthand right origin' => left == right && origin == origin'
  | .union _ left, .union _ right =>
    TypeForm.within left right && right.all (TypeForm.anyEqual left)
  | .generic head origin arguments, .generic head' origin' arguments' =>
    origin == origin' && head == head' && TypeForm.equalAll arguments arguments'
  | .callable parameters result, .callable parameters' result' =>
    TypeForm.equalAll parameters parameters' && result.equal result'
  | .annotated base metadata, .annotated base' metadata' =>
    base.equal base' && Value.equalAll metadata metadata'
  | .newType left base, .newType right base' => left == right && base.equal base'
  | .literal left mark, .literal right mark' =>
    (mark == mark' && mark != 0) ||
      (Value.literallyWithin left right && right.all (Value.anyLiterallyEqual left))
  | .parameter left _ shared, .parameter right _ shared' => left == right && shared == shared'
  | .text left, .text right => left == right
  | .forward left, .forward right => left == right
  | .classVar left, .classVar right | .final left, .final right => left.equal right
  | .value left, .value right => left.equal right
  | _, _ => false
termination_by structural left => left

def TypeForm.equalAll : List TypeForm → List TypeForm → Bool
  | [], [] => true
  | left :: lefts, right :: rights => left.equal right && TypeForm.equalAll lefts rights
  | _, _ => false
termination_by structural lefts => lefts

def TypeForm.within : List TypeForm → List TypeForm → Bool
  | [], _ => true
  | left :: lefts, rights => rights.any left.equal && TypeForm.within lefts rights
termination_by structural lefts => lefts

def TypeForm.anyEqual : List TypeForm → TypeForm → Bool
  | [], _ => false
  | left :: lefts, right => left.equal right || TypeForm.anyEqual lefts right
termination_by structural lefts => lefts

end

/-- Keeps the first of equal values. -/
def Value.distinct (values : List Value) : List Value :=
  values.foldl (fun kept value => if Value.anyEqual kept value then kept else kept ++ [value]) []

/-- Adds an entry to a dictionary, or gives the equal key that it has another value. -/
def Value.putEntry (entries : List (Value × Value)) (entry : Value × Value) :
    List (Value × Value) :=
  if entries.any fun other => other.1.equal entry.1 then
    entries.map fun other => if other.1.equal entry.1 then (other.1, entry.2) else other
  else entries ++ [entry]

/-- Keeps the first of equal keys, with the last of their values. -/
def Value.distinctEntries (entries : List (Value × Value)) : List (Value × Value) :=
  entries.foldl Value.putEntry []

/-- Whether a value is an enumeration member with the given content. -/
def Value.holds (content : Value) : Value → Bool
  | .enumMember _ _ _ own => own.equal content
  | _ => false

end MemberThunks
