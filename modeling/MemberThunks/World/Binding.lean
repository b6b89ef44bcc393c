import MemberThunks.Entries
import MemberThunks.Text.Quoted
import MemberThunks.World.Routine

set_option autoImplicit false

/- Binding the arguments of a call to formal parameters. Positional arguments fill the
   positional formals in order; keyword arguments, taken in the order they are given,
   fill formals by name; what is left over goes to the variadic formals; defaults fill
   the rest. A fault in a keyword is found before one in the count of positional
   arguments, and that before a missing argument. -/
namespace MemberThunks

inductive BindingFault where
  | unexpectedKeyword (name : String)
  | positionalOnlyByKeyword (names : List String)
  | repeatedArgument (name : String)
  | tooManyPositional (accepted optional given byKeyword : Nat)
  | missingPositional (names : List String)
  | missingKeywordOnly (names : List String)
deriving DecidableEq

namespace BindingFault

def plural (count : Nat) : String := if count = 1 then "" else "s"

/-- Quoted names as a list in a sentence. -/
def listed (names : List String) : String :=
  match names.map Quoted.quote with
  | [] => ""
  | [only] => only
  | [first, second] => first ++ " and " ++ second
  | several => ", ".intercalate several.dropLast ++ ", and " ++ several.getLastD ""

def missing (sort : String) (names : List String) : String :=
  "missing " ++ toString names.length ++ " required " ++ sort ++ " argument" ++
    plural names.length ++ ": " ++ listed names

def tooMany (accepted optional given byKeyword : Nat) : String :=
  let limit :=
    if optional = 0 then toString accepted ++ " positional argument" ++ plural accepted
    else "from " ++ toString (accepted - optional) ++ " to " ++ toString accepted ++
      " positional arguments"
  let surplus :=
    if byKeyword = 0 then ""
    else " positional argument" ++ plural given ++ " (and " ++ toString byKeyword ++
      " keyword-only argument" ++ plural byKeyword ++ ")"
  let verb := if given = 1 && byKeyword = 0 then " was given" else " were given"
  "takes " ++ limit ++ " but " ++ toString given ++ surplus ++ verb

def message (callee : String) (fault : BindingFault) : String :=
  callee ++ "() " ++
    match fault with
    | unexpectedKeyword name => "got an unexpected keyword argument '" ++ name ++ "'"
    | positionalOnlyByKeyword names =>
      "got some positional-only arguments passed as keyword arguments: '" ++
        ", ".intercalate names ++ "'"
    | repeatedArgument name => "got multiple values for argument '" ++ name ++ "'"
    | tooManyPositional accepted optional given byKeyword =>
      tooMany accepted optional given byKeyword
    | missingPositional names => missing "positional" names
    | missingKeywordOnly names => missing "keyword-only" names

end BindingFault

namespace Binding

/-- What has been bound so far: formals by name, and keywords that match no formal. -/
structure Taken where
  named : Entries String Value
  surplus : Entries String Value

def positional (formals : List Formal) : List Formal :=
  formals.filter (·.kind.isPositional)

def has (formals : List Formal) (kind : FormalKind) : Bool :=
  formals.any (·.kind == kind)

def named (formals : List Formal) (kind : FormalKind) (name : String) : Bool :=
  formals.any fun formal => formal.kind == kind && formal.name == name

/-- The positional arguments that have a formal of their own. -/
def byPlace (formals : List Formal) (arguments : List Value) : Entries String Value :=
  ((positional formals).map (·.name)).zip arguments

/-- The positional-only formals that are given by keyword. -/
def clashing (formals : List Formal) (keywords : Entries String Value) : List String :=
  (formals.filter fun formal =>
    formal.kind == .positionalOnly && (keywords.lookup formal.name).isSome).map (·.name)

def takeKeyword (formals : List Formal) (keywords : Entries String Value) (taken : Taken)
    (keyword : String × Value) : Except BindingFault Taken :=
  if named formals .ordinary keyword.1 || named formals .keywordOnly keyword.1 then
    if (taken.named.lookup keyword.1).isSome then .error (.repeatedArgument keyword.1)
    else .ok { taken with named := taken.named ++ [keyword] }
  else if has formals .keywordVariadic then
    .ok { taken with surplus := taken.surplus ++ [keyword] }
  else
    match clashing formals keywords with
    | [] => .error (.unexpectedKeyword keyword.1)
    | names => .error (.positionalOnlyByKeyword names)

def takeKeywords (formals : List Formal) (keywords : Entries String Value) (taken : Taken) :
    Except BindingFault Taken :=
  keywords.foldlM (takeKeyword formals keywords) taken

/-- The formals of a kind that nothing fills. -/
def unfilled (formals : List Formal) (taken : Taken) (among : FormalKind → Bool) : List String :=
  (formals.filter fun formal =>
    among formal.kind && formal.default?.isNone && (taken.named.lookup formal.name).isNone).map
      (·.name)

def checkCount (formals : List Formal) (arguments : List Value) (taken : Taken) :
    Except BindingFault Unit :=
  let accepted := positional formals
  if arguments.length ≤ accepted.length || has formals .variadic then .ok ()
  else .error (.tooManyPositional accepted.length
    (accepted.filter (·.default?.isSome)).length arguments.length
    (formals.filter fun formal =>
      formal.kind == .keywordOnly && (taken.named.lookup formal.name).isSome).length)

def checkMissing (formals : List Formal) (taken : Taken) : Except BindingFault Unit :=
  match unfilled formals taken FormalKind.isPositional with
  | [] =>
    match unfilled formals taken (· == .keywordOnly) with
    | [] => .ok ()
    | names => .error (.missingKeywordOnly names)
  | names => .error (.missingPositional names)

/-- The value a formal is bound to once nothing is missing. -/
def fill (formals : List Formal) (arguments : List Value) (taken : Taken) (formal : Formal) :
    Value :=
  match formal.kind with
  | .variadic => .tuple (arguments.drop (positional formals).length)
  | .keywordVariadic => .dict (taken.surplus.map fun entry => (.text entry.1, entry.2))
  | _ => (taken.named.lookup formal.name).getD (formal.default?.getD .none)

/-- The values of all formals, in the order of their declaration. -/
def bind (formals : List Formal) (arguments : List Value) (keywords : Entries String Value) :
    Except BindingFault (Entries String Value) := do
  let taken ← takeKeywords formals keywords ⟨byPlace formals arguments, []⟩
  checkCount formals arguments taken
  checkMissing formals taken
  return formals.map fun formal => (formal.name, fill formals arguments taken formal)

end Binding

end MemberThunks
