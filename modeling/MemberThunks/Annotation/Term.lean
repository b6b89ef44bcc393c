import MemberThunks.Annotation.Token
import MemberThunks.World.Digits
import MemberThunks.World.Routine

set_option autoImplicit false

/- Terms: annotations that are read as expressions. Operators bind in the usual order,
   from alternatives, the loosest, to members, arguments and items, the tightest. -/
namespace MemberThunks.Annotation

/-- What the values of a gathering are given to, one by one. -/
inductive Target where
  | name (label : String)
  | several (targets : List Target)

deriving instance Inhabited for Target

/-- What a gathering makes of its values. -/
inductive Gathering where
  | list | set | dict
  /-- What gives its values when it is asked for them. -/
  | generator
deriving DecidableEq

mutual

inductive Term where
  | name (label : String)
  | literal (content : Value)
  /-- A text of parts, each of which is a text or a field. -/
  | formatted (parts : List Term)
  | field (operand : Term) (conversion : Option Char) (layout : List Term)
  | member (target : Term) (label : String)
  | item (target key : Term)
  | call (callee : Term) (arguments : List Term) (keywords : List (Option String × Term))
  | unary (sign : String) (operand : Term)
  | binary (sign : String) (left right : Term)
  /-- A chain of comparisons, each with its sign. -/
  | compare (first : Term) (rest : List (String × Term))
  | negation (operand : Term)
  | either (left right : Term)
  | both (left right : Term)
  | choice (condition whenTrue whenFalse : Term)
  | tuple (items : List Term)
  | list (items : List Term)
  | set (items : List Term)
  /-- Entries with their keys; what has none gives entries of its own. -/
  | dict (entries : List (Option Term × Term))
  | gathering (sort : Gathering) (element content : Term) (clauses : List Clause)
  /-- The items between two places of what a term stands for. -/
  | sliced (target : Term) (start stop step : Option Term)
  /-- Two places and a step as one of several keys. -/
  | slice (start stop step : Option Term)
  /-- The items of an operand, in a place for several. -/
  | starred (operand : Term)
  /-- A function without a name, whose formals may have defaults. -/
  | function (formals : List (String × FormalKind × Option Term)) (body : Term)

/-- The values that a gathering goes through, and which of them count. -/
inductive Clause where
  | over (target : Target) (source : Term) (conditions : List Term)

end

deriving instance Inhabited for Term
deriving instance Inhabited for Clause

def ellipsis : Value := .foreign (.other "" "ellipsis") "Ellipsis"

/-- The text of the machine number that some digits are nearest to. -/
def normalDigits (digits : String) : String := Digits.text (Magnitude.floatOf digits)

/-- A word that is a value. -/
def constant? (word : String) : Option Value :=
  match word with
  | "None" => some .none
  | "True" => some (.bool true)
  | "False" => some (.bool false)
  | _ => none

def isSign (symbol : String) (tokens : List Token) : Bool := tokens.head? == some (.sign symbol)

def isKeyword (word : String) (tokens : List Token) : Bool :=
  tokens.head? == some (.keyword word)

/-- The tokens after a sign that has to come next. -/
def after? (symbol : String) (tokens : List Token) : Option (List Token) :=
  if isSign symbol tokens then some (tokens.drop 1) else none

/-- The signs of operators with two operands, the tighter ones at higher levels. -/
def level? (symbol : String) : Option Nat :=
  match symbol with
  | "|" => some 1
  | "^" => some 2
  | "&" => some 3
  | "<<" | ">>" => some 4
  | "+" | "-" => some 5
  | "*" | "/" | "//" | "%" | "@" => some 6
  | _ => none

/-- The sign of a comparison at the beginning of some tokens. -/
def comparison? : List Token → Option (String × List Token)
  | .sign symbol :: rest =>
    if ["<", ">", "<=", ">=", "==", "!="].contains symbol then some (symbol, rest) else none
  | .keyword "in" :: rest => some ("in", rest)
  | .keyword "not" :: .keyword "in" :: rest => some ("not in", rest)
  | .keyword "is" :: .keyword "not" :: rest => some ("is not", rest)
  | .keyword "is" :: rest => some ("is", rest)
  | _ => none

/-- Literals of one kind that follow each other are one. -/
def joinPieces : List Token → List Piece × List Token
  | .text more :: rest =>
    let (pieces, after) := joinPieces rest
    (.plain more :: pieces, after)
  | .formatted found :: rest =>
    let (pieces, after) := joinPieces rest
    (found ++ pieces, after)
  | rest => ([], rest)

def joinOctets (content : List Nat) : List Token → List Nat × List Token
  | .octets more :: rest => joinOctets (content ++ more) rest
  | rest => (content, rest)

/-- The text of pieces that have no fields. -/
def plainText? : List Piece → Option String
  | [] => some ""
  | .plain content :: rest => (plainText? rest).map (content ++ ·)
  | .field _ _ _ :: _ => none

/-- Whether a literal of another kind follows, which cannot be joined. -/
def isLiteralAhead : List Token → Bool
  | .text _ :: _ | .octets _ :: _ | .formatted _ :: _ => true
  | _ => false

def isStarred : Term → Bool
  | .starred _ => true
  | _ => false

/-- One of the arguments of a call: by its place, by a name, or several by their names. -/
inductive Argument where
  | placed (term : Term)
  | named (label : String) (term : Term)
  | spread (term : Term)

namespace Argument

/-- Whether an argument may come after others. -/
def follows (seen : List Argument) : Argument → Bool
  | placed (.starred _) =>
    seen.all fun earlier =>
      match earlier with
      | spread _ => false
      | _ => true
  | placed _ =>
    seen.all fun earlier =>
      match earlier with
      | placed _ => true
      | _ => false
  | named label _ =>
    seen.all fun earlier =>
      match earlier with
      | named other _ => label != other
      | _ => true
  | spread _ => true

def areOrdered (seen : List Argument) : List Argument → Bool
  | [] => true
  | next :: rest => next.follows seen && areOrdered (next :: seen) rest

def placedTerm? : Argument → Option Term
  | placed term => some term
  | _ => none

def keyword? : Argument → Option (Option String × Term)
  | placed _ => none
  | named label term => some (some label, term)
  | spread term => some (none, term)

end Argument

/-- A call of a callee with arguments, if they are in order. -/
def callOf? (callee : Term) (arguments : List Argument) : Option Term :=
  if Argument.areOrdered [] arguments then
    some (.call callee (arguments.filterMap Argument.placedTerm?)
      (arguments.filterMap Argument.keyword?))
  else none

/-- A term that several make in a place for one: themselves, with commas between them. -/
def gathered? (items : List Term) (hasComma : Bool) : Option Term :=
  match items, hasComma with
  | [only], false => if isStarred only then none else some only
  | several, _ => some (.tuple several)

/-- An item of a target by one key or several. -/
def itemOf (target : Term) (keys : List Term) (hasComma : Bool) : Term :=
  match keys, hasComma with
  | [.slice start stop step], false => .sliced target start stop step
  | [only], false => .item target (if isStarred only then .tuple [only] else only)
  | several, _ => .item target (.tuple several)

/-- Whether a formal may come after others: each has a name of its own, none follows the last
one for keywords, and one without a default follows none with one. -/
def mayFollow (kind : FormalKind) (seen : List (String × FormalKind × Option Term))
    (label : String) (hasDefault : Bool) : Bool :=
  kind != .keywordVariadic && !(seen.any (·.1 = label)) &&
    (hasDefault || kind != .ordinary || seen.all (·.2.2.isNone))

mutual

/-- Reads a term. Every step goes down one level of the grammar. -/
def readTerm : Nat → List Token → Option (Term × List Token)
  | 0, _ => none
  | steps + 1, tokens =>
    if isKeyword "lambda" tokens then do
      let (formals, rest) ← readFormals steps .ordinary [] (tokens.drop 1)
      let (body, final) ← readTerm steps rest
      return (.function formals body, final)
    else do
      let (first, rest) ← readEither steps tokens
      if isKeyword "if" rest then
        let (condition, middle) ← readEither steps (rest.drop 1)
        if isKeyword "else" middle then
          let (other, final) ← readTerm steps (middle.drop 1)
          return (.choice condition first other, final)
        else none
      else return (first, rest)

/-- Reads the formals of a function without a name and the colon after them, given those
before and what kind the next is of. -/
def readFormals : Nat → FormalKind → List (String × FormalKind × Option Term) → List Token →
    Option (List (String × FormalKind × Option Term) × List Token)
  | 0, _, _, _ => none
  | steps + 1, kind, seen, tokens =>
    let next (kind : FormalKind) (seen : List (String × FormalKind × Option Term))
        (rest : List Token) : Option (List (String × FormalKind × Option Term) × List Token) :=
      match rest with
      | .sign ":" :: after => some (seen, after)
      | .sign "," :: after => readFormals steps kind seen after
      | _ => none
    match tokens with
    | .sign ":" :: rest => some (seen, rest)
    | .name label :: .sign "=" :: rest => do
      let (default, after) ← readTerm steps rest
      if mayFollow kind seen label true then next kind (seen ++ [(label, kind, some default)]) after
      else none
    | .name label :: rest =>
      if mayFollow kind seen label false then next kind (seen ++ [(label, kind, none)]) rest
      else none
    | .sign "*" :: .name label :: rest =>
      if kind = .ordinary && mayFollow kind seen label true then
        next .keywordOnly (seen ++ [(label, .variadic, none)]) rest
      else none
    | .sign "**" :: .name label :: rest =>
      if mayFollow kind seen label true then
        next .keywordVariadic (seen ++ [(label, .keywordVariadic, none)]) rest
      else none
    | .sign "*" :: .sign "," :: .name label :: rest =>
      if kind = .ordinary then readFormals steps .keywordOnly seen (.name label :: rest) else none
    | .sign "/" :: rest =>
      if kind = .ordinary && !seen.isEmpty && seen.all (·.2.1 = .ordinary) then
        next kind (seen.map fun formal => (formal.1, .positionalOnly, formal.2.2)) rest
      else none
    | _ => none

def readEither : Nat → List Token → Option (Term × List Token)
  | 0, _ => none
  | steps + 1, tokens => do
    let (first, rest) ← readBoth steps tokens
    if isKeyword "or" rest then
      let (second, final) ← readEither steps (rest.drop 1)
      return (.either first second, final)
    else return (first, rest)

def readBoth : Nat → List Token → Option (Term × List Token)
  | 0, _ => none
  | steps + 1, tokens => do
    let (first, rest) ← readNegation steps tokens
    if isKeyword "and" rest then
      let (second, final) ← readBoth steps (rest.drop 1)
      return (.both first second, final)
    else return (first, rest)

def readNegation : Nat → List Token → Option (Term × List Token)
  | 0, _ => none
  | steps + 1, tokens =>
    if isKeyword "not" tokens then do
      let (operand, rest) ← readNegation steps (tokens.drop 1)
      return (.negation operand, rest)
    else do
      let (first, rest) ← readBinary steps 1 tokens
      let (others, final) ← readComparisons steps rest
      return (if others.isEmpty then first else .compare first others, final)

def readComparisons : Nat → List Token → Option (List (String × Term) × List Token)
  | 0, _ => none
  | steps + 1, tokens =>
    match comparison? tokens with
    | none => some ([], tokens)
    | some (sign, rest) => do
      let (operand, next) ← readBinary steps 1 rest
      let (others, final) ← readComparisons steps next
      return ((sign, operand) :: others, final)

/-- Reads an operand and the operators of a level and above. -/
def readBinary : Nat → Nat → List Token → Option (Term × List Token)
  | 0, _, _ => none
  | steps + 1, level, tokens => do
    let (first, rest) ← readUnary steps tokens
    readOperators steps level first rest

def readOperators : Nat → Nat → Term → List Token → Option (Term × List Token)
  | 0, _, _, _ => none
  | steps + 1, level, left, tokens =>
    match tokens with
    | .sign symbol :: rest =>
      match level? symbol with
      | some own =>
        if level ≤ own then do
          let (right, next) ← readBinary steps (own + 1) rest
          readOperators steps level (.binary symbol left right) next
        else some (left, tokens)
      | none => some (left, tokens)
    | _ => some (left, tokens)

def readUnary : Nat → List Token → Option (Term × List Token)
  | 0, _ => none
  | steps + 1, tokens =>
    match tokens with
    | .sign "+" :: rest => do
      let (operand, final) ← readUnary steps rest
      return (.unary "+" operand, final)
    | .sign "-" :: rest => do
      let (operand, final) ← readUnary steps rest
      return (.unary "-" operand, final)
    | .sign "~" :: rest => do
      let (operand, final) ← readUnary steps rest
      return (.unary "~" operand, final)
    | _ => do
      let (first, rest) ← readAtom steps tokens
      let (base, next) ← readTrailers steps first rest
      if isSign "**" next then
        let (power, final) ← readUnary steps (next.drop 1)
        return (.binary "**" base power, final)
      else return (base, next)

def readAtom : Nat → List Token → Option (Term × List Token)
  | 0, _ => none
  | steps + 1, tokens =>
    match tokens with
    | .name label :: rest => some (.name label, rest)
    | .keyword word :: rest => (constant? word).map fun value => (.literal value, rest)
    | .whole value :: rest => some (.literal (.int value), rest)
    | .fraction digits :: rest => some (.literal (.float (normalDigits digits)), rest)
    | .imaginary digits :: rest =>
      some (.literal (.complex "0.0" (normalDigits digits)), rest)
    | .text _ :: _ | .formatted _ :: _ => do
      let (pieces, rest) := joinPieces tokens
      if isLiteralAhead rest then none
      else
        match plainText? pieces with
        | some content => return (.literal (.text content), rest)
        | none => return (.formatted (← readPieces steps pieces), rest)
    | .octets content :: rest =>
      let (whole, final) := joinOctets content rest
      if isLiteralAhead final then none else some (.literal (.octets whole), final)
    | .sign "..." :: rest => some (.literal ellipsis, rest)
    | .sign "(" :: rest =>
      if isSign ")" rest then some (.tuple [], rest.drop 1)
      else do
        let (items, hasComma, next) ← readItems steps rest
        if isKeyword "for" next then
          let (clauses, final) ← readClauses steps next
          match items, hasComma with
          | [element], false =>
            if isStarred element then none
            else
              return (.gathering .generator element (.literal .none) clauses, ← after? ")" final)
          | _, _ => none
        else return (← gathered? items hasComma, ← after? ")" next)
    | .sign "[" :: rest =>
      if isSign "]" rest then some (.list [], rest.drop 1)
      else do
        let (items, hasComma, next) ← readItems steps rest
        if isKeyword "for" next then
          let (clauses, final) ← readClauses steps next
          match items, hasComma with
          | [element], false =>
            if isStarred element then none
            else return (.gathering .list element (.literal .none) clauses, ← after? "]" final)
          | _, _ => none
        else return (.list items, ← after? "]" next)
    | .sign "\x7b" :: rest => readBraced steps rest
    | _ => none

/-- Reads the fields among the pieces of a text. -/
def readPieces : Nat → List Piece → Option (List Term)
  | 0, _ => none
  | _, [] => some []
  | steps + 1, .plain content :: rest => do
    return .literal (.text content) :: (← readPieces steps rest)
  | steps + 1, .field source conversion layout :: rest => do
    let tokens ← tokens? ("(" ++ source ++ ")")
    let (operand, final) ← readTerm steps tokens
    let laid ← pieces? true (2 * layout.length + 2) layout.toList
    if final.isEmpty then
      return .field operand conversion (← readPieces steps laid) :: (← readPieces steps rest)
    else none

/-- Reads the clauses of a gathering. -/
def readClauses : Nat → List Token → Option (List Clause × List Token)
  | 0, _ => none
  | steps + 1, tokens =>
    if isKeyword "for" tokens then do
      let (target, afterTarget) ← readTargets steps (tokens.drop 1)
      if isKeyword "in" afterTarget then
        let (source, afterSource) ← readEither steps (afterTarget.drop 1)
        let (conditions, next) ← readConditions steps afterSource
        let (others, final) ← readClauses steps next
        return (.over target source conditions :: others, final)
      else none
    else some ([], tokens)

def readConditions : Nat → List Token → Option (List Term × List Token)
  | 0, _ => none
  | steps + 1, tokens =>
    if isKeyword "if" tokens then do
      let (condition, next) ← readEither steps (tokens.drop 1)
      let (others, final) ← readConditions steps next
      return (condition :: others, final)
    else some ([], tokens)

/-- Reads one target, or several with commas between them. -/
def readTargets : Nat → List Token → Option (Target × List Token)
  | 0, _ => none
  | steps + 1, tokens => do
    let (first, rest) ← readTarget steps tokens
    if isSign "," rest then
      let (others, final) ← readMoreTargets steps (rest.drop 1)
      return (.several (first :: others), final)
    else return (first, rest)

def readMoreTargets : Nat → List Token → Option (List Target × List Token)
  | 0, _ => none
  | steps + 1, tokens =>
    match tokens with
    | .name _ :: _ | .sign "(" :: _ | .sign "[" :: _ => do
      let (first, rest) ← readTarget steps tokens
      if isSign "," rest then
        let (others, final) ← readMoreTargets steps (rest.drop 1)
        return (first :: others, final)
      else return ([first], rest)
    | _ => some ([], tokens)

def readTarget : Nat → List Token → Option (Target × List Token)
  | 0, _ => none
  | steps + 1, tokens =>
    match tokens with
    | .name label :: rest => some (.name label, rest)
    | .sign "(" :: rest => do
      let (target, next) ← readTargets steps rest
      return (target, ← after? ")" next)
    | .sign "[" :: rest => do
      let (target, next) ← readTargets steps rest
      return (target, ← after? "]" next)
    | _ => none

/-- Reads terms with commas between them, outside all brackets. -/
def readOpen : Nat → List Token → Option (List Term × Bool × List Token)
  | 0, _ => none
  | steps + 1, tokens => do
    let (first, rest) ← readTerm steps tokens
    if isSign "," rest then
      if (rest.drop 1).isEmpty then return ([first], true, [])
      else
        let (others, _, final) ← readOpen steps (rest.drop 1)
        return (first :: others, true, final)
    else return ([first], false, rest)

/-- Reads items with commas between them, and whether there was a comma. -/
def readItems : Nat → List Token → Option (List Term × Bool × List Token)
  | 0, _ => none
  | steps + 1, tokens => do
    let (first, rest) ← readItem steps tokens
    if isSign "," rest then
      match rest.drop 1 with
      | [] | .sign ")" :: _ | .sign "]" :: _ | .sign "\x7d" :: _ =>
        return ([first], true, rest.drop 1)
      | more =>
        let (others, _, final) ← readItems steps more
        return (first :: others, true, final)
    else return ([first], false, rest)

/-- Reads an item: a term, the items of one, or one that is given a name. -/
def readItem : Nat → List Token → Option (Term × List Token)
  | 0, _ => none
  | steps + 1, tokens =>
    match tokens with
    | .sign "*" :: rest => do
      let (operand, next) ← readBinary steps 1 rest
      return (.starred operand, next)
    | .name _ :: .sign ":=" :: rest => readTerm steps rest
    | _ => readTerm steps tokens

/-- Reads what stands in braces: a set, or entries with colons. -/
def readBraced : Nat → List Token → Option (Term × List Token)
  | 0, _ => none
  | steps + 1, tokens =>
    match tokens with
    | .sign "\x7d" :: rest => some (.dict [], rest)
    | .sign "**" :: _ => do
      let (entries, final) ← readEntries steps tokens
      return (.dict entries, final)
    | _ => do
      let (first, rest) ← readItem steps tokens
      if isSign ":" rest then
        let (content, next) ← readTerm steps (rest.drop 1)
        if isKeyword "for" next then
          let (clauses, final) ← readClauses steps next
          return (.gathering .dict first content clauses, ← after? "\x7d" final)
        else
          let (entries, final) ← readEntries steps tokens
          return (.dict entries, final)
      else if isKeyword "for" rest then
        let (clauses, final) ← readClauses steps rest
        if isStarred first then none
        else
          return (.gathering .set first (.literal .none) clauses, ← after? "\x7d" final)
      else
        let (items, _, next) ← readItems steps tokens
        return (.set items, ← after? "\x7d" next)

def readEntries : Nat → List Token → Option (List (Option Term × Term) × List Token)
  | 0, _ => none
  | steps + 1, tokens =>
    match tokens with
    | .sign "\x7d" :: rest => some ([], rest)
    | _ => do
      let (entry, next) ← readEntry steps tokens
      if isSign "," next then
        let (others, final) ← readEntries steps (next.drop 1)
        return (entry :: others, final)
      else return ([entry], ← after? "\x7d" next)

def readEntry : Nat → List Token → Option ((Option Term × Term) × List Token)
  | 0, _ => none
  | steps + 1, tokens =>
    match tokens with
    | .sign "**" :: rest => do
      let (entries, next) ← readBinary steps 1 rest
      return ((none, entries), next)
    | _ => do
      let (key, rest) ← readTerm steps tokens
      let (content, next) ← readTerm steps (← after? ":" rest)
      return ((some key, content), next)

/-- Reads the members, arguments and items after an atom. -/
def readTrailers : Nat → Term → List Token → Option (Term × List Token)
  | 0, _, _ => none
  | steps + 1, target, tokens =>
    match tokens with
    | .sign "." :: .name label :: rest => readTrailers steps (.member target label) rest
    | .sign "." :: _ => none
    | .sign "(" :: rest => do
      let (arguments, next) ← readArguments steps rest
      readTrailers steps (← callOf? target arguments) next
    | .sign "[" :: rest => do
      let (keys, hasComma, next) ← readKeys steps rest
      readTrailers steps (itemOf target keys hasComma) (← after? "]" next)
    | _ => some (target, tokens)

/-- Reads keys with commas between them. -/
def readKeys : Nat → List Token → Option (List Term × Bool × List Token)
  | 0, _ => none
  | steps + 1, tokens => do
    let (first, rest) ← readKey steps tokens
    if isSign "," rest then
      if isSign "]" (rest.drop 1) then return ([first], true, rest.drop 1)
      else
        let (others, _, final) ← readKeys steps (rest.drop 1)
        return (first :: others, true, final)
    else return ([first], false, rest)

/-- Reads a key: an item, or places with colons between them. -/
def readKey : Nat → List Token → Option (Term × List Token)
  | 0, _ => none
  | steps + 1, tokens => do
    let (start, rest) ←
      if isSign ":" tokens then some (none, tokens)
      else (readItem steps tokens).map fun read => (some read.1, read.2)
    match start, isSign ":" rest with
    | some only, false => return (only, rest)
    | _, _ => do
      let (stop, next) ← readPlace steps (rest.drop 1)
      if isSign ":" next then
        let (step, final) ← readPlace steps (next.drop 1)
        return (.slice start stop step, final)
      else return (.slice start stop none, next)

/-- Reads a place in a key, if one stands there. -/
def readPlace : Nat → List Token → Option (Option Term × List Token)
  | 0, _ => none
  | steps + 1, tokens =>
    match tokens with
    | .sign ":" :: _ | .sign "," :: _ | .sign "]" :: _ => some (none, tokens)
    | _ => (readTerm steps tokens).map fun read => (some read.1, read.2)

def readArguments : Nat → List Token → Option (List Argument × List Token)
  | 0, _ => none
  | steps + 1, tokens =>
    if isSign ")" tokens then some ([], tokens.drop 1)
    else do
      let (first, next) ← readArgument steps tokens
      if isKeyword "for" next then
        let (clauses, final) ← readClauses steps next
        match first with
        | .placed (.starred _) => none
        | .placed element =>
          return ([.placed (.gathering .generator element (.literal .none) clauses)],
            ← after? ")" final)
        | _ => none
      else if isSign "," next then
        let (others, final) ← readArguments steps (next.drop 1)
        return (first :: others, final)
      else return ([first], ← after? ")" next)

def readArgument : Nat → List Token → Option (Argument × List Token)
  | 0, _ => none
  | steps + 1, tokens =>
    match tokens with
    | .name label :: .sign "=" :: rest => do
      let (value, next) ← readTerm steps rest
      return (.named label value, next)
    | .sign "**" :: rest => do
      let (entries, next) ← readTerm steps rest
      return (.spread entries, next)
    | _ => do
      let (value, next) ← readItem steps tokens
      return (.placed value, next)

end

/-- How many levels of the grammar a text of some length can take. -/
def stepsFor (length : Nat) : Nat := 16 * (length + 4)

/-- The term that a text is, if it is one. A text that begins with a star stands for
what its operand gives first. -/
def term? (text : String) : Option Term := do
  let source := if text.startsWith "*" then "(" ++ text ++ ",)[0]" else text
  let (items, hasComma, rest) ← readOpen (stepsFor source.length) (← tokens? source)
  if rest.isEmpty then gathered? items hasComma else none

/-- Whether a text can be read as a term. -/
def isTerm (text : String) : Bool := (term? text).isSome

end MemberThunks.Annotation
