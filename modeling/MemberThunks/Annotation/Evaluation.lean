import MemberThunks.Annotation.Routine
import MemberThunks.Annotation.Term
import MemberThunks.World.Binding

set_option autoImplicit false

/- What terms stand for. A name stands for what the place of the annotation knows under
   it; all else is evaluated from left to right. The values that a gathering goes through
   have names of their own. -/
namespace MemberThunks.Annotation

/-- What the names of an annotation stand for, at the top of it and inside what a gathering
goes through. -/
structure Names where
  outer : String → Option Value
  inner : String → Option Value

namespace Names

def uniform (known : String → Option Value) : Names := ⟨known, known⟩

/-- The names inside a gathering. -/
def within (names : Names) : Names := ⟨names.inner, names.inner⟩

def bind (names : Names) (label : String) (value : Value) : Names :=
  uniform fun query => if query = label then some value else names.inner query

end Names

mutual

/-- The names once some value is given to a target. -/
def Target.assign (world : World) (caller : Caller) (names : Names) (value : Value) :
    Target → Run Names
  | .name label => pure (names.bind label value)
  | .several targets => do
    let items ← world.elements caller value
    if items.length < targets.length then
      Run.fail (.user .valueFault ("not enough values to unpack (expected " ++
        toString targets.length ++ ", got " ++ toString items.length ++ ")"))
    else if targets.length < items.length then
      Run.fail (.user .valueFault ("too many values to unpack (expected " ++
        toString targets.length ++ ")"))
    else Target.assignAll world caller names items targets
termination_by structural target => target

def Target.assignAll (world : World) (caller : Caller) (names : Names) (values : List Value) :
    List Target → Run Names
  | [] => pure names
  | target :: rest => do
    let bound ← Target.assign world caller names (values.head?.getD .none) target
    Target.assignAll world caller bound (values.drop 1) rest
termination_by structural targets => targets

end

namespace Term

/-- The values of a set, each once, all of which have to have a hash. -/
def setOf (world : World) (items : List Value) : Except Raised Value := do
  items.forM world.checkKey
  return .set (Value.elementsOf items)

def dictOf (world : World) (entries : List (Value × Value)) : Except Raised Value := do
  entries.forM fun entry => world.checkKey entry.1
  return .dict (Value.distinctEntries entries)

/-- The entries of a value in the place of several entries. -/
def entriesOf (world : World) (value : Value) : Except Raised (List (Value × Value)) :=
  match value.payload with
  | .dict entries => .ok entries
  | _ => .error (.notMapping (world.ownerName value))

def namedEntriesOf (world : World) (value : Value) : Except Raised (Entries String Value) := do
  let entries ← entriesOf world value
  entries.mapM fun entry =>
    match entry.1.payload with
    | .text label => .ok (label, entry.2)
    | _ => .error (.user .typeFault "keywords must be strings")

/-- Arguments by name, each of which is given once. -/
def distinctNames (given : Entries String Value) : Except Raised (Entries String Value) :=
  given.foldlM (fun kept entry =>
    if (kept.lookup entry.1).isSome then
      .error (.user .typeFault ("got multiple values for keyword argument '" ++ entry.1 ++ "'"))
    else .ok (kept ++ [entry])) []

/-- What a function without a name is called. -/
def namelessTitle : String := "<lambda>"

/-- What a generator is. -/
def generator : Value := .foreign (.other "" "generator") "<generator object <genexpr>>"

/-- Whether what is called takes all values of a generator at once. -/
def takesAll : Value → Bool
  | .cls (.builtin kind) =>
    [Builtin.list, .tuple, .set, .frozenset, .dict, .bytes, .bytearray].contains kind
  | .native .max => true
  | called => called.routinePath?.any fun name => ["min", "sum", "any", "all", "sorted"].contains name

/-- A call of a value, which may be a routine of the language. -/
def callOf (world : World) (caller : Caller) (called : Value) (arguments : List Value)
    (keywords : Entries String Value) : Run Value :=
  match called, keywords with
  | .foreign (.other "" "builtin_function_or_method") _, [] =>
    match called.routinePath?.bind fun name => Routine.given? world caller name arguments with
    | some outcome => outcome
    | none => caller called arguments keywords
  | _, _ => caller called arguments keywords

/-- What a gathering makes of what its element gives, for all that it goes through. -/
def gather (world : World) (sort : Gathering) (given : List (Value × Value)) :
    Except Raised Value :=
  match sort with
  | .list => .ok (.list (given.map (·.1)))
  | .set => setOf world (given.map (·.1))
  | .dict => dictOf world given
  | .generator => .ok generator

mutual

/-- What a term stands for. A generator may be asked for all its values at once. -/
def evaluate (world : World) (caller : Caller) (names : Names) (atOnce : Bool) :
    Term → Run Value
  | name label =>
    match names.outer label with
    | some value => pure value
    | none => Run.fail (.unknownName label)
  | literal content => pure content
  | formatted parts => do
    return .text (← evaluateTexts world caller names parts)
  | field operand conversion layout => do
    let value ← evaluate world caller names false operand
    let laid ← evaluateTexts world caller names layout
    match conversion with
    | none => return .text (← world.formatted caller value laid)
    | some kind => do
      let shown ← Operation.convertedText world caller kind value
      return .text (← world.formatted caller (.text shown) laid)
  | member target label => do
    let value ← evaluate world caller names false target
    world.normalGet caller value label
  | item target key => do
    let container ← evaluate world caller names false target
    let key ← evaluate world caller names false key
    world.item caller container key
  | sliced target start stop step => do
    let container ← evaluate world caller names false target
    let first ← evaluatePlace world caller names start
    let last ← evaluatePlace world caller names stop
    let stride ← evaluatePlace world caller names step
    match world.hook? container "__getitem__",
        Operation.sliced? container first last stride with
    | none, some outcome => Run.ofExcept outcome
    | _, _ => world.item caller container (Operation.slice world first last stride)
  | call (.function formals body) arguments keywords => do
    let formals ← evaluateFormals world caller names formals
    let values ← evaluateAll world caller names false arguments
    let named ← evaluateKeywords world caller names keywords
    match Binding.bind formals values (← Run.ofExcept (distinctNames named)) with
    | .error fault => Run.fail (.binding namelessTitle fault)
    | .ok bound =>
      evaluate world caller (bound.foldl (fun names entry => names.bind entry.1 entry.2) names.within)
        false body
  | call callee arguments keywords => do
    let called ← evaluate world caller names false callee
    let values ← evaluateAll world caller names (takesAll called) arguments
    let named ← Run.ofExcept (distinctNames (← evaluateKeywords world caller names keywords))
    callOf world caller called values named
  | unary sign operand => do
    let value ← evaluate world caller names false operand
    Operation.unary world caller sign value
  | binary sign left right => do
    let first ← evaluate world caller names false left
    let second ← evaluate world caller names false right
    Operation.apply world caller sign first second
  | compare first rest => do
    let value ← evaluate world caller names false first
    return .bool (← evaluateChain world caller names value rest)
  | negation operand => do
    let value ← evaluate world caller names false operand
    return .bool !(← world.truth caller value)
  | either left right => do
    let first ← evaluate world caller names false left
    if ← world.truth caller first then return first
    else evaluate world caller names false right
  | both left right => do
    let first ← evaluate world caller names false left
    if ← world.truth caller first then evaluate world caller names false right
    else return first
  | choice condition whenTrue whenFalse => do
    let decision ← evaluate world caller names false condition
    if ← world.truth caller decision then evaluate world caller names false whenTrue
    else evaluate world caller names false whenFalse
  | tuple items => do return .tuple (← evaluateAll world caller names false items)
  | list items => do return .list (← evaluateAll world caller names false items)
  | set items => do
    let values ← evaluateAll world caller names false items
    Run.ofExcept (setOf world values)
  | dict entries => do
    let found ← evaluateEntries world caller names entries
    Run.ofExcept (dictOf world found)
  | gathering sort element content clauses => do
    let given ← evaluateClauses world caller names (atOnce || sort != .generator)
      (fun inner => evaluate world caller inner false element)
      (fun inner => evaluate world caller inner false content) clauses
    Run.ofExcept (gather world (if atOnce && sort = .generator then .list else sort) given)
  | slice start stop step => do
    let first ← evaluatePlace world caller names start
    let last ← evaluatePlace world caller names stop
    let stride ← evaluatePlace world caller names step
    return Operation.slice world first last stride
  | starred operand => evaluate world caller names false operand
  | function formals _ => do
    let _ ← evaluateFormals world caller names formals
    return .foreign (.other "" "function") ("<function " ++ namelessTitle ++ ">")
termination_by structural term => term

/-- The formals of a function with the defaults that it is made with. -/
def evaluateFormals (world : World) (caller : Caller) (names : Names) :
    List (String × FormalKind × Option Term) → Run (List Formal)
  | [] => pure []
  | (label, kind, default) :: rest => do
    let default ← evaluateOptional world caller names default
    return ⟨label, kind, none, default⟩ :: (← evaluateFormals world caller names rest)
termination_by structural formals => formals

def evaluateOptional (world : World) (caller : Caller) (names : Names) :
    Option Term → Run (Option Value)
  | none => pure none
  | some term => do return some (← evaluate world caller names false term)
termination_by structural term => term

/-- A bound of a slice; None where there is none. -/
def evaluatePlace (world : World) (caller : Caller) (names : Names) : Option Term → Run Value
  | none => pure .none
  | some place => evaluate world caller names false place
termination_by structural place => place

/-- The texts of several terms as one. -/
def evaluateTexts (world : World) (caller : Caller) (names : Names) : List Term → Run String
  | [] => pure ""
  | first :: rest => do
    let value ← evaluate world caller names false first
    let others ← evaluateTexts world caller names rest
    match value with
    | .text content => return content ++ others
    | _ => return others
termination_by structural terms => terms

/-- The values of several terms, a starred one giving all its elements. -/
def evaluateAll (world : World) (caller : Caller) (names : Names) (atOnce : Bool) :
    List Term → Run (List Value)
  | [] => pure []
  | first :: rest => do
    let value ← evaluate world caller names atOnce first
    let values ← if isStarred first then world.elements caller value else pure [value]
    return values ++ (← evaluateAll world caller names atOnce rest)
termination_by structural terms => terms

def evaluateEntries (world : World) (caller : Caller) (names : Names) :
    List (Option Term × Term) → Run (List (Value × Value))
  | [] => pure []
  | (key, content) :: rest => do
    match key with
    | none => do
      let value ← evaluate world caller names false content
      let entries ← Run.ofExcept (entriesOf world value)
      return entries ++ (← evaluateEntries world caller names rest)
    | some key => do
      let label ← evaluate world caller names false key
      let value ← evaluate world caller names false content
      return (label, value) :: (← evaluateEntries world caller names rest)
termination_by structural entries => entries

def evaluateKeywords (world : World) (caller : Caller) (names : Names) :
    List (Option String × Term) → Run (Entries String Value)
  | [] => pure []
  | (label, content) :: rest => do
    let value ← evaluate world caller names false content
    let given ←
      match label with
      | some label => pure [(label, value)]
      | none => Run.ofExcept (namedEntriesOf world value)
    return given ++ (← evaluateKeywords world caller names rest)
termination_by structural keywords => keywords

/-- A chain of comparisons holds where each of them does, and ends at the first that does
not. -/
def evaluateChain (world : World) (caller : Caller) (names : Names) (left : Value) :
    List (String × Term) → Run Bool
  | [] => pure true
  | (sign, operand) :: rest => do
    let right ← evaluate world caller names false operand
    if ← Operation.compare world caller sign left right then
      evaluateChain world caller names right rest
    else return false
termination_by structural links => links

/-- Whether all conditions hold. -/
def evaluateConditions (world : World) (caller : Caller) (names : Names) : List Term → Run Bool
  | [] => pure true
  | condition :: rest => do
    let decision ← evaluate world caller names false condition
    if ← world.truth caller decision then evaluateConditions world caller names rest
    else return false
termination_by structural conditions => conditions

/-- What a gathering gives, one clause inside the other. Only the source of the first is
evaluated outside of it; what is not gathered at once ends there. -/
def evaluateClauses (world : World) (caller : Caller) (names : Names) (atOnce : Bool)
    (element content : Names → Run Value) : List Clause → Run (List (Value × Value))
  | [] => do return [(← element names, ← content names)]
  | .over target source conditions :: rest => do
    let value ← evaluate world caller names false source
    let items ← world.elements caller value
    if atOnce then
      let given ← items.mapM fun item => do
        let bound ← target.assign world caller names.within item
        if ← evaluateConditions world caller bound conditions then
          evaluateClauses world caller bound atOnce element content rest
        else return []
      return given.flatten
    else return []
termination_by structural clauses => clauses

end

end Term

end MemberThunks.Annotation
