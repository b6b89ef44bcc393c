import MemberThunks.Expression.Builder
import MemberThunks.Thunk.Located
import MemberThunks.World.Item
import MemberThunks.World.Known

set_option autoImplicit false

/- Functions whose body is one expression. A void function evaluates its body and gives
   None. A name in the body is a parameter, the function itself, a constant or a
   built-in name, in this order; anything else is unknown when the body is evaluated. -/
namespace MemberThunks

structure Lambda where
  name : String
  parameters : List String
  body : Expression
  isVoid : Bool
  constants : Constants

namespace Lambda

def make (label : String) (parameters : List String) (isVoid : Bool) (build : Builder Expression) :
    Lambda :=
  let (body, constants) := build.run []
  ⟨Identifier.squash label, parameters, body, isVoid, constants⟩

/-- A header on the first line and one statement on each line after it. -/
def statements (lambda : Lambda) : List String :=
  if lambda.isVoid then [lambda.body.source, "return None"]
  else ["return " ++ lambda.body.source]

def source (lambda : Lambda) : String :=
  "\n".intercalate
    (("def " ++ lambda.name ++ "(" ++ ", ".intercalate lambda.parameters ++ "):") ::
      lambda.statements.map fun statement => "    " ++ statement)

/-- The line on which the body is written. -/
def bodyLine : Nat := 2

end Lambda

/-- What a name in a function stands for. -/
inductive Meaning where
  | value (content : Value)
  | constant (content : Constant)
  | itself
  | reader

structure Scope where
  parameters : Entries String Value
  own : String
  constants : Constants

namespace Scope

def meaning? (scope : Scope) (label : String) : Option Meaning :=
  match scope.parameters.lookup label with
  | some value => some (.value value)
  | none =>
    if label = scope.own then some .itself
    else
      match scope.constants.lookup label with
      | some constant => some (.constant constant)
      | none =>
        if label = Expression.readerName then some .reader
        else (Known.value? label).map Meaning.value

end Scope

namespace Meaning

/-- The meaning where a value is wanted. A function that is being defined has the
first number that no routine of the world has. -/
def toValue (world : World) (own : String) : Meaning → Value
  | value content => content
  | constant content => content.toValue world
  | itself => .function world.routines.length own
  | reader => Known.routine Expression.readerName

/-- Calls what a name stands for; the function itself is called as the parameter says. -/
def call (world : World) (caller itself : Caller) (arguments : List Value)
    (keywords : Entries String Value) : Meaning → Run Value
  | .value content => caller content arguments keywords
  | .constant content => content.call world caller arguments
  | .itself => itself .none arguments keywords
  | .reader =>
    match arguments with
    | [target, .text label] => world.normalGet caller target label
    | _ => Run.fail (.notCallable "builtin_function_or_method")

end Meaning

namespace Expression

def ofLiteral : Literal → Value
  | .number value => .int value
  | .text content => .text content

def meaningOf (scope : Scope) (label : String) : Run Meaning :=
  match scope.meaning? label with
  | some meaning => pure meaning
  | none => Run.fail (.unknownName label)

mutual

/-- Evaluates an expression. The callee comes before the arguments, and positional
arguments before keyword arguments. -/
def evaluate (world : World) (caller itself : Caller) (scope : Scope) : Expression → Run Value
  | name label => do
    let meaning ← meaningOf scope label
    return meaning.toValue world scope.own
  | dot target label => do
    let value ← evaluate world caller itself scope target
    world.normalGet caller value label
  | subscript target index => do
    let container ← evaluate world caller itself scope target
    world.item caller container (ofLiteral index)
  | literal content => pure (ofLiteral content)
  | call callee arguments keywords => do
    let meaning ← evaluateCallee world caller itself scope callee
    let values ← evaluateAll world caller itself scope arguments
    let named ← evaluateKeywords world caller itself scope keywords
    meaning.call world caller itself values named
termination_by structural expression => expression

/-- Evaluates what is called, which keeps apart what only code can name. -/
def evaluateCallee (world : World) (caller itself : Caller) (scope : Scope) :
    Expression → Run Meaning
  | name label => meaningOf scope label
  | dot target label => do
    let value ← evaluate world caller itself scope target
    return .value (← world.normalGet caller value label)
  | subscript target index => do
    let container ← evaluate world caller itself scope target
    return .value (← world.item caller container (ofLiteral index))
  | literal content => pure (.value (ofLiteral content))
  | call callee arguments keywords => do
    let meaning ← evaluateCallee world caller itself scope callee
    let values ← evaluateAll world caller itself scope arguments
    let named ← evaluateKeywords world caller itself scope keywords
    return .value (← meaning.call world caller itself values named)
termination_by structural expression => expression

def evaluateAll (world : World) (caller itself : Caller) (scope : Scope) :
    List Expression → Run (List Value)
  | [] => pure []
  | expression :: rest => do
    let value ← evaluate world caller itself scope expression
    return value :: (← evaluateAll world caller itself scope rest)
termination_by structural expressions => expressions

def evaluateKeywords (world : World) (caller itself : Caller) (scope : Scope) :
    List (String × Expression) → Run (Entries String Value)
  | [] => pure []
  | (keyword, expression) :: rest => do
    let value ← evaluate world caller itself scope expression
    return (keyword, value) :: (← evaluateKeywords world caller itself scope rest)
termination_by structural keywords => keywords

end

end Expression

namespace Lambda

def formals (lambda : Lambda) : List Formal := lambda.parameters.map Formal.named

/-- The result of the function, of which a void one has none. -/
def finish (lambda : Lambda) (result : Value) : Value :=
  if lambda.isVoid then .none else result

/-- Calls the function; calls of itself nest to the given depth at most. -/
def callWithin (lambda : Lambda) (world : World) (caller : Caller) :
    Nat → List Value → Entries String Value → LocatedRun Value
  | 0, _, _ => throw ⟨some bodyLine, .tooDeep⟩
  | depth + 1, arguments, keywords =>
    match Binding.bind lambda.formals arguments keywords with
    | .error fault => throw ⟨none, .binding lambda.name fault⟩
    | .ok bound =>
      LocatedRun.onLine (some bodyLine) do
        let itself : Caller := fun _ inner named =>
          LocatedRun.plain (lambda.callWithin world caller depth inner named)
        let result ← lambda.body.evaluate world caller itself ⟨bound, lambda.name, lambda.constants⟩
        return lambda.finish result

def call (lambda : Lambda) (world : World) (arguments : List Value) : LocatedRun Value :=
  lambda.callWithin world (world.call World.callLimit) World.callLimit arguments []

end Lambda

end MemberThunks
