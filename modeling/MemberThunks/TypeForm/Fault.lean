import MemberThunks.Failure
import MemberThunks.Text.Quoted

set_option autoImplicit false

/- Why type forms cannot be put together. Classes and forms are given by their texts. -/
namespace MemberThunks

inductive FormFault where
  | unhashable (owner : String)
  /-- A bar between operands that take none. -/
  | notBarred (left right : String)
  | wrongCount (subject : String) (given expected : Nat)
  | notGeneric (subject : String)
  | notSubscriptable (subject : String)
  /-- A form that stands in no other form. -/
  | notArgument (shown : String)
  /-- A form that stands in another form only with arguments. -/
  | plainArgument (shown : String)
  /-- Several forms in the place of one. -/
  | notType (rule shown : String)
  | noUnion
  | callableShape
  | annotatedShape
  /-- Arguments of a class of the vocabulary that are no type parameters. -/
  | notParameters (owner : String)
  | repeatedParameters (owner : String)
  | noParameters (owner : String)
  /-- Arguments for what has them already. -/
  | closed (shown : String)
  /-- A string in the place of a form that cannot be read. -/
  | malformed (text : String)
  /-- A reference by no text at all. -/
  | emptyText
  | nulCharacter
deriving DecidableEq

namespace FormFault

def countText (subject : String) (given expected : Nat) : String :=
  "Too " ++ (if expected < given then "many" else "few") ++ " arguments for " ++ subject ++
    "; actual " ++ toString given ++ ", expected " ++ toString expected

def failure : FormFault → Failure
  | unhashable owner => .plain .typeFault ("unhashable type: '" ++ owner ++ "'")
  | notBarred left right =>
    .plain .typeFault
      ("unsupported operand type(s) for |: '" ++ left ++ "' and '" ++ right ++ "'")
  | wrongCount subject given expected => .plain .typeFault (countText subject given expected)
  | notGeneric subject => .plain .typeFault (subject ++ " is not a generic class")
  | notSubscriptable subject => .plain .typeFault (subject ++ " is not subscriptable")
  | notArgument shown => .plain .typeFault (shown ++ " is not valid as type argument")
  | plainArgument shown => .plain .typeFault ("Plain " ++ shown ++ " is not valid as type argument")
  | notType rule shown => .plain .typeFault (rule ++ " Got " ++ (shown.take 100).toString ++ ".")
  | noUnion => .plain .typeFault "Cannot take a Union of no types."
  | callableShape =>
    .plain .typeFault "Callable must be used as Callable[[arg, ...], result]."
  | annotatedShape =>
    .plain .typeFault
      ("Annotated[...] should be used with at least two arguments (a type and an annotation).")
  | notParameters owner =>
    .plain .typeFault
      ("Parameters to " ++ owner ++
        "[...] must all be type variables or parameter specification variables.")
  | repeatedParameters owner =>
    .plain .typeFault ("Parameters to " ++ owner ++ "[...] must all be unique")
  | noParameters owner =>
    .plain .typeFault ("Parameter list to " ++ owner ++ "[...] cannot be empty")
  | closed shown => .plain .typeFault ("Cannot subscript already-subscripted " ++ shown)
  | malformed text =>
    .plain .malformed ("Forward reference must be an expression -- got " ++ Quoted.quote text)
  | emptyText => .plain .indexFault "string index out of range"
  | nulCharacter => .plain .valueFault "source code string cannot contain null bytes"

end FormFault

end MemberThunks
