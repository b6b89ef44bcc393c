import MemberThunks.Expression.Basic
import MemberThunks.Thunk.Constant

set_option autoImplicit false

/- Building expressions together with the constants they refer to. -/
namespace MemberThunks

abbrev Builder := StateM Constants

namespace Builder

/-- Refers to a constant by a fresh name. -/
def constant (content : Constant) (hint : String) : Builder Expression := fun constants =>
  let (label, extended) := constants.add (Identifier.squash hint) content
  (.name label, extended)

/-- Applies a conversion, if there is one. -/
def convert (expression : Expression) (conversion : Option Conversion) : Builder Expression :=
  match conversion with
  | none => pure expression
  | some check => do
    let callee ← constant (.conversion check) (Constant.conversionHint check)
    return .call callee [expression] []

/-- Reads a member directly, past every hook of the class. -/
def load (target : Expression) (label : String) : Builder Expression := do
  let callee ← constant .directGet "load"
  return .call callee [target, .literal (.text label)] []

/-- Calls a member. -/
def call (target : Expression) (label : String) (arguments : List Expression)
    (keywords : List (String × Expression)) : Expression :=
  .call (Expression.member target label) arguments keywords

end Builder

end MemberThunks
