import MemberThunks.Expression.Lambda
import MemberThunks.Listing.Run

set_option autoImplicit false

/- Thunks: generated code that has been loaded under the name of a file. -/
namespace MemberThunks

inductive Code where
  | tree (lambda : Lambda)
  | listing (lowered : Listing)

namespace Code

def name : Code → String
  | tree lambda => lambda.name
  | listing lowered => lowered.name

def parameters : Code → List String
  | tree lambda => lambda.parameters
  | listing lowered => lowered.parameters

def source : Code → String
  | tree lambda => lambda.source
  | listing lowered => lowered.source

def constants : Code → Constants
  | tree lambda => lambda.constants
  | listing lowered => lowered.constants

end Code

structure Thunk where
  code : Code
  fileName : String

namespace Thunk

/-- Calls a thunk with positional arguments. -/
def call (thunk : Thunk) (world : World) (arguments : List Value) : LocatedRun Value :=
  match thunk.code with
  | .tree lambda => lambda.call world arguments
  | .listing lowered => lowered.call world arguments

end Thunk

end MemberThunks
