import MemberThunks.Text.Quoted
import MemberThunks.Thunk.Constant

set_option autoImplicit false

/- Listings: straight-line functions in which every stack position is a slot of its
   own. A listing has its header on the first line and one statement a line after it. -/
namespace MemberThunks

inductive Statement where
  /-- Copies an argument into a slot. -/
  | load (slot argument : Nat)
  /-- Applies a constant to a slot and keeps the result in a slot. -/
  | check (slot : Nat) (constant : String) (source : Nat)
  /-- Applies a constant to a target, the name of a field and a value. -/
  | store (constant : String) (target : Nat) (field : String) (value : Nat)
  /-- Applies a constant to a target and a value. -/
  | set (constant : String) (target value : Nat)
  | finish
deriving DecidableEq

namespace Statement

def slotName (slot : Nat) : String := "s" ++ toString slot
def argumentName (index : Nat) : String := "arg" ++ toString index

def source : Statement → String
  | load slot argument => slotName slot ++ " = " ++ argumentName argument
  | check slot constant source =>
    slotName slot ++ " = " ++ constant ++ "(" ++ slotName source ++ ")"
  | store constant target field value =>
    constant ++ "(" ++ slotName target ++ ", " ++ Quoted.quote field ++ ", " ++
      slotName value ++ ")"
  | set constant target value =>
    constant ++ "(" ++ slotName target ++ ", " ++ slotName value ++ ")"
  | finish => "return None"

end Statement

structure Listing where
  name : String
  parameterCount : Nat
  statements : List Statement
  constants : Constants

namespace Listing

def parameters (listing : Listing) : List String :=
  (List.range listing.parameterCount).map Statement.argumentName

def source (listing : Listing) : String :=
  "\n".intercalate
    (("def " ++ listing.name ++ "(" ++ ", ".intercalate listing.parameters ++ "):") ::
      listing.statements.map fun statement => "    " ++ statement.source)

end Listing

end MemberThunks
