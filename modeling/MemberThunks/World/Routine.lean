import MemberThunks.Failure
import MemberThunks.World.Value

set_option autoImplicit false

/- Routines of a world: the functions its members are made of. A routine has formal
   parameters, the receiver first where it has one, and a body of actions on the
   receiver. Hooks are routines too; their bodies answer for every attribute name. -/
namespace MemberThunks

/-- What a method is called on: the target, the class of the target, or nothing. -/
inductive Attachment where
  | toTarget
  | toClass
  | free
deriving DecidableEq

namespace Attachment

def label : Attachment → String
  | toTarget => "instance"
  | toClass => "class"
  | free => "static"

def ofLabel (text : String) : Attachment :=
  if text = "class" then toClass else if text = "static" then free else toTarget

end Attachment

inductive FormalKind where
  | positionalOnly
  | ordinary
  | variadic
  | keywordOnly
  | keywordVariadic
deriving DecidableEq

namespace FormalKind

def isPositional : FormalKind → Bool
  | positionalOnly | ordinary => true
  | _ => false

def isVariadic : FormalKind → Bool
  | variadic | keywordVariadic => true
  | _ => false

def takesKeyword : FormalKind → Bool
  | ordinary | keywordOnly => true
  | _ => false

end FormalKind

structure Formal where
  name : String
  kind : FormalKind
  /-- The declared type as written. -/
  type? : Option TypeForm
  default? : Option Value

namespace Formal

/-- An ordinary parameter without a declared type or default. -/
def named (name : String) : Formal := ⟨name, .ordinary, none, none⟩

end Formal

inductive Operand where
  | parameter (name : String)
  | receiver
  /-- An attribute of the receiver, read directly. -/
  | stored (name : String)
  | constant (value : Value)
  /-- All arguments but the receiver. -/
  | arguments
  | sum (left right : Operand)

inductive Action where
  | give (operand : Operand)
  | store (name : String) (operand : Operand)
  | fail (kind : FailureKind) (text : String)

inductive Body where
  | actions (steps : List Action)
  /-- Refuses every store with one text. -/
  | guarded (text : String)
  /-- Gives some names values of its own and reads all others directly. -/
  | masked (table : List (String × Value))
  /-- Gives some names values of its own and refuses all others. -/
  | fallback (table : List (String × Value))

structure Routine where
  qualname : String
  formals : List Formal
  hasReceiver : Bool
  returns : Option TypeForm
  body : Body

end MemberThunks
