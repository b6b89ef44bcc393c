set_option autoImplicit false

/- Failures as they are reported: a kind by the name it goes under, a message, and
   the member it is about where there is one. Each area of the library states its own
   causes and says how each is reported. -/
namespace MemberThunks

inductive FailureKind where
  | lateBound | member | missingAccessor | unsupportedMember | emit | invalidCast | unbox
  | typeFault | attributeFault | indexFault | keyFault | valueFault | nameFault | unboundLocal
  | malformed | runtime | recursion
  /-- A kind that the library gives no meaning to. -/
  | other (label : String)
deriving DecidableEq

namespace FailureKind

def label : FailureKind → String
  | lateBound => "LateBoundError"
  | member => "MemberError"
  | missingAccessor => "MissingAccessorError"
  | unsupportedMember => "UnsupportedMemberError"
  | emit => "EmitError"
  | invalidCast => "InvalidCastError"
  | unbox => "UnboxError"
  | typeFault => "TypeError"
  | attributeFault => "AttributeError"
  | indexFault => "IndexError"
  | keyFault => "KeyError"
  | valueFault => "ValueError"
  | nameFault => "NameError"
  | unboundLocal => "UnboundLocalError"
  | malformed => "SyntaxError"
  | runtime => "RuntimeError"
  | recursion => "RecursionError"
  | other label => label

def known : List FailureKind := [
  lateBound, member, missingAccessor, unsupportedMember, emit, invalidCast, unbox, typeFault,
  attributeFault, indexFault, keyFault, valueFault, nameFault, unboundLocal, malformed, runtime,
  recursion]

def ofLabel (text : String) : FailureKind :=
  (known.find? fun kind => kind.label = text).getD (other text)

/-- The library's own kinds. -/
def isOwn : FailureKind → Bool
  | lateBound | member | missingAccessor | unsupportedMember | emit | invalidCast | unbox => true
  | _ => false

/-- The kinds that blame a member. -/
def blamesMember : FailureKind → Bool
  | member | missingAccessor | unsupportedMember => true
  | _ => false

/-- The kinds that count as a use of a value of the wrong type. -/
def isTypeFailure : FailureKind → Bool
  | typeFault | invalidCast | unbox => true
  | _ => false

/-- The kinds that count as a use of a name that stands for nothing. -/
def isNameFailure : FailureKind → Bool
  | nameFault | unboundLocal => true
  | _ => false

/-- The kinds that count as a value that is not fit for its use. -/
def isValueFailure : FailureKind → Bool
  | valueFault => true
  | other label => label = "UnicodeError"
  | _ => false

/-- The kinds that count as a failure to import. -/
def isImportFailure : FailureKind → Bool
  | other label => label = "ImportError" || label = "ModuleNotFoundError"
  | _ => false

end FailureKind

structure Failure where
  kind : FailureKind
  message : String
  about : Option String
deriving DecidableEq

namespace Failure

def plain (kind : FailureKind) (message : String) : Failure := ⟨kind, message, none⟩

/-- The message, and the member it is about in parentheses. -/
def text (failure : Failure) : String :=
  match failure.about with
  | none => failure.message
  | some member => failure.message ++ " (" ++ member ++ ")"

/-- The families a failure counts as, the widest of the library's own first. -/
def families (failure : Failure) : List String :=
  (if failure.kind.isOwn then [FailureKind.lateBound.label] else []) ++
  (if failure.kind.blamesMember then [FailureKind.member.label] else []) ++
  (if failure.kind.isTypeFailure then [FailureKind.typeFault.label] else [])

end Failure

end MemberThunks
