import MemberThunks.Conversion.OfForm

set_option autoImplicit false

/- Why no code can be made for a member. -/
namespace MemberThunks

inductive BuildFault where
  | unsupported (fault : UnsupportedType) (about : String)
  | noGetter (about : String)
  | noSetter (about : String)
  /-- Something of a kind that cannot be read. -/
  | notReadable (kind : String)
  /-- A member, or what tells who it is, that cannot be written by a listing. -/
  | notWritable (about : Option String)
  /-- A member, or what tells who it is, that cannot be set at all. -/
  | notSettable (about : Option String)
  | wrongKind (expected given : String)
  | unknownKind (given : String)
  /-- A value in the place of a member, of which an attribute is asked. -/
  | noMember (raised : Raised)

namespace BuildFault

def failure : BuildFault → Failure
  | unsupported fault about => fault.failure (some about)
  | noGetter about => ⟨.missingAccessor, "property has no getter", some about⟩
  | noSetter about => ⟨.missingAccessor, "property has no setter", some about⟩
  | notReadable kind => .plain .member ("cannot compile a read thunk for " ++ kind)
  | notWritable about =>
    ⟨.member, "write thunks exist only for properties and fields", about⟩
  | notSettable about => ⟨.member, "only properties and fields can be set", about⟩
  | wrongKind expected given =>
    .plain .member ("expected a " ++ expected ++ " descriptor, got " ++ given)
  | unknownKind given => .plain .member ("unknown member kind " ++ given)
  | noMember raised => raised.failure

/-- What is still to be asked, if the fault is only that. -/
def question? : BuildFault → Option Question
  | unsupported fault _ => fault.question?
  | _ => none

end BuildFault

end MemberThunks
