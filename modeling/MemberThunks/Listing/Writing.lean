import MemberThunks.Listing.Lowering
import MemberThunks.Thunk.BuildFault

set_option autoImplicit false

/- The programs that write members. Target and value are both checked before the one
   instruction that stores. -/
namespace MemberThunks

namespace Writing

/-- A program that stores a value of a declared type into a target of a class. -/
def program (declaring : ClassRef) (name : String) (type : TypeForm) (store : Instruction) :
    Program :=
  ⟨"Set" ++ name, 2,
    [.loadArgument 0, .castClass (.cls declaring), .loadArgument 1, .unboxAny type, store, .ret]⟩

/-- A type without a conversion is a fault of the member. -/
def checkType (world : World) (type : TypeForm) (about : String) : Except BuildFault Unit :=
  match world.conversionFor type false with
  | .ok _ => .ok ()
  | .error fault => .error (.unsupported fault about)

def field (world : World) (details : FieldMember) : Except BuildFault Program := do
  checkType world details.type ((Member.field details).qualname world)
  return program details.declaring details.name details.type (.storeField (.field details))

def property (world : World) (details : PropertyMember) : Except BuildFault Program :=
  match details.setter with
  | none => .error (.noSetter ((Member.property details).qualname world))
  | some _ => do
    checkType world details.type ((Member.property details).qualname world)
    return program details.declaring details.name details.type (.callSetter (.property details))

/-- The program that writes a member of any kind. -/
def member (world : World) : Member → Except BuildFault Program
  | .field details => field world details
  | .property details => property world details
  | other => .error (.notWritable (some (other.qualname world)))

end Writing

end MemberThunks
