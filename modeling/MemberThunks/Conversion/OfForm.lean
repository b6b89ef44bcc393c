import MemberThunks.Conversion.Basic
import MemberThunks.World.Telling

set_option autoImplicit false

/- The conversion a declared type asks for. Types that admit every value need none.
   Unions are converted member by member, annotated types and types with a supertype as
   what they stand for; value classes are unboxed and all other classes cast. What is
   left has no check at run time. An object in the place of a type may stand for one; as
   long as it has not been asked, or has not said what its text is where the text is shown,
   the question is what is found. -/
namespace MemberThunks

/-- What objects are still to be asked. -/
inductive Question where
  /-- Which type an object stands for. -/
  | supertype (object : Value)
  /-- What the texts of the objects in some values are. -/
  | texts (values : List Value)

inductive UnsupportedType where
  | typeParameter (name : String)
  | uncheckable (name : String)
  /-- The declared type nests, or its supertypes go on, without an end in sight. -/
  | tooDeep
  /-- Whether there is a conversion hangs on what an object says. -/
  | undecided (question : Question)

namespace UnsupportedType

def message : UnsupportedType → String
  | typeParameter name => "generic parameter " ++ name ++ " cannot be converted"
  | uncheckable name => "annotation " ++ name ++ " cannot be converted"
  | tooDeep => Raised.tooDeep.failure.message
  | undecided _ => "annotation cannot be converted yet"

/-- What is still to be asked, if the fault is only that. -/
def question? : UnsupportedType → Option Question
  | undecided question => some question
  | _ => none

/-- The fault as a failure of the member it is found in. -/
def failure (about : Option String) (fault : UnsupportedType) : Failure :=
  match fault with
  | tooDeep => Raised.tooDeep.failure
  | other => ⟨.unsupportedMember, other.message, about⟩

end UnsupportedType

namespace TypeForm

/-- Whether a declared type admits every value. -/
def isErased : TypeForm → Bool
  | cls (.builtin .object) | cls (.builtin .any) | cls (.builtin .empty) => true
  | _ => false

/-- The class that a class with arguments or an alias stands for. -/
def origin? : TypeForm → Option ClassRef
  | generic _ (.builtin (.other "typing" _)) _ => Option.none
  | generic _ origin _ | shorthand _ origin => some origin
  | callable _ _ => some (.builtin (.abstract .callable))
  | _ => Option.none

end TypeForm

namespace World

/-- Whether values of the class are matched by their exact class. -/
def isValueClass (world : World) (target : ClassRef) : Bool :=
  Builtin.valueRoots.any fun root => world.isSubclass target (.builtin root)

def isValueType (world : World) : TypeForm → Bool
  | .cls target => world.isValueClass target
  | _ => false

/-- The supertype that a class names as one of its attributes. -/
def classSupertype? (world : World) (target : ClassRef) : Option TypeForm :=
  match world.lookup target "__supertype__" with
  | none | some (_, .value .none) => none
  | some (_, .value content) | some (_, .static content) => some content.toForm
  | some (_, .classBound callee) => some (.value (.bound (.cls target) callee))
  | some (owner, found) => some (.value (world.rawValue owner "__supertype__" found))

/-- What a declared type stands for, if it names a supertype. An object has to be asked. -/
def supertype? (world : World) : TypeForm → Except UnsupportedType (Option TypeForm)
  | .newType _ .none => .ok none
  | .newType _ base => .ok (some base)
  | .cls target | .generic .native target _ => .ok (world.classSupertype? target)
  | .value content =>
    match content.address? with
    | none => .ok none
    | some address =>
      match world.supertypes.lookup address with
      | some answer => .ok answer
      | none => .error (.undecided (.supertype content))
  | _ => .ok none

/-- The conversion to a declared type that names no supertype: a class with arguments or
an alias stands for its class. -/
def leafConversion (world : World) (form : TypeForm) (nullable : Bool) :
    Except UnsupportedType (Option Conversion) :=
  match form, form.origin? with
  | .parameter _ _ _, _ => .error (.typeParameter (form.name world))
  | _, some origin => .ok (some (.cast (.cls origin) nullable))
  | .cls target, none =>
    if world.isValueClass target then .ok (some (.unbox form nullable))
    else .ok (some (.cast form nullable))
  | _, none =>
    if world.isUnheard [Value.ofForm form] then
      .error (.undecided (.texts [Value.ofForm form]))
    else .error (.uncheckable (form.name world))

/-- Converts the members of a union in order. A member that admits every value makes
the union admit every value, and no later member is looked at. -/
def optionsOf (convert : TypeForm → Except UnsupportedType (Option Conversion)) :
    List TypeForm → Except UnsupportedType (Option (List Conversion))
  | [] => .ok (some [])
  | member :: rest => do
    match ← convert member with
    | none => return none
    | some option => return (← optionsOf convert rest).map (option :: ·)

/-- The conversion of a union, given those of its members other than None. A single
member takes on the nullability of the union. -/
def unionConversion (nullable : Bool) : Option (List Conversion) → Option Conversion
  | none => none
  | some [only] => some (only.withNullable nullable)
  | some options => some (.union options nullable)

def conversionWithin (world : World) :
    Nat → TypeForm → Bool → Except UnsupportedType (Option Conversion)
  | 0, _, _ => .error .tooDeep
  | depth + 1, form, nullable =>
    match form with
    | .none => .ok (some (.cast .noneType nullable))
    | .union _ members => do
      let options ← optionsOf (fun member => world.conversionWithin depth member false)
        (members.filter fun member => !member.isNoneType)
      return unionConversion (nullable || members.any TypeForm.isNoneType) options
    | .annotated base _ => world.conversionWithin depth base nullable
    | _ =>
      if form.isErased then .ok none
      else
        match world.supertype? form with
        | .ok (some supertype) => world.conversionWithin depth supertype nullable
        | .ok none => world.leafConversion form nullable
        | .error fault => .error fault

/-- How deep a declared type may nest. -/
def nestingLimit : Nat := 1000

/-- The conversion to a declared type; none where every value is admitted. -/
def conversionFor (world : World) (form : TypeForm) (nullable : Bool) :
    Except UnsupportedType (Option Conversion) :=
  world.conversionWithin nestingLimit form nullable

end World

end MemberThunks
