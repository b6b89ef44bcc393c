import MemberThunks.Expression.Lambda
import MemberThunks.Thunk.BuildFault

set_option autoImplicit false

/- The functions that read members. A method is looked up on the target after the
   target is cast to the declaring class, and called with one converted argument for
   each parameter. A property is read in the ordinary way, a field directly. -/
namespace MemberThunks

namespace Reading

def targetName : String := "target"
def argumentsName : String := "arguments"

/-- The target, narrowed to the class that declares the member. -/
def castTarget (declaring : ClassRef) : Builder Expression :=
  Builder.convert (.name targetName) (some (.cast (.cls declaring) false))

/-- A parameter of a method with the conversion of its type. -/
abbrev Converted := Parameter × Option Conversion

def convertedParameters (world : World) (method : MethodMember) :
    Except BuildFault (List Converted) :=
  method.parameters.mapM fun parameter =>
    match world.conversionFor parameter.type false with
    | .ok conversion => .ok (parameter, conversion)
    | .error fault => .error (.unsupported fault ((Member.method method).qualname world))

/-- The converted argument for a parameter at a position. -/
def argument (position : Nat) (conversion : Option Conversion) : Builder Expression :=
  Builder.convert (.subscript (.name argumentsName) (.number position)) conversion

/-- The arguments of a call: those by position, and those by keyword. -/
structure CallArguments where
  positional : List Expression
  keywords : List (String × Expression)

def CallArguments.add (arguments : CallArguments) (parameter : Parameter)
    (expression : Expression) : CallArguments :=
  if parameter.keywordOnly then
    { arguments with keywords := arguments.keywords ++ [(parameter.name, expression)] }
  else { arguments with positional := arguments.positional ++ [expression] }

/-- One argument for each parameter, in the order of their declaration. -/
def callArguments (position : Nat) (sofar : CallArguments) :
    List Converted → Builder CallArguments
  | [] => pure sofar
  | (parameter, conversion) :: rest => do
    let expression ← argument position conversion
    callArguments (position + 1) (sofar.add parameter expression) rest

def methodBody (method : MethodMember) (parameters : List Converted) : Builder Expression := do
  let target ← castTarget method.declaring
  let arguments ← callArguments 0 ⟨[], []⟩ parameters
  return Builder.call target method.name arguments.positional arguments.keywords

def method (world : World) (method : MethodMember) : Except BuildFault Lambda := do
  let parameters ← convertedParameters world method
  return Lambda.make ("Invoke" ++ method.name) [targetName, argumentsName] method.isVoid
    (methodBody method parameters)

def propertyBody (property : PropertyMember) : Builder Expression := do
  let target ← castTarget property.declaring
  return Expression.member target property.name

def property (world : World) (property : PropertyMember) : Except BuildFault Lambda :=
  match property.getter with
  | none => .error (.noGetter ((Member.property property).qualname world))
  | some _ => .ok (Lambda.make ("Get" ++ property.name) [targetName] false (propertyBody property))

def fieldBody (field : FieldMember) : Builder Expression := do
  let target ← castTarget field.declaring
  Builder.load target field.name

def field (field : FieldMember) : Lambda :=
  Lambda.make ("Get" ++ field.name) [targetName] false (fieldBody field)

/-- The function that reads a member of any kind. -/
def member (world : World) : Member → Except BuildFault Lambda
  | .method details => method world details
  | .property details => property world details
  | .field details => .ok (field details)
  | .bare owner label => .error (.notReadable (Member.bare owner label).kindName)

end Reading

end MemberThunks
