import MemberThunks.World.Declaration
import MemberThunks.World.Likeness

set_option autoImplicit false

/- Members: what a thunk is made for. A member names a method, a property or a field
   of the class that declares it and carries the types the thunk has to respect. Two
   members are equal when their kinds, names and types are; the accessors of a property
   do not count. A bare member has no kind and no thunk. -/
namespace MemberThunks

structure Parameter where
  name : String
  type : TypeForm
  keywordOnly : Bool

structure MethodMember where
  declaring : ClassRef
  name : String
  /-- Without the receiver. -/
  parameters : List Parameter
  returns : TypeForm
  /-- What the method says it is called on; only the label of an attachment means one. -/
  binding : String

structure PropertyMember where
  declaring : ClassRef
  name : String
  type : TypeForm
  getter : Option Value
  setter : Option Value

structure FieldMember where
  declaring : ClassRef
  name : String
  type : TypeForm

inductive Member where
  | method (details : MethodMember)
  | property (details : PropertyMember)
  | field (details : FieldMember)
  | bare (declaring : ClassRef) (name : String)

namespace MethodMember

/-- A void method has no result of its own: its thunk gives None. -/
def isVoid (method : MethodMember) : Bool :=
  match method.returns with
  | .none => true
  | other => other.isNoneType

end MethodMember

namespace Member

def declaring : Member → ClassRef
  | method details => details.declaring
  | property details => details.declaring
  | field details => details.declaring
  | bare owner _ => owner

def name : Member → String
  | method details => details.name
  | property details => details.name
  | field details => details.name
  | bare _ label => label

def qualname (world : World) (member : Member) : String :=
  world.qualname member.declaring ++ "." ++ member.name

def kindName : Member → String
  | method _ => "MethodDescriptor"
  | property _ => "PropertyDescriptor"
  | field _ => "FieldDescriptor"
  | bare _ _ => "Member"

def displayOptional (world : World) : Option Value → String
  | none => "None"
  | some value => value.display world

def displayParameter (world : World) (parameter : Parameter) : String :=
  "Parameter(name=" ++ Quoted.quote parameter.name ++ ", type=" ++ parameter.type.display world ++
    ", keyword_only=" ++ (if parameter.keywordOnly then "True" else "False") ++ ")"

/-- What follows the declaring class and the name in a member's text. -/
def displayRest (world : World) : Member → List String
  | method details => [
      "parameters=" ++ Display.tuple (details.parameters.map (displayParameter world)),
      "return_type=" ++ details.returns.display world,
      "binding=" ++ Quoted.quote details.binding]
  | property details => [
      "property_type=" ++ details.type.display world,
      "getter=" ++ displayOptional world details.getter,
      "setter=" ++ displayOptional world details.setter]
  | field details => ["field_type=" ++ details.type.display world]
  | bare _ _ => []

def display (world : World) (member : Member) : String :=
  member.kindName ++ "(" ++ Display.joined
    (("declaring_type=" ++ world.displayClass member.declaring) ::
      ("name=" ++ Quoted.quote member.name) :: member.displayRest world) ++ ")"

/-- The types of a member, as values. -/
def types : Member → List Value
  | method details =>
    (details.parameters.map (·.type) ++ [details.returns]).map Value.ofForm
  | property details => [Value.ofForm details.type]
  | field details => [Value.ofForm details.type]
  | bare _ _ => []

/-- The values that the text of a member shows. -/
def parts : Member → List Value
  | property details =>
    (property details).types ++ details.getter.toList ++ details.setter.toList
  | other => other.types

/-- What a member is compared by. -/
inductive Facet where
  | owner (declaring : ClassRef)
  | word (content : String)
  | type (form : TypeForm)
  | flag (isSet : Bool)

namespace Facet

/-- Whether two facets are the same. Types are one or equal where their objects are asked. -/
def agree (world : World) (call : Caller) : Facet → Facet → Run Bool
  | owner left, owner right => pure (left == right)
  | word left, word right => pure (left == right)
  | flag left, flag right => pure (left == right)
  | type left, type right => world.sameForms call World.nestingDepth left right
  | _, _ => pure false

end Facet

def parameterFacets (parameter : Parameter) : List Facet :=
  [.word parameter.name, .type parameter.type, .flag parameter.keywordOnly]

/-- The facets of a member in the order in which they are compared. -/
def facets (member : Member) : List Facet :=
  .owner member.declaring :: .word member.name ::
    match member with
    | method details =>
      details.parameters.flatMap parameterFacets ++
        [.type details.returns, .word details.binding]
    | property details => [.type details.type]
    | field details => [.type details.type]
    | bare _ _ => []

/-- Whether two members are equal: of one kind, and the same in all that they are compared
by. -/
def equals (world : World) (call : Caller) (left right : Member) : Run Bool :=
  if left.kindName = right.kindName then
    World.allOf (Facet.agree world call) left.facets right.facets
  else pure false

end Member

end MemberThunks
