import MemberThunks.Conversion.OfForm
import MemberThunks.Member.Basic
import MemberThunks.Text.Identifier
import MemberThunks.World.Call

set_option autoImplicit false

/- The constants that generated code refers to: conversions, the direct accesses,
   setters that are chosen by the class of each target, and plain values. A table of
   constants hands out names that end in the number of constants before it. -/
namespace MemberThunks

/-- The setter of a property for targets of any class. A class that overrides the
property with a setter of its own has that setter called. What is no property may have
any value for a name. -/
structure VirtualSetter where
  name : Value
  fallback : Option Value

namespace VirtualSetter

def ofProperty (property : PropertyMember) : VirtualSetter :=
  ⟨.text property.name, property.setter⟩

def display (world : World) (setter : VirtualSetter) : String :=
  "VirtualSetter(" ++ setter.name.display world ++ ")"

/-- The setter that a class has under a name. -/
def overriding? (world : World) (target : ClassRef) (name : String) : Option Value :=
  match world.lookup target name with
  | some (_, .property definition) => definition.setter
  | _ => none

def resolve (world : World) (setter : VirtualSetter) (target : ClassRef) : Option Value :=
  match setter.name with
  | .text name => (overriding? world target name).or setter.fallback
  | _ => setter.fallback

/-- Calls the setter for the class that the target has by now. -/
def call (world : World) (caller : Caller) (setter : VirtualSetter) (target value : Value) :
    Run Unit := do
  let holder := (← get).current target
  let _ ← caller ((setter.resolve world holder.typeOf).getD .none) [target, value] []

end VirtualSetter

inductive Constant where
  | conversion (check : Conversion)
  | directGet
  | directSet
  | setter (dispatch : VirtualSetter)
  | value (content : Value)

namespace Constant

def display (world : World) : Constant → String
  | conversion check => check.display world
  | directGet => "<slot wrapper '__getattribute__' of 'object' objects>"
  | directSet => "<slot wrapper '__setattr__' of 'object' objects>"
  | setter dispatch => dispatch.display world
  | value content => content.display world

/-- The values that the text of a constant shows. -/
def parts : Constant → List Value
  | conversion check => check.targets.map Value.ofForm
  | directGet | directSet => []
  | setter dispatch => [dispatch.name]
  | value content => [content]

/-- The constant where a value is wanted. -/
def toValue (world : World) : Constant → Value
  | conversion check => .foreign (.other "" check.typeName) (check.display world)
  | directGet =>
    .foreign (.other "" "wrapper_descriptor") (directGet.display world)
  | directSet =>
    .foreign (.other "" "wrapper_descriptor") (directSet.display world)
  | setter dispatch => .foreign (.other "" "VirtualSetter") (dispatch.display world)
  | value content => content

/-- What a constant does when it is called with positional arguments. -/
def call (world : World) (caller : Caller) (constant : Constant) (arguments : List Value) :
    Run Value :=
  match constant, arguments with
  | conversion check, [given] => check.apply world caller given
  | directGet, [target, .text name] => world.directGet caller target name
  | directSet, [target, .text name, given] => do
    world.directSet caller target name given
    return .none
  | setter dispatch, [target, given] => do
    dispatch.call world caller target given
    return .none
  | value callee, _ => caller callee arguments []
  | other, _ => Run.fail (.notCallable (world.ownerName (other.toValue world)))

/-- The kind of name under which a conversion is kept. -/
def conversionHint (check : Conversion) : String := if check.isUnboxing then "unbox" else "cast"

end Constant

abbrev Constants := Entries String Constant

namespace Constants

/-- The name that the next constant gets. -/
def nextName (constants : Constants) (hint : String) : String :=
  hint ++ "_" ++ toString constants.length

def add (constants : Constants) (hint : String) (constant : Constant) : String × Constants :=
  (constants.nextName hint, constants.put (constants.nextName hint) constant)

end Constants

end MemberThunks
