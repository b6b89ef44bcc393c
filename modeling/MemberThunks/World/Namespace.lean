import MemberThunks.Entries
import MemberThunks.World.Routine

set_option autoImplicit false

/- What a class namespace holds under a name. -/
namespace MemberThunks

structure Property where
  getter : Option Value
  setter : Option Value
  /-- The name the property was created under, if its class was created with it. -/
  name : Option String

inductive NativeSort where
  | method
  | classMethod
  /-- A method that stands for an operation of the language. -/
  | wrapper
  | constructor
  /-- A built-in routine that is written like a routine of a world. -/
  | function
deriving DecidableEq

/-- A built-in routine, with its formals where it tells them. -/
structure NativeRoutine where
  attachment : Attachment
  sort : NativeSort
  formals : Option (List Formal)
  /-- The qualified name that it goes by wherever it stands, if it does. -/
  known : Option String

inductive Attribute where
  /-- A value as it stands; a function among them is bound when it is read. -/
  | value (content : Value)
  | static (callee : Value)
  | classBound (callee : Value)
  | property (definition : Property)
  | slot
  | native (definition : NativeRoutine)
  /-- A built-in attribute that is no method and no property. -/
  | reserved

namespace NativeSort

/-- The text of a built-in routine of a class. -/
def describe (owner name : String) : NativeSort → String
  | method | classMethod => "<method '" ++ name ++ "' of '" ++ owner ++ "' objects>"
  | wrapper => "<slot wrapper '" ++ name ++ "' of '" ++ owner ++ "' objects>"
  | constructor => "<built-in method " ++ name ++ " of type object>"
  | function => "<function " ++ owner ++ "." ++ name ++ ">"

/-- The class of the routine as it stands in its namespace. -/
def rawKind : NativeSort → Builtin
  | method => .other "" "method_descriptor"
  | classMethod => .other "" "classmethod_descriptor"
  | wrapper => .other "" "wrapper_descriptor"
  | constructor => .other "" "builtin_function_or_method"
  | function => .other "" "function"

/-- The class of the routine bound to a value. -/
def boundKind : NativeSort → Builtin
  | wrapper => .other "" "method-wrapper"
  | function => .other "" "method"
  | _ => .other "" "builtin_function_or_method"

end NativeSort

namespace Attribute

/-- Whether a value is a routine by its own class. -/
def isRoutineValue : Value → Bool
  | .function _ _ | .native _ | .bound _ _ => true
  | _ => false

def isProperty : Attribute → Bool
  | property _ => true
  | _ => false

end Attribute

end MemberThunks
