import MemberThunks.TypeForm.Fault
import MemberThunks.World.Binding
import MemberThunks.World.ConstructionFault

set_option autoImplicit false

/- Why a running thunk fails: the causes, the kind each is reported under and its
   wording. Classes are given by the names that the wording uses. -/
namespace MemberThunks

/-- Why a type form cannot be asked for its instances. -/
inductive CheckFault where
  | unsupported (described : String)
  | subscripted
  | parameterized
  | noClass
  | unsupportedMember (described : String)
  | parameterizedMember
  | noClassMember
  /-- A class that is for no check while a program runs. -/
  | staticProtocol
  /-- What says it is the class of a value is none. -/
  | noClassGiven
deriving DecidableEq

namespace CheckFault

def message : CheckFault → String
  | unsupported described => described ++ " cannot be used with isinstance()"
  | subscripted => "Subscripted generics cannot be used with class and instance checks"
  | parameterized => "isinstance() argument 2 cannot be a parameterized generic"
  | noClass => "isinstance() arg 2 must be a type, a tuple of types, or a union"
  | unsupportedMember described => described ++ " cannot be used with issubclass()"
  | parameterizedMember => "issubclass() argument 2 cannot be a parameterized generic"
  | noClassMember => "issubclass() arg 2 must be a class, a tuple of classes, or a union"
  | staticProtocol =>
    "Instance and class checks can only be used with @runtime_checkable protocols"
  | noClassGiven => "issubclass() arg 1 must be a class"

end CheckFault

inductive Container where
  | list | tuple | text | octets | buffer
deriving DecidableEq

namespace Container

def rangeText : Container → String
  | list => "list index out of range"
  | tuple => "tuple index out of range"
  | text => "string index out of range"
  | octets => "index out of range"
  | buffer => "bytearray index out of range"

def indexText (given : String) : Container → String
  | list => "list indices must be integers or slices, not " ++ given
  | tuple => "tuple indices must be integers or slices, not " ++ given
  | text => "string indices must be integers, not '" ++ given ++ "'"
  | octets => "byte indices must be integers or slices, not " ++ given
  | buffer => "bytearray indices must be integers or slices, not " ++ given

end Container

inductive Raised where
  /-- A value class refused a value of another class. -/
  | notUnboxed (given wanted : String)
  | notCast (given wanted : String)
  | uncheckable (fault : CheckFault)
  | badForm (fault : FormFault)
  | noAttribute (owner name : String)
  | noClassAttribute (owner name : String)
  /-- An enumeration was asked for something it lacks. -/
  | noMember (name : String)
  | readOnly (owner name : String)
  /-- An object that cannot be referred to weakly. -/
  | unreferable
  | notWritable (name owner : String)
  /-- A store on the name or the value of an enumeration member. -/
  | memberFixed (name : String)
  /-- A class was to be given a member it has, or to lose it. -/
  | memberKept (name : String)
  | memberUndeletable (owner name : String)
  /-- A built-in class was to be given an attribute or to lose one. -/
  | immutable (name owner : String)
  | classKept
  /-- The instances of a class are not made like those of the present one. -/
  | otherLayout (target owner : String)
  | classUndeletable
  | notClass (given : String)
  /-- What was to be the direct ancestors of a class is no tuple. -/
  | notBases (owner given : String)
  | notDictionary (given : String)
  | noGetter (name : Option String) (owner : String)
  | noSetter (name : Option String) (owner : String)
  | noDeleter (name : Option String) (owner : String)
  | guarded (text : String)
  | noFallback (name : String)
  /-- A direct store on a class. -/
  | inapplicable (metaclass : String)
  | nameNotText (given : String)
  | outOfRange (container : Container)
  | indexTooLarge
  | badIndex (container : Container) (given : String)
  | noKey (key : String)
  | notSubscriptable (owner : String)
  | classNotSubscriptable (owner : String)
  /-- An operator between operands that do not take it. -/
  | notOperable (operator left right : String)
  | notUnary (operator given : String)
  | notJoinable (kind : Builtin) (given : String)
  /-- Octets were to be joined with something else. -/
  | notConcatenated (given owner : String)
  /-- A sequence times what is no whole number. -/
  | notRepeated (given : String)
  | notCallable (owner : String)
  | takesNothing (owner : String)
  /-- An initializer gave something. -/
  | initialized (given : String)
  | notMember (given owner : String)
  | binding (callee : String) (fault : BindingFault)
  | noLength (owner : String)
  | notInteger (owner : String)
  | negativeLength
  /-- A name of a class that is no text. -/
  | unnamable (owner name given : String)
  | nameUndeletable (name owner : String)
  /-- A store on what a class tells of itself. -/
  | fixed
  | lengthArity (given : Nat)
  | noKeywords (callee : String)
  | construction (fault : ConstructionFault)
  /-- A default for the greatest of several arguments. -/
  | maximumDefault
  | tooManyKeywords (callee : String) (limit given : Nat)
  | notTruth (given : String)
  | maximumOfNothing
  | maximumOfEmpty
  | notIterable (owner : String)
  /-- What was to give elements one by one is something else. -/
  | notIterator (owner : String)
  | notOrdered (operator left right : String)
  /-- What is no text was sought in a text. -/
  | notContained (given : String)
  /-- What was to give entries has none. -/
  | notMapping (given : String)
  /-- What an object says is its hash is no number. -/
  | notHash
  /-- What an object says is its text is none. -/
  | notText (operation given : String)
  | badFormat (given : String)
  | badLayout (layout given : String)
  /-- A built-in routine that does not tell its formals. -/
  | untold (described : String)
  | noCallee (described : String)
  /-- Something that can be called but has nothing that tells its formals. -/
  | unsigned (described : String)
  /-- A routine of a class that takes no receiver. -/
  | noReceiver
  /-- What an object says its formals are is no list of formals. -/
  | badSignature (shown : String)
  /-- What wraps something is wrapped by it. -/
  | wrappedInItself (shown : String)
  | unknownName (name : String)
  | unassigned (slot : String)
  | user (kind : FailureKind) (text : String)
  | tooDeep
deriving DecidableEq

namespace Raised

def accessor (role : String) (name : Option String) (owner : String) : String :=
  let subject :=
    match name with
    | some known => "property " ++ Quoted.quote known
    | none => "property"
  subject ++ " of " ++ Quoted.quote owner ++ " object has no " ++ role

def failure : Raised → Failure
  | notUnboxed given wanted => .plain .unbox ("cannot unbox " ++ given ++ " to " ++ wanted)
  | notCast given wanted => .plain .invalidCast ("cannot cast " ++ given ++ " to " ++ wanted)
  | uncheckable fault => .plain .typeFault fault.message
  | badForm fault => fault.failure
  | noAttribute owner name =>
    .plain .attributeFault ("'" ++ owner ++ "' object has no attribute '" ++ name ++ "'")
  | noClassAttribute owner name =>
    .plain .attributeFault ("type object '" ++ owner ++ "' has no attribute '" ++ name ++ "'")
  | readOnly owner name =>
    .plain .attributeFault ("'" ++ owner ++ "' object attribute '" ++ name ++ "' is read-only")
  | noMember name => .plain .attributeFault name
  | unreferable => .plain .attributeFault "This object has no __weakref__"
  | notWritable name owner =>
    .plain .attributeFault ("attribute '" ++ name ++ "' of '" ++ owner ++ "' objects is not writable")
  | memberFixed name =>
    .plain .attributeFault ("<enum 'Enum'> cannot set attribute '" ++ name ++ "'")
  | memberKept name => .plain .attributeFault ("cannot reassign member " ++ Quoted.quote name)
  | memberUndeletable owner name =>
    .plain .attributeFault (Quoted.quote owner ++ " cannot delete member " ++ Quoted.quote name ++ ".")
  | immutable name owner =>
    .plain .typeFault ("cannot set '" ++ name ++ "' attribute of immutable type '" ++ owner ++ "'")
  | classKept =>
    .plain .typeFault
      "__class__ assignment only supported for mutable types or ModuleType subclasses"
  | otherLayout target owner =>
    .plain .typeFault ("__class__ assignment: '" ++ target ++ "' object layout differs from '" ++
      owner ++ "'")
  | classUndeletable => .plain .typeFault "can't delete __class__ attribute"
  | notBases owner given =>
    .plain .typeFault ("can only assign tuple to " ++ owner ++ ".__bases__, not " ++ given)
  | notClass given => .plain .typeFault ("__class__ must be set to a class, not '" ++ given ++ "' object")
  | notDictionary given =>
    .plain .typeFault ("__dict__ must be set to a dictionary, not a '" ++ given ++ "'")
  | noGetter name owner => .plain .attributeFault (accessor "getter" name owner)
  | noSetter name owner => .plain .attributeFault (accessor "setter" name owner)
  | noDeleter name owner => .plain .attributeFault (accessor "deleter" name owner)
  | guarded text => .plain .attributeFault text
  | noFallback name => .plain .attributeFault ("no fallback for " ++ name)
  | inapplicable metaclass =>
    .plain .typeFault ("can't apply this __setattr__ to " ++ metaclass ++ " object")
  | nameNotText given =>
    .plain .typeFault ("attribute name must be string, not '" ++ given ++ "'")
  | outOfRange container => .plain .indexFault container.rangeText
  | indexTooLarge => .plain .indexFault "cannot fit 'int' into an index-sized integer"
  | badIndex container given => .plain .typeFault (container.indexText given)
  | noKey key => .plain .keyFault key
  | notSubscriptable owner => .plain .typeFault ("'" ++ owner ++ "' object is not subscriptable")
  | classNotSubscriptable owner => .plain .typeFault ("type '" ++ owner ++ "' is not subscriptable")
  | notOperable operator left right =>
    .plain .typeFault
      ("unsupported operand type(s) for " ++ operator ++ ": '" ++ left ++ "' and '" ++ right ++ "'")
  | notUnary operator given =>
    .plain .typeFault ("bad operand type for unary " ++ operator ++ ": '" ++ given ++ "'")
  | notJoinable kind given =>
    .plain .typeFault
      ("can only concatenate " ++ kind.qualname ++ " (not \"" ++ given ++ "\") to " ++ kind.qualname)
  | notConcatenated given owner =>
    .plain .typeFault ("can't concat " ++ given ++ " to " ++ owner)
  | notRepeated given =>
    .plain .typeFault ("can't multiply sequence by non-int of type '" ++ given ++ "'")
  | notCallable owner => .plain .typeFault ("'" ++ owner ++ "' object is not callable")
  | takesNothing owner => .plain .typeFault (owner ++ "() takes no arguments")
  | initialized given =>
    .plain .typeFault ("__init__() should return None, not '" ++ given ++ "'")
  | notMember given owner => .plain .valueFault (given ++ " is not a valid " ++ owner)
  | binding callee fault => .plain .typeFault (fault.message callee)
  | noLength owner => .plain .typeFault ("object of type '" ++ owner ++ "' has no len()")
  | notInteger owner =>
    .plain .typeFault ("'" ++ owner ++ "' object cannot be interpreted as an integer")
  | negativeLength => .plain .valueFault "__len__() should return >= 0"
  | unnamable owner name given =>
    .plain .typeFault
      ("can only assign string to " ++ owner ++ "." ++ name ++ ", not '" ++ given ++ "'")
  | nameUndeletable name owner =>
    .plain .typeFault
      ("cannot delete '" ++ name ++ "' attribute of immutable type '" ++ owner ++ "'")
  | fixed => .plain .attributeFault "readonly attribute"
  | lengthArity given =>
    .plain .typeFault ("len() takes exactly one argument (" ++ toString given ++ " given)")
  | noKeywords callee => .plain .typeFault (callee ++ "() takes no keyword arguments")
  | construction fault => fault.failure
  | tooManyKeywords callee limit given =>
    .plain .typeFault
      (callee ++ "() takes at most " ++ toString limit ++ " keyword arguments (" ++
        toString given ++ " given)")
  | maximumDefault =>
    .plain .typeFault "Cannot specify a default for max() with multiple positional arguments"
  | notTruth given => .plain .typeFault ("__bool__ should return bool, returned " ++ given)
  | maximumOfNothing => .plain .typeFault "max expected at least 1 argument, got 0"
  | maximumOfEmpty => .plain .valueFault "max() arg is an empty sequence"
  | notIterable owner => .plain .typeFault ("'" ++ owner ++ "' object is not iterable")
  | notIterator owner =>
    .plain .typeFault ("iter() returned non-iterator of type '" ++ owner ++ "'")
  | notOrdered operator left right =>
    .plain .typeFault
      ("'" ++ operator ++ "' not supported between instances of '" ++ left ++ "' and '" ++ right ++
        "'")
  | notContained given =>
    .plain .typeFault ("'in <string>' requires string as left operand, not " ++ given)
  | notMapping given => .plain .typeFault ("'" ++ given ++ "' object is not a mapping")
  | notHash => .plain .typeFault "__hash__ method should return an integer"
  | notText operation given =>
    .plain .typeFault (operation ++ " returned non-string (type " ++ given ++ ")")
  | badFormat given => .plain .typeFault ("__format__ must return a str, not " ++ given)
  | badLayout layout given =>
    .plain .typeFault
      ("unsupported format string passed to " ++ given ++ ".__format__: " ++ layout)
  | untold described => .plain .valueFault ("no signature found for builtin " ++ described)
  | noCallee described => .plain .typeFault (described ++ " is not a callable object")
  | unsigned described =>
    .plain .valueFault ("callable " ++ described ++ " is not supported by signature")
  | noReceiver => .plain .valueFault "invalid method signature"
  | badSignature shown =>
    .plain .typeFault ("unexpected object " ++ shown ++ " in __signature__ attribute")
  | wrappedInItself shown =>
    .plain .valueFault ("wrapper loop when unwrapping " ++ shown)
  | unknownName name => .plain .nameFault ("name '" ++ name ++ "' is not defined")
  | unassigned slot =>
    .plain .unboundLocal
      ("cannot access local variable '" ++ slot ++ "' where it is not associated with a value")
  | user .keyFault text => .plain .keyFault (Quoted.quote text)
  | user kind text => .plain kind text
  | tooDeep => .plain .recursion "maximum recursion depth exceeded"

/-- Whether an attribute fallback answers for the failure. -/
def isAttributeFault (raised : Raised) : Bool := raised.failure.kind == .attributeFault

end Raised

end MemberThunks
