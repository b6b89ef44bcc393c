import MemberThunks.Failure
import MemberThunks.Text.Quoted

set_option autoImplicit false

/- Why a built-in class makes no value of its arguments. -/
namespace MemberThunks

inductive ConstructionFault where
  /-- More than the one argument that a class takes. -/
  | expectedOne (callee : String) (given : Nat)
  | takesAtMost (callee : String) (limit given : Nat)
  | unknownKeyword (name callee : String)
  | givenTwice (callee name : String) (place : Nat)
  | takesNone (owner : String)
  /-- A class is made of one argument or of three. -/
  | classArity
  /-- A class of which only classes that define some methods have instances. -/
  | abstractClass (owner : String) (methods : List String)
  /-- A class or a form of which nothing is made. -/
  | notMade (owner : String)
  | notMadeOf (shown : String)
  /-- An alias called in the place of its class. -/
  | aliasCalled (name owner : String)
  /-- What gives its only argument back. -/
  | identityArity (given : Nat)
  | identityKeywords
  /-- A base without digits. -/
  | noDigits
  | baseForNumber
  | badBase
  | badWhole (base : Nat) (shown : String)
  | badReal (shown : String)
  | badComplex
  | notWhole (given : String)
  | notReal (given : String)
  | notComplex (given : String)
  | notImaginary (given : String)
  | imaginaryText
  | imaginaryAfterText
  /-- What an object gave for a number of it. -/
  | gaveOther (operation wanted given : String)
  | gaveNoReal (owner given : String)
  | infiniteWhole
  | undefinedWhole
  | tooLarge
  /-- What tells how a text is written is no text. -/
  | notName (callee name given : String)
  | decodedText
  | notDecoded (given : String)
  | unknownEncoding (name : String)
  | noEncoding
  /-- A text is asked for by what tells how it is written. -/
  | noTextFor (name : String)
  | negativeCount
  | octetRange (subject : String)
  | notOctets (given callee : String)
  /-- An element that was to be a key with its value, by its place. -/
  | notPair (place : Nat)
  | wrongPair (place count : Nat)
deriving DecidableEq

namespace ConstructionFault

def kind : ConstructionFault → FailureKind
  | badBase | badWhole _ _ | badReal _ | badComplex | undefinedWhole | negativeCount | octetRange _
  | wrongPair _ _ => .valueFault
  | infiniteWhole | tooLarge => .other "OverflowError"
  | unknownEncoding _ => .other "LookupError"
  | _ => .typeFault

/-- The name of what gives its only argument back. -/
def identityName : String := "_typing._idfunc"

def message : ConstructionFault → String
  | expectedOne callee given =>
    callee ++ " expected at most 1 argument, got " ++ toString given
  | takesAtMost callee limit given =>
    callee ++ "() takes at most " ++ toString limit ++ " arguments (" ++ toString given ++ " given)"
  | unknownKeyword name callee =>
    "'" ++ name ++ "' is an invalid keyword argument for " ++ callee ++ "()"
  | givenTwice callee name place =>
    "argument for " ++ callee ++ "() given by name ('" ++ name ++ "') and position (" ++
      toString place ++ ")"
  | takesNone owner => owner ++ " takes no arguments"
  | classArity => "type() takes 1 or 3 arguments"
  | abstractClass owner methods =>
    "Can't instantiate abstract class " ++ owner ++ " with abstract method" ++
      (if methods.length = 1 then " " else "s ") ++ ", ".intercalate methods
  | notMade owner => owner ++ " cannot be instantiated"
  | notMadeOf shown => "Cannot instantiate " ++ shown
  | aliasCalled name owner =>
    "Type " ++ name ++ " cannot be instantiated; use " ++ owner ++ "() instead"
  | identityArity given =>
    identityName ++ "() takes exactly one argument (" ++ toString given ++ " given)"
  | identityKeywords => identityName ++ "() takes no keyword arguments"
  | noDigits => "int() missing string argument"
  | baseForNumber => "int() can't convert non-string with explicit base"
  | badBase => "int() base must be >= 2 and <= 36, or 0"
  | badWhole base shown => "invalid literal for int() with base " ++ toString base ++ ": " ++ shown
  | badReal shown => "could not convert string to float: " ++ shown
  | badComplex => "complex() arg is a malformed string"
  | notWhole given =>
    "int() argument must be a string, a bytes-like object or a real number, not '" ++ given ++ "'"
  | notReal given => "float() argument must be a string or a real number, not '" ++ given ++ "'"
  | notComplex given =>
    "complex() first argument must be a string or a number, not '" ++ given ++ "'"
  | notImaginary given => "complex() second argument must be a number, not '" ++ given ++ "'"
  | imaginaryText => "complex() second arg can't be a string"
  | imaginaryAfterText => "complex() can't take second arg if first is a string"
  | gaveOther operation wanted given =>
    operation ++ " returned non-" ++ wanted ++ " (type " ++ given ++ ")"
  | gaveNoReal owner given =>
    owner ++ ".__float__ returned non-float (type " ++ given ++ ")"
  | infiniteWhole => "cannot convert float infinity to integer"
  | undefinedWhole => "cannot convert float NaN to integer"
  | tooLarge => "int too large to convert to float"
  | notName callee name given =>
    callee ++ "() argument '" ++ name ++ "' must be str, not " ++ given
  | decodedText => "decoding str is not supported"
  | notDecoded given => "decoding to str: need a bytes-like object, " ++ given ++ " found"
  | unknownEncoding name => "unknown encoding: " ++ name
  | noEncoding => "string argument without an encoding"
  | noTextFor name => name ++ " without a string argument"
  | negativeCount => "negative count"
  | octetRange subject => subject ++ " must be in range(0, 256)"
  | notOctets given callee => "cannot convert '" ++ given ++ "' object to " ++ callee
  | notPair place =>
    "cannot convert dictionary update sequence element #" ++ toString place ++ " to a sequence"
  | wrongPair place count =>
    "dictionary update sequence element #" ++ toString place ++ " has length " ++ toString count ++
      "; 2 is required"

def failure (fault : ConstructionFault) : Failure := .plain fault.kind fault.message

end ConstructionFault

end MemberThunks
