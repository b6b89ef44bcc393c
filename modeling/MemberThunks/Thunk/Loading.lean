import MemberThunks.Text.NormalForm
import MemberThunks.Thunk.Basic

set_option autoImplicit false

/- Loading generated code. A tree may use any names but not give a parameter or a keyword
   twice, nor a value to the name that the language keeps for itself. A listing is loaded
   from its text, in which the name of the function has to be an identifier, and one that
   its compatibility form does not change. -/
namespace MemberThunks

inductive LoadFault where
  | nulInFileName
  /-- A constant of the language in the place of a name. -/
  | constantName (name : String)
  | repeatedParameter (name fileName : String)
  | repeatedKeyword (name fileName : String)
  /-- The name that the language keeps is given a value on a line. -/
  | reservedName (fileName : String) (line : Nat)
  | keyword (fileName : String)
  | foreignCharacter (c : Char) (fileName : String)
  /-- The function is defined under another name than it is fetched by. -/
  | renamed (name : String)
deriving DecidableEq

namespace LoadFault

/-- What stands after the last slash of a path. -/
def lastPart (path : String) : String := Parts.last '/' path

def located (message fileName : String) (line : Nat) : String :=
  message ++ " (" ++ lastPart fileName ++ ", line " ++ toString line ++ ")"

/-- A code point with four hexadecimal digits at least. -/
def codePoint (c : Char) : String :=
  let digits := (Nat.toDigits 16 c.toNat).map Char.toUpper
  "U+" ++ String.ofList (List.replicate (4 - digits.length) '0' ++ digits)

def failure : LoadFault → Failure
  | nulInFileName => .plain .valueFault "embedded null character"
  | constantName name =>
    .plain .valueFault ("identifier field can't represent '" ++ name ++ "' constant")
  | repeatedParameter name fileName =>
    .plain .malformed
      (located ("duplicate argument '" ++ name ++ "' in function definition") fileName 1)
  | repeatedKeyword name fileName =>
    .plain .malformed (located ("keyword argument repeated: " ++ name) fileName 2)
  | reservedName fileName line =>
    .plain .malformed (located ("cannot assign to " ++ KeywordFault.reservedName) fileName line)
  | keyword fileName => .plain .malformed (located "invalid syntax" fileName 1)
  | foreignCharacter c fileName =>
    .plain .malformed
      (located ("invalid character '" ++ String.ofList [c] ++ "' (" ++ codePoint c ++ ")")
        fileName 1)
  | renamed name => .plain .keyFault (Quoted.quote name)

end LoadFault

namespace Loading

/-- The words that are values and so no names. -/
def isConstant (name : String) : Bool := ["None", "True", "False"].contains name

/-- Checks of the names that a tree gives values to. -/
def checkNames (lambda : Lambda) (fileName : String) : Except LoadFault Unit :=
  match Expression.repeated? lambda.parameters with
  | some name => .error (.repeatedParameter name fileName)
  | none =>
    if lambda.parameters.contains KeywordFault.reservedName then
      .error (.reservedName fileName 1)
    else
      match lambda.body.keywordFault? with
      | some (.repeated name) => .error (.repeatedKeyword name fileName)
      | some .reserved => .error (.reservedName fileName 2)
      | none =>
        if lambda.name = KeywordFault.reservedName then .error (.reservedName fileName 1)
        else .ok ()

def checkTree (lambda : Lambda) (fileName : String) : Except LoadFault Unit :=
  match lambda.body.names.find? isConstant with
  | some name => .error (.constantName name)
  | none => checkNames lambda fileName

def checkListing (lowered : Listing) (fileName : String) : Except LoadFault Unit :=
  if Identifier.isKeyword lowered.name then .error (.keyword fileName)
  else
    match Identifier.firstForeign lowered.name.toList with
    | some c => .error (.foreignCharacter c fileName)
    | none =>
      if lowered.name = KeywordFault.reservedName then .error (.reservedName fileName 1)
      else if NormalForm.isNormal lowered.name then .ok ()
      else .error (.renamed lowered.name)

def check (code : Code) (fileName : String) : Except LoadFault Unit :=
  if fileName.toList.contains (Char.ofNat 0) then .error .nulInFileName
  else
    match code with
    | .tree lambda => checkTree lambda fileName
    | .listing lowered => checkListing lowered fileName

end Loading

namespace Code

/-- The thunk that some code becomes under the name of a file. -/
def load (code : Code) (fileName : String) : Except LoadFault Thunk := do
  Loading.check code fileName
  return ⟨code, fileName⟩

end Code

end MemberThunks
