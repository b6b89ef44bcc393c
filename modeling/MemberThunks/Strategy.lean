import MemberThunks.Conversion.Settling
import MemberThunks.Expression.Reading
import MemberThunks.Listing.Writing
import MemberThunks.Registry

set_option autoImplicit false

/- From members to thunks. Reads are made of expressions and writes of listings. A build
   may ask for a read or a write of whatever the member is, for a member of one kind, or
   for one of the two ways of generating code. -/
namespace MemberThunks

/-- What a build is asked to make code for; it may turn out to be no member. -/
inductive Candidate where
  | member (described : Member)
  | stranger (value : Value)

inductive MemberKind where
  | method
  | property
  | field
deriving DecidableEq

namespace MemberKind

def label : MemberKind → String
  | method => "method"
  | property => "property"
  | field => "field"

def admits (kind : MemberKind) (member : Member) : Bool :=
  match kind, member with
  | method, .method _ | property, .property _ | field, .field _ => true
  | _, _ => false

end MemberKind

inductive Request where
  | read
  | write
  | readKind (kind : MemberKind)
  | writeKind (kind : MemberKind)
  | byExpression
  | byListing
deriving DecidableEq

inductive CompileFault where
  | build (fault : BuildFault)
  | lower (fault : LowerFault)
  | load (fault : LoadFault)
  /-- A type that is asked for alone has no conversion. -/
  | unsupported (fault : UnsupportedType)
  /-- What is asked on the way fails. -/
  | escaped (raised : Raised)

namespace CompileFault

def failure : CompileFault → Failure
  | build fault => fault.failure
  | lower fault => fault.failure
  | load fault => fault.failure
  | unsupported fault => fault.failure none
  | escaped raised => raised.failure

end CompileFault

/-- Making code, which may ask the objects of the world. -/
abbrev Making := ExceptT CompileFault (StateM Store)

namespace Making

/-- What is found by asking. -/
def asking {α : Type} (action : Run α) : Making α := ExceptT.adapt CompileFault.escaped action

/-- What is made once all that it hangs on has been asked. -/
def settling {ε α : Type} (world : World) (caller : Caller) (question? : ε → Option Question)
    (fault : ε → CompileFault) (attempt : World → Except ε α) : Making α := do
  match ← asking (world.settle caller question? attempt) with
  | .ok made => return made
  | .error found => throw (fault found)

end Making

namespace Candidate

/-- The bare name of the class of a candidate. -/
def kindName (world : World) : Candidate → String
  | member described => described.kindName
  | stranger value => world.ownName value.typeOf

/-- Blames a candidate by the qualified name that it tells, if it tells one. -/
def blame {α : Type} (world : World) (caller : Caller) (fault : Option String → BuildFault) :
    Candidate → Making α
  | member described => throw (.build (fault (some (described.qualname world))))
  | stranger value => do
    let told ← Making.asking (world.normalGet caller value "qualname")
    if told.isNone then throw (.build (fault none))
    else throw (.build (fault (some (← Making.asking (world.formatted caller told "")))))

def isSettable : Candidate → Bool
  | member (.property _) | member (.field _) => true
  | _ => false

end Candidate

namespace Strategy

/-- The conversion to a type that no member declares. -/
def conversion (world : World) (caller : Caller) (form : TypeForm) (nullable : Bool) :
    Making (Option Conversion) :=
  Making.settling world caller UnsupportedType.question? .unsupported fun known =>
    known.conversionFor form nullable

def lambda (world : World) (caller : Caller) : Candidate → Making Lambda
  | .member described =>
    Making.settling world caller BuildFault.question? .build fun known =>
      Reading.member known described
  | other => throw (.build (.notReadable (other.kindName world)))

def program (world : World) (caller : Caller) : Candidate → Making Program
  | .member described =>
    Making.settling world caller BuildFault.question? .build fun known =>
      Writing.member known described
  | other => other.blame world caller .notWritable

/-- The setter of a property, which no other member has. What is no member may have a
name and a setter all the same. -/
def virtualSetter (world : World) (caller : Caller) : Candidate → Making VirtualSetter
  | .member (.property details) => return .ofProperty details
  | .member other => throw (.build (.noMember (.noAttribute other.kindName "setter")))
  | .stranger value => do
    let name ← Making.asking (world.normalGet caller value "name")
    let setter ← Making.asking (world.normalGet caller value "setter")
    return ⟨name, if setter.isNone then none else some setter⟩

def tree (world : World) (caller : Caller) (candidate : Candidate) : Making Code :=
  Code.tree <$> lambda world caller candidate

def lowered (world : World) (caller : Caller) (program : Program) : Making Code :=
  Code.listing <$> Making.settling world caller LowerFault.question? .lower fun known =>
    program.lower known

def listing (world : World) (caller : Caller) (candidate : Candidate) : Making Code := do
  lowered world caller (← program world caller candidate)

/-- The code for a write, which only properties and fields have. -/
def settable (world : World) (caller : Caller) (candidate : Candidate) : Making Code :=
  if candidate.isSettable then listing world caller candidate
  else candidate.blame world caller .notSettable

/-- Refuses candidates of any other kind than the one expected. -/
def ofKind (world : World) (kind : MemberKind) (candidate : Candidate) : Making Unit :=
  let fits :=
    match candidate with
    | .member described => kind.admits described
    | .stranger _ => false
  if fits then pure () else throw (.build (.wrongKind kind.label (candidate.kindName world)))

/-- The code that a request asks for. -/
def code (world : World) (caller : Caller) (request : Request) (candidate : Candidate) :
    Making Code :=
  match request with
  | .byExpression => tree world caller candidate
  | .byListing => listing world caller candidate
  | .readKind kind => do
    ofKind world kind candidate
    tree world caller candidate
  | .writeKind kind => do
    ofKind world kind candidate
    settable world caller candidate
  | .write => settable world caller candidate
  | .read =>
    match candidate with
    | .member (.bare _ _) | .stranger _ =>
      throw (.build (.unknownKind (candidate.kindName world)))
    | known => tree world caller known

/-- The source of the code that a read or a write of a member would be made of. -/
def source (world : World) (caller : Caller) (writes : Bool) (candidate : Candidate) :
    Making String :=
  Code.source <$>
    if writes then settable world caller candidate else tree world caller candidate

/-- Loads code and keeps it under a label, if one is given. -/
def install (registry : Registry) (options : Options) (label : Option String) (code : Code) :
    Except LoadFault Thunk × Registry :=
  match registry.load options code, label with
  | (.ok thunk, next), some label => (.ok thunk, next.keep options label thunk)
  | loaded, _ => loaded

/-- Builds a thunk for a candidate. -/
def build (world : World) (caller : Caller) (registry : Registry) (options : Options)
    (request : Request) (label : Option String) (candidate : Candidate) :
    StateM Store (Except CompileFault Thunk × Registry) := do
  match ← code world caller request candidate with
  | .error fault => return (.error fault, registry)
  | .ok made =>
    let (loaded, next) := install registry options label made
    return (loaded.mapError CompileFault.load, next)

end Strategy

/-- A line of the log of builds. -/
structure LogRecord where
  level : String
  logger : String
  message : String
deriving DecidableEq

namespace LogRecord

/-- What a successful build logs: which code was made for which member, and its source. -/
def ofBuild (world : World) (code : Code) (member : Member) : List LogRecord :=
  match code with
  | .tree lambda =>
    ["compiled " ++ lambda.name ++ " for " ++ member.qualname world, lambda.source].map
      (LogRecord.mk "DEBUG" "latebound.expressions")
  | .listing lowered =>
    ["emitted Set" ++ member.name ++ " for " ++ member.qualname world, lowered.source].map
      (LogRecord.mk "DEBUG" "latebound.emit")

end LogRecord

end MemberThunks
