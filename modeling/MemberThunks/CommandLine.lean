import MemberThunks.Member.Describe
import MemberThunks.Strategy

set_option autoImplicit false

/- The command line: prints the source of the thunk for a member that is named by a
   module, a class and the member. It ends with 0 after printing, 1 where the member
   cannot be found or has no such thunk, and 2 where the arguments are at fault. -/
namespace MemberThunks

namespace CommandLine

def usage : String := "\n".intercalate [
  "latebound [OPTIONS] MODULE:CLASS.MEMBER",
  "",
  "Print the Python source of the thunk compiled for a method, property or field.",
  "",
  "Options:",
  "  --set          Print the write thunk (properties and fields only)",
  "  -v, --verbose  Also compile the thunk, logging at DEBUG level on stderr",
  "  --help         Show this help message",
  "",
  "Environment:",
  "  LATEBOUND_REGISTER_SOURCE, LATEBOUND_NAME_PREFIX",
  ""]

structure Arguments where
  target : String
  writes : Bool
  verbose : Bool
deriving DecidableEq

inductive ArgumentFault where
  | unknownFlag (flag : String)
  | unexpected (argument : String)
  | missingTarget
deriving DecidableEq

/-- What the arguments ask for. -/
inductive Parsed where
  | help
  | fault (fault : ArgumentFault)
  | arguments (arguments : Arguments)
deriving DecidableEq

def parseFrom (sofar : Arguments) : List String → Parsed
  | [] => if sofar.target = "" then .fault .missingTarget else .arguments sofar
  | argument :: rest =>
    if argument = "--help" ∨ argument = "-h" then .help
    else if argument = "--set" then parseFrom { sofar with writes := true } rest
    else if argument = "--verbose" ∨ argument = "-v" then
      parseFrom { sofar with verbose := true } rest
    else if argument.startsWith "-" then .fault (.unknownFlag argument)
    else if sofar.target = "" then parseFrom { sofar with target := argument } rest
    else .fault (.unexpected argument)

def parse (arguments : List String) : Parsed := parseFrom ⟨"", false, false⟩ arguments

/-- A target in its three parts. -/
structure Target where
  moduleName : String
  owner : List String
  member : String
deriving DecidableEq

def Target.ownerPath (target : Target) : String := ".".intercalate target.owner

/-- Splits at the first occurrence of a character. -/
def splitFirst (separator : Char) : List Char → Option (List Char × List Char)
  | [] => none
  | c :: rest =>
    if c = separator then some ([], rest)
    else (splitFirst separator rest).map fun parts => (c :: parts.1, parts.2)

/-- Splits at the last occurrence of a character. -/
def splitLast (separator : Char) (text : List Char) : Option (List Char × List Char) :=
  (splitFirst separator text.reverse).map fun parts => (parts.2.reverse, parts.1.reverse)

/-- The parts of a text between the occurrences of a character. -/
def splitAll (separator : Char) : List Char → List (List Char)
  | [] => [[]]
  | c :: rest =>
    match splitAll separator rest with
    | [] => [[c]]
    | part :: parts => if c = separator then [] :: part :: parts else (c :: part) :: parts

/-- A target is a module, a colon, the path of a class, a dot and a member. -/
def parseTarget (text : String) : Option Target := do
  let (moduleName, path) ← splitFirst ':' text.toList
  let (owner, member) ← splitLast '.' path
  if moduleName.isEmpty then none
  else
    return ⟨String.ofList moduleName, (splitAll '.' owner).map String.ofList, String.ofList member⟩

inductive ResolveFault where
  | malformedTarget (text : String)
  | notClass (moduleName owner : String)
  | noModule (name : String)
  | notPackage (name parent : String)
  | noModuleAttribute (name : String)
  /-- An attribute on the way cannot be read. -/
  | unreadable (raised : Raised)
  /-- A module that is named relative to no package. -/
  | relative (name : String)
deriving DecidableEq

/-- How the command ends on a fault: it lies in the form of the target, the target cannot
be found, or the fault escapes. -/
inductive ResolveFault.Blame where
  | usage
  | target
  | escapes
deriving DecidableEq

def ResolveFault.blame : ResolveFault → Blame
  | malformedTarget _ | notClass _ _ => .usage
  | noModule _ | notPackage _ _ | noModuleAttribute _ => .target
  | unreadable raised =>
    let kind := raised.failure.kind
    if kind.isValueFailure then .usage
    else if kind.isImportFailure || kind = .attributeFault then .target
    else .escapes
  | relative _ => .escapes

def ResolveFault.message : ResolveFault → String
  | malformedTarget text => "expected MODULE:CLASS.MEMBER, got '" ++ text ++ "'"
  | notClass moduleName owner => "'" ++ moduleName ++ ":" ++ owner ++ "' is not a class"
  | noModule name => "No module named " ++ Quoted.quote name
  | notPackage name parent =>
    "No module named " ++ Quoted.quote name ++ "; " ++ Quoted.quote parent ++ " is not a package"
  | noModuleAttribute name => "module 'world' has no attribute '" ++ name ++ "'"
  | unreadable raised => raised.failure.message
  | relative name =>
    "the 'package' argument is required to perform a relative import for " ++ Quoted.quote name

def ResolveFault.failure : ResolveFault → Failure
  | unreadable raised => raised.failure
  | other => .plain .typeFault other.message

def importModule (name : String) : Except ResolveFault Unit :=
  if name = World.moduleTitle then .ok ()
  else if name.startsWith "." then .error (.relative name)
  else
    match name.splitOn "." with
    | first :: second :: _ =>
      if first = World.moduleTitle then .error (.notPackage (first ++ "." ++ second) first)
      else .error (.noModule first)
    | _ => .error (.noModule name)

/-- The module of the world as a value. -/
def moduleObject : Value :=
  .foreign (.other "" "module") ("<module " ++ Quoted.quote World.moduleTitle ++ ">")

/-- Resolving a target in a world, which may ask the world for attributes. -/
abbrev Resolving := ExceptT ResolveFault (StateM Store)

/-- An attribute of the module: what it has itself, or what every module has. -/
def moduleAttribute (world : World) (caller : Caller) (name : String) : Resolving Value :=
  match world.moduleValue? name with
  | some value => pure value
  | none => ExceptT.adapt (fun _ => .noModuleAttribute name) (world.directGet caller moduleObject name)

/-- Follows a path of attributes. -/
def walk (world : World) (caller : Caller) (value : Value) : List String → Run Value
  | [] => pure value
  | name :: rest => do
    let next ← world.normalGet caller value name
    walk world caller next rest

/-- Follows a path of attributes from the module. -/
def walkModule (world : World) (caller : Caller) : List String → Resolving Value
  | [] => throw (.noModuleAttribute "")
  | name :: rest => do
    let first ← moduleAttribute world caller name
    ExceptT.adapt .unreadable (walk world caller first rest)

/-- The class and the member name that a target names. -/
def resolve (world : World) (caller : Caller) (text : String) : Resolving (ClassRef × String) :=
  match parseTarget text with
  | none => throw (.malformedTarget text)
  | some target => do
    ExceptT.mk (pure (importModule target.moduleName))
    match ← walkModule world caller target.owner with
    | .cls found => return (found, target.member)
    | _ => throw (.notClass target.moduleName target.ownerPath)

structure Outcome where
  exit : Nat
  output : String
  errors : String
deriving DecidableEq

def complain (exit : Nat) (message : String) : Outcome :=
  ⟨exit, "", "latebound: " ++ message ++ "\n"⟩

def ArgumentFault.message : ArgumentFault → String
  | unknownFlag flag => "unknown flag '" ++ flag ++ "'"
  | unexpected argument => "unexpected argument '" ++ argument ++ "'"
  | missingTarget => "missing MODULE:CLASS.MEMBER argument"

def logText (records : List LogRecord) : String :=
  String.join (records.map fun record =>
    record.level ++ " " ++ record.logger ++ ": " ++ record.message ++ "\n")

/-- A failure of the library's own ends the command; any other escapes from it. -/
def failed (failure : Failure) : Except Failure Outcome :=
  if failure.kind.isOwn then .ok (complain 1 ("error: " ++ failure.text)) else .error failure

/-- Prints the source for a member. A verbose run also builds the thunk, for its log. -/
def printSource (world : World) (caller : Caller) (registry : Registry) (options : Options)
    (arguments : Arguments) (member : Member) :
    StateM Store (Except Failure Outcome × Registry) := do
  match ← Strategy.source world caller arguments.writes (.member member) with
  | .error fault => return (failed fault.failure, registry)
  | .ok source =>
    if arguments.verbose then
      let request := if arguments.writes then Request.write else Request.read
      match ← Strategy.build world caller registry options request none (.member member) with
      | (.error fault, next) => return (failed fault.failure, next)
      | (.ok thunk, next) =>
        return (.ok ⟨0, source ++ "\n", logText (LogRecord.ofBuild world thunk.code member)⟩, next)
    else return (.ok ⟨0, source ++ "\n", ""⟩, registry)

/-- What a target that cannot be resolved ends the command with. -/
def unresolved (target : String) (fault : ResolveFault) : Except Failure Outcome :=
  match fault.blame with
  | .usage => .ok (complain 2 fault.message)
  | .target => .ok (complain 1 ("cannot resolve '" ++ target ++ "': " ++ fault.message))
  | .escapes => .error fault.failure

def runWith (world : World) (registry : Registry) (options : Options) (arguments : Arguments) :
    StateM Store (Except Failure Outcome × Registry) := do
  let caller := world.call World.callLimit
  match ← resolve world caller arguments.target with
  | .error fault => return (unresolved arguments.target fault, registry)
  | .ok (owner, name) =>
    match ← Describe.member world caller owner name with
    | .error fault => return (failed fault.failure, registry)
    | .ok member => printSource world caller registry options arguments member

/-- Runs the command line in a world. What is not the library's own failure escapes. -/
def run (world : World) (registry : Registry) (environment : Entries String String)
    (arguments : List String) : StateM Store (Except Failure Outcome × Registry) :=
  match parse arguments with
  | .help => return (.ok ⟨0, usage, ""⟩, registry)
  | .fault fault => return (.ok (complain 2 fault.message), registry)
  | .arguments parsed => runWith world registry (Options.ofEnvironment environment) parsed

end CommandLine

end MemberThunks
