import MemberThunks.Listing.Basic
import MemberThunks.Thunk.Located

set_option autoImplicit false

/- Running listings. Statements run one after the other, each on its own line, until one
   fails or the listing ends. A constant that goes by the name of the listing itself is
   hidden by it, so that its use calls the listing. -/
namespace MemberThunks

namespace Listing

/-- The values of the slots that are assigned. -/
abbrev Slots := Entries Nat Value

def read (slots : Slots) (slot : Nat) : Run Value :=
  match slots.lookup slot with
  | some value => pure value
  | none => Run.fail (.unassigned (Statement.slotName slot))

def readArgument (arguments : List Value) (index : Nat) : Run Value :=
  match arguments[index]? with
  | some value => pure value
  | none => Run.fail (.unassigned (Statement.argumentName index))

/-- Calls a constant by its name. -/
def callConstant (listing : Listing) (world : World) (caller itself : Caller) (label : String)
    (arguments : List Value) : Run Value :=
  if label = listing.name then itself .none arguments []
  else
    match listing.constants.lookup label with
    | some constant => constant.call world caller arguments
    | none => Run.fail (.unknownName label)

/-- Runs one statement and gives the slots after it. -/
def perform (listing : Listing) (world : World) (caller itself : Caller) (arguments : List Value)
    (slots : Slots) : Statement → Run Slots
  | .load slot index => do
    let value ← readArgument arguments index
    return slots.put slot value
  | .check slot label source => do
    let value ← read slots source
    let result ← listing.callConstant world caller itself label [value]
    return slots.put slot result
  | .store label target field source => do
    let object ← read slots target
    let value ← read slots source
    let _ ← listing.callConstant world caller itself label [object, .text field, value]
    return slots
  | .set label target source => do
    let object ← read slots target
    let value ← read slots source
    let _ ← listing.callConstant world caller itself label [object, value]
    return slots
  | .finish => return slots

def runFrom (listing : Listing) (world : World) (caller itself : Caller) (arguments : List Value)
    (line : Nat) (slots : Slots) : List Statement → LocatedRun Value
  | [] => return .none
  | statement :: rest => do
    let next ← LocatedRun.onLine (some line)
      (listing.perform world caller itself arguments slots statement)
    listing.runFrom world caller itself arguments (line + 1) next rest

/-- The line of the first statement. -/
def firstLine : Nat := 2

def formals (listing : Listing) : List Formal := listing.parameters.map Formal.named

/-- Calls the listing; calls of itself nest to the given depth at most. -/
def callWithin (listing : Listing) (world : World) (caller : Caller) :
    Nat → List Value → Entries String Value → LocatedRun Value
  | 0, _, _ => throw ⟨some firstLine, .tooDeep⟩
  | depth + 1, arguments, keywords =>
    match Binding.bind listing.formals arguments keywords with
    | .error fault => throw ⟨none, .binding listing.name fault⟩
    | .ok bound =>
      let itself : Caller := fun _ inner named =>
        LocatedRun.plain (listing.callWithin world caller depth inner named)
      listing.runFrom world caller itself (bound.map (·.2)) firstLine [] listing.statements

def call (listing : Listing) (world : World) (arguments : List Value) : LocatedRun Value :=
  listing.callWithin world (world.call World.callLimit) World.callLimit arguments []

end Listing

end MemberThunks
