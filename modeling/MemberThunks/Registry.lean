import MemberThunks.Options
import MemberThunks.Thunk.Loading

set_option autoImplicit false

/- The registry of thunks. Each load takes the next serial number, whether it succeeds or
   not. A thunk that is kept goes by a label until another takes the label or it is
   dropped; its source can be displayed for exactly as long, if its options say so. -/
namespace MemberThunks

structure Registry where
  serial : Nat
  live : Entries String Thunk
  /-- The sources that can be displayed, by file name. -/
  sources : Entries String String

namespace Registry

def empty : Registry := ⟨1, [], []⟩

/-- Loads code under the next file name. -/
def load (registry : Registry) (options : Options) (code : Code) :
    Except LoadFault Thunk × Registry :=
  (code.load (options.fileName code.name registry.serial),
    { registry with serial := registry.serial + 1 })

/-- Lets a thunk go together with its source. -/
def drop (registry : Registry) (label : String) : Registry :=
  match registry.live.lookup label with
  | none => registry
  | some thunk =>
    { registry with
      live := registry.live.remove label
      sources := registry.sources.remove thunk.fileName }

/-- Keeps a thunk under a label, in the place of the one that had it. -/
def keep (registry : Registry) (options : Options) (label : String) (thunk : Thunk) : Registry :=
  let freed := registry.drop label
  { freed with
    live := freed.live.put label thunk
    sources :=
      if options.registersSource then freed.sources.put thunk.fileName thunk.code.source
      else freed.sources }

def isRegistered (registry : Registry) (fileName : String) : Bool :=
  (registry.sources.lookup fileName).isSome

/-- The lines of a source, each with its line feed. -/
def linesOf (source : String) : List String :=
  (Parts.split '\n' source).map fun line => line ++ "\n"

def lines (registry : Registry) (fileName : String) : List String :=
  match registry.sources.lookup fileName with
  | none => []
  | some source => linesOf source

/-- A line by its number, the first being 1; empty where there is none. -/
def line (registry : Registry) (fileName : String) (number : Int) : String :=
  if 1 ≤ number then ((registry.lines fileName)[(number - 1).toNat]?).getD "" else ""

end Registry

end MemberThunks
