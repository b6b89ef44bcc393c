import MemberThunks.World.Store

set_option autoImplicit false

/- Failures of generated code, located by the line of its source at which they arise.
   A thunk that is called with the wrong arguments fails before its first line. -/
namespace MemberThunks

structure Located where
  line : Option Nat
  raised : Raised
deriving DecidableEq

abbrev LocatedRun := ExceptT Located (StateM Store)

namespace LocatedRun

/-- Runs an action at a line. -/
def onLine {α : Type} (line : Option Nat) (action : Run α) : LocatedRun α :=
  ExceptT.adapt (Located.mk line) action

/-- Forgets the line. -/
def plain {α : Type} (action : LocatedRun α) : Run α :=
  ExceptT.adapt Located.raised action

def execute {α : Type} (action : LocatedRun α) (store : Store) : Except Located α × Store :=
  (ExceptT.run action).run store

end LocatedRun

end MemberThunks
