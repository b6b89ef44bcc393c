import MemberThunks.Conversion.OfForm

set_option autoImplicit false

/- Asking the objects on whose answers a conversion hangs. The world remembers what they have
   said, and what was asked for is tried again until nothing is left to be asked. -/
namespace MemberThunks.World

/-- The type that an answer stands for, if it stands for one. -/
def standing? : Value → Option TypeForm
  | .none => none
  | content => some content.toForm

/-- The world once a question has been answered. -/
def answered (world : World) (call : Caller) : Question → Run World
  | .supertype object =>
    match object.address? with
    | some address => do
      let found ← world.attribute? call object "__supertype__"
      return { world with
        supertypes := world.supertypes.put address (found.bind standing?) }
    | none => pure world
  | .texts values => world.hear call values

/-- Tries something in the world, and again in the world of each answer. -/
def settleWithin {ε α : Type} (call : Caller) (question? : ε → Option Question)
    (attempt : World → Except ε α) : Nat → World → Run (Except ε α)
  | 0, _ => Run.fail .tooDeep
  | rounds + 1, world =>
    match attempt world with
    | .ok made => pure (.ok made)
    | .error fault =>
      match question? fault with
      | none => pure (.error fault)
      | some question => do
        settleWithin call question? attempt rounds (← world.answered call question)

/-- What is made in the world once all that it hangs on has been asked. -/
def settle {ε α : Type} (world : World) (call : Caller) (question? : ε → Option Question)
    (attempt : World → Except ε α) : Run (Except ε α) :=
  settleWithin call question? attempt nestingLimit world

end MemberThunks.World
