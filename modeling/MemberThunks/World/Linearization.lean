set_option autoImplicit false

/- The resolution order of a class with several bases. The order keeps the order of
   the bases and of each base's own ancestors: the next class is the leftmost head
   of the remaining rows that stands in no row behind another class. -/
namespace MemberThunks.Linearization

variable {α : Type} [BEq α]

def eligible (rows : List (List α)) (candidate : α) : Bool :=
  rows.all fun row => !(row.drop 1).contains candidate

def choose (rows : List (List α)) : Option α :=
  (rows.filterMap List.head?).find? (eligible rows)

def dropHead (chosen : α) : List α → List α
  | [] => []
  | head :: rest => if head == chosen then rest else head :: rest

def advance (chosen : α) (rows : List (List α)) : List (List α) := rows.map (dropHead chosen)

/-- Each step takes a class off at least one row, so the entries bound the steps. -/
def mergeWithin : Nat → List (List α) → Option (List α)
  | 0, rows => if rows.all List.isEmpty then some [] else none
  | steps + 1, rows =>
    if rows.all List.isEmpty then some []
    else do
      let chosen ← choose rows
      let rest ← mergeWithin steps (advance chosen rows)
      return chosen :: rest

def merge (rows : List (List α)) : Option (List α) := mergeWithin rows.flatten.length rows

/-- The order of a new class above its bases, each given with its own order. -/
def order (target : α) (bases : List (α × List α)) : Option (List α) :=
  (merge (bases.map (·.2) ++ [bases.map (·.1)])).map (target :: ·)

end MemberThunks.Linearization
