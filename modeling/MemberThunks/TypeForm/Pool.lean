import MemberThunks.TypeForm.Vocabulary

set_option autoImplicit false

/- A pool of forms with arguments. What is made under a label of arguments that equal
   those of a form made before is that form, so that it shows as it did first. -/
namespace MemberThunks.TypeForm

/-- What a form in a pool was made of. -/
structure Recipe where
  label : String
  /-- Whether its argument stood by itself. -/
  isOne : Bool
  arguments : List TypeForm
  /-- What the arguments have said that their hashes are. -/
  hashes : List (Option Int)

structure Pool where
  made : List (Recipe × TypeForm)

namespace Pool

def empty : Pool := ⟨[]⟩

/-- Whether two forms are equal as values of one class. -/
def isSame (left right : TypeForm) : Bool :=
  (Value.ofForm left).typeOf == (Value.ofForm right).typeOf && left.equal right

def areSame : List TypeForm → List TypeForm → Bool
  | [], [] => true
  | left :: lefts, right :: rights => isSame left right && areSame lefts rights
  | _, _ => false

/-- Whether arguments stand for others under a label. The values of a literal type have
to be of one class. -/
def matching (label : String) (left right : List TypeForm) : Bool :=
  if label = "Literal" then areSame left right else TypeForm.equalAll left right

/-- The forms that were made under a label of arguments with some hashes. -/
def candidates (pool : Pool) (wanted : Recipe) : List (Recipe × TypeForm) :=
  pool.made.filter fun entry =>
    entry.1.label == wanted.label && entry.1.isOne == wanted.isOne &&
      entry.1.hashes == wanted.hashes

def find? (pool : Pool) (wanted : Recipe) : Option TypeForm :=
  ((pool.candidates wanted).find? fun entry =>
    matching wanted.label entry.1.arguments wanted.arguments).map (·.2)

def add (pool : Pool) (recipe : Recipe) (form : TypeForm) : Pool :=
  ⟨pool.made ++ [(recipe, form)]⟩

end Pool

end MemberThunks.TypeForm
