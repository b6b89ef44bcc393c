import MemberThunks.World.Forming

set_option autoImplicit false

/- Items of values by key. A class of the world may say itself what its items are; what
   acts as a sequence takes places that count from the end where they are negative, and a
   dictionary asks its class for what it lacks. An enumeration has its members as items,
   and other classes take keys as type arguments. -/
namespace MemberThunks

namespace World

/-- The item at an index, which counts from the end where it is negative. -/
def itemAt {α : Type} (items : List α) (index : Int) : Option α :=
  if 0 ≤ index then items[index.toNat]?
  else if 0 ≤ index + items.length then items[(index + items.length).toNat]?
  else none

def pick {α : Type} (world : World) (container : Container) (items : List α)
    (give : α → Value) (key : Value) : Except Raised Value :=
  match key.whole? with
  | some index =>
    if index < -9223372036854775808 ∨ 9223372036854775807 < index then .error .indexTooLarge
    else
      match itemAt items index with
      | some item => .ok (give item)
      | none => .error (.outOfRange container)
  | none => .error (.badIndex container (world.ownerName key))

/-- A value that stands as a key has to have a hash. -/
def checkKey (world : World) (key : Value) : Except Raised Unit :=
  match world.unhashable? key with
  | some owner => .error (.badForm (.unhashable (world.bareName owner)))
  | none => .ok ()

/-- The member of an enumeration under a label. -/
def memberUnder (world : World) (target : ClassRef) (key : Value) : Except Raised Value := do
  world.checkKey key
  match (world.membersOf target).find? fun member => (Value.text member.1).equal key with
  | some member => return member.2
  | none => throw (.noKey (key.display world))

/-- Whether what a class has under the name of an operation takes type arguments. -/
def takesArguments (target : ClassRef) : Option (ClassRef × Attribute) → Bool
  | some (_, .native _) => true
  | _ =>
    match target with
    | .builtin .type | .builtin .generic => true
    | .builtin (.other "typing" name) =>
      name = "Protocol" || name = "Annotated" || TypeForm.protocolNames.contains name
    | _ => false

/-- What a class gives between brackets. -/
def classItem (world : World) (call : Caller) (target : ClassRef) (key : Value) : Run Value :=
  match target with
  | .enumeration _ _ => Run.ofExcept (world.memberUnder target key)
  | _ =>
    let found := world.lookup target "__class_getitem__"
    if takesArguments target found then
      Value.ofForm <$> world.classForm call target (.ofValue key)
    else
      match found with
      | none => Run.fail (.classNotSubscriptable (world.bareName target))
      | some (owner, held) => do
        match ← world.readFromClass call target owner "__class_getitem__" held with
        | .none => Run.fail (.classNotSubscriptable (world.bareName target))
        | callee => call callee [key] []

/-- What a dictionary has under a key. One whose class says what it gives for what it
lacks is asked for that. -/
def entryUnder (world : World) (call : Caller) (container : Value)
    (entries : List (Value × Value)) (key : Value) : Run Value := do
  Run.ofExcept (world.checkKey key)
  match entries.find? fun entry => entry.1.equal key with
  | some entry => return entry.2
  | none =>
    match world.hook? container "__missing__" with
    | some answer => call answer [key] []
    | none => Run.fail (.noKey (key.display world))

/-- The item of a value that acts as a built-in one. -/
def nativeItem (world : World) (call : Caller) (container key : Value) : Run Value :=
  match container.payload with
  | .list items => Run.ofExcept (world.pick .list items id key)
  | .tuple items => Run.ofExcept (world.pick .tuple items id key)
  | .text content =>
    Run.ofExcept (world.pick .text content.toList (fun c => .text (String.ofList [c])) key)
  | .octets content =>
    Run.ofExcept (world.pick .octets content (fun octet => .int octet) key)
  | .buffer content =>
    Run.ofExcept (world.pick .buffer content (fun octet => .int octet) key)
  | .dict entries => world.entryUnder call container entries key
  | .holder kind shown held =>
    if (Value.holder kind shown held).isProxy then
      world.entryUnder call container (held.map fun entry => (.text entry.1, entry.2)) key
    else Run.fail (.notSubscriptable (world.ownerName container))
  | .cls target => world.classItem call target key
  | .form written => Value.ofForm <$> world.formWith call written (.ofValue key)
  | _ => Run.fail (.notSubscriptable (world.ownerName container))

/-- The item of any value by a key. -/
def item (world : World) (call : Caller) (container key : Value) : Run Value :=
  match world.hook? container "__getitem__" with
  | some answer => call answer [key] []
  | none => world.nativeItem call container key

end World

end MemberThunks
