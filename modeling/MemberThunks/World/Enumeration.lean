import MemberThunks.TypeForm.Argument
import MemberThunks.World.Declaration
import MemberThunks.World.Store

set_option autoImplicit false

/- Declaring enumerations. An enumeration has its members under their labels; a repeated
   value is another label of the first member that has it. Each member keeps its value, its
   label, its class and its place among the members in its dictionary. -/
namespace MemberThunks

structure EnumerationDecl where
  name : String
  base : Builtin
  values : List (String × Value)

namespace World

/-- A value as a class of some kind of enumeration keeps it. -/
def normalized (base : Builtin) : Value → Value
  | .bool truth =>
    if base = .intEnum then .int (if truth then 1 else 0) else .bool truth
  | other => other

/-- The labels of an enumeration and their members. Each member takes an address, from the
given one on. -/
def enumMembers (target : ClassRef) (values : List (String × Value)) (address : Nat) :
    Entries String Value :=
  values.zipIdx.foldl (fun members entry =>
    let ((label, content), index) := entry
    let member :=
      match members.find? fun earlier => Value.holds content earlier.2 with
      | some earlier => earlier.2
      | none => .enumMember (address + index) target label content
    members ++ [(label, member)]) []

/-- What a member keeps in its dictionary. -/
def memberEntries (place : Nat) : Value → Entries String Value
  | .enumMember _ owner label content =>
    [("_value_", content), ("_name_", .text label), ("__objclass__", .cls owner),
      ("_sort_order_", .int place)]
  | _ => []

/-- The store once it has the entries of some members. -/
def keepMembers (store : Store) (members : List Value) : Store :=
  members.zipIdx.foldl (fun store (member, place) =>
    match member.address? with
    | some address => store.putEntries address (memberEntries place member)
    | none => store) store

/-- The members by their values, as far as those can stand as keys. -/
def membersByValue (world : World) (members : List Value) : List (Value × Value) :=
  members.filterMap fun member =>
    match member with
    | .enumMember _ _ _ content =>
      if (world.unhashable? content).isSome then none else some (content, member)
    | _ => none

/-- The values of members that cannot stand as keys. -/
def unkeyedValues (world : World) (members : List Value) : List Value :=
  members.filterMap fun member =>
    match member with
    | .enumMember _ _ _ content =>
      if (world.unhashable? content).isSome then some content else none
    | _ => none

/-- What an enumeration has of its kind, whatever its members. -/
def kindEntries (base : Builtin) : Entries String Attribute :=
  base.enumerationEntries ++ Builtin.enumerationMaker ++
  match base with
  | .intEnum => Builtin.methods (Builtin.told ["self", "format_spec"]) ["__format__"]
  | .strEnum =>
    Builtin.wrappers (Builtin.told ["self"]) ["__str__"] ++
      Builtin.methods (Builtin.told ["self", "format_spec"]) ["__format__"]
  | _ => []

/-- The entries of an enumeration with some labels and members. -/
def enumerationEntries (world : World) (base : Builtin) (labelled : Entries String Value) :
    Entries String Attribute :=
  let members := eachMember labelled
  let names := members.map fun member =>
    match member with
    | .enumMember _ _ label _ => .text label
    | other => other
  [("__module__", .value (.text moduleTitle)), ("__doc__", .value .none),
    ("_member_names_", .value (.list names)),
    ("_member_map_", .value (.dict (labelled.map fun member => (.text member.1, member.2)))),
    ("_value2member_map_", .value (.dict (world.membersByValue members))),
    ("_unhashable_values_", .value (.list (world.unkeyedValues members)))] ++
  kindEntries base ++ labelled.map fun member => (member.1, .value member.2)

def nextEnumeration (world : World) (base : Builtin) : ClassRef :=
  .enumeration world.classes.length (base != .enum)

/-- Adds an enumeration, whose members take addresses of the store. -/
def declareEnumeration (world : World) (store : Store) (decl : EnumerationDecl) : World × Store :=
  let target := world.nextEnumeration decl.base
  let values := decl.values.map fun entry => (entry.1, normalized decl.base entry.2)
  let labelled := enumMembers target values store.fresh
  let definition : ClassDef :=
    ⟨target, decl.name, decl.name, [.builtin decl.base],
      world.orderOf target [.builtin decl.base], [],
      world.enumerationEntries decl.base labelled,
      ⟨target :: world.chain (.builtin decl.base), false, false, []⟩, some decl.name⟩
  ({ world with classes := world.classes ++ [definition] },
    keepMembers { store with fresh := store.fresh + values.length } (eachMember labelled))

end World

end MemberThunks
