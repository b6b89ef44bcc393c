import MemberThunks.Conversion.Basic
import MemberThunks.Proofs.ObjectAccess
import MemberThunks.World.Call
import MemberThunks.World.Declaration

set_option autoImplicit false

/- Reading a function of the world from an object of the world. No built-in class has such a
   function, so the class that has it is one of the world, and so is the class of the object;
   what is read is the function bound as its attachment says, and calling that runs it. -/
namespace MemberThunks

namespace Attribute

-- Whether a function of a world may stand here, or a setter. No built-in class has such an entry.
def isOfWorld : Attribute → Bool
  | value (.function _ _) | static _ | classBound _ => true
  | property definition => definition.setter.isSome
  | _ => false

theorem attach_is_of_world (attachment : Attachment) (index : Nat) (qualname : String) :
    (World.attach attachment (.function index qualname)).isOfWorld = true := by
  cases attachment <;> rfl

end Attribute

namespace Builtin

theorem form_entries_native (name : String) :
    (((FormEntries.ofClass? name).getD (reserved ["__doc__"])).all fun entry =>
      !entry.2.isOfWorld) = true := by
  unfold FormEntries.ofClass?
  split <;> rfl

theorem accessors_native (name : String) :
    ((accessors name).all fun entry => !entry.2.isOfWorld) = true := by
  unfold accessors
  split
  · rfl
  · split <;> rfl

theorem entries_native (kind : Builtin) :
    (kind.entries.all fun entry => !entry.2.isOfWorld) = true := by
  unfold entries
  split
  case h_24 name => exact form_entries_native name
  case h_26 home name _ _ _ _ =>
    rw [List.all_append, accessors_native, Bool.true_and]
    split
    · by_cases aliased : name = "GenericAlias"
      · rw [if_pos aliased]
        rfl
      · rw [if_neg aliased]
        rfl
    · rfl
  all_goals rfl

end Builtin

namespace Value

theorem address_of_place {value : Value} {place : Nat} (placed : value.typeOf.place? = some place) :
    ∃ address, value.address? = some address := by
  cases value <;> first | exact ⟨_, rfl⟩ | cases placed

end Value

namespace World

variable {world : World} {start holder : ClassRef} {name : String} {entry : Attribute}

theorem held_of_lookup (found : world.lookup start name = some (holder, entry)) :
    holder ∈ world.order start ∧ world.ownAttribute? holder name = some entry := by
  obtain ⟨target, listed, own⟩ := List.exists_of_findSome?_eq_some found
  obtain ⟨held, known, same⟩ := Option.map_eq_some_iff.mp own
  cases same
  exact ⟨listed, known⟩

theorem place_of_holder (found : world.lookup start name = some (holder, entry))
    (ofWorld : entry.isOfWorld = true) : ∃ place, holder.place? = some place := by
  obtain ⟨_, own⟩ := held_of_lookup found
  cases holder with
  | declared place => exact ⟨place, rfl⟩
  | enumeration place transparent => exact ⟨place, rfl⟩
  | builtin kind =>
      -- nothing is ever added to a built-in namespace, and no entry of one is of a world
      obtain ⟨before, after, split, _⟩ := List.lookup_eq_some_iff.mp own
      have listed : (name, entry) ∈ kind.entries := by
        rw [show kind.entries = before ++ (name, entry) :: after from split]
        simp
      have native := List.all_eq_true.mp kind.entries_native _ listed
      simp [ofWorld] at native

theorem place_of_start (found : world.lookup start name = some (holder, entry))
    (ofWorld : entry.isOfWorld = true) : ∃ place, start.place? = some place := by
  cases start with
  | declared place => exact ⟨place, rfl⟩
  | enumeration place transparent => exact ⟨place, rfl⟩
  | builtin kind =>
      obtain ⟨place, placed⟩ := place_of_holder found ofWorld
      obtain ⟨ancestor, _, same⟩ := List.mem_map.mp (held_of_lookup found).1
      subst same
      cases placed

end World

namespace Attachment

-- What reading gives for a function that is attached in some way.
def bind (target callee : Value) : Attachment → Value
  | toTarget => .bound target callee
  | toClass => .bound (.cls target.typeOf) callee
  | free => callee

-- What comes before the arguments of a call then.
def receivers (target : Value) : Attachment → List Value
  | toTarget => [target]
  | toClass => [.cls target.typeOf]
  | free => []

end Attachment

namespace World

-- A target on which a name leads to an entry that an owner declares, by way of the class of
-- the target alone. Another class may hold the same entry under the name, if the target is
-- also of the owner.
structure Leads (world : World) (store : Store) (target : Value) (name : String) (owner : ClassRef)
    (entry : Attribute) : Prop where
  found : ∃ holder, world.lookup (store.current target).typeOf name = some (holder, entry) ∧
    (holder = owner ∨ world.isSubclass (store.current target).typeOf owner = true)
  unhooked : world.hook? (store.current target) "__getattribute__" = none
  unshadowed : world.ownEntry store (store.current target) name = none

section Leads

variable {world : World} {call : Caller} {store : Store} {target : Value} {name : String}
  {owner : ClassRef} {attachment : Attachment} {index : Nat} {qualname : String}

theorem narrow_of_subclass {place : Nat} (placed : owner.place? = some place)
    (derives : world.isSubclass (store.current target).typeOf owner = true) :
    ((Conversion.cast (.cls owner) false).apply world call target).execute store =
      (.ok target, store) := by
  have instances : world.isInstance call (store.current target) owner = pure true := by
    cases owner with
    | builtin kind => cases placed
    | declared place => simp only [isInstance, derives, if_true]
    | enumeration place transparent => simp only [isInstance, derives, if_true]
  have accepted : (Conversion.cast (.cls owner) false).accepts world call (store.current target) =
      pure true := by
    rw [Conversion.accepts, isInstanceOf, instances]
  have required : ((store.current target).isNone &&
      (Conversion.cast (.cls owner) false).nullable) = false := by
    simp [Conversion.nullable]
  have started : (get : Run Store).execute store = (.ok store, store) := rfl
  rw [Conversion.apply, Run.execute_bind_ok started]
  simp only [required, accepted]
  rfl

theorem leads_narrow
    (leads : world.Leads store target name owner (attach attachment (.function index qualname)))
    {place : Nat} (placed : owner.place? = some place) :
    ((Conversion.cast (.cls owner) false).apply world call target).execute store =
      (.ok target, store) := by
  obtain ⟨holder, found, reaches⟩ := leads.found
  apply narrow_of_subclass placed
  cases reaches with
  | inr derives => exact derives
  | inl same =>
      rw [← same]
      exact List.contains_iff_mem.mpr (held_of_lookup found).1

-- A function has no way to say how it is stored, so an entry of the object may hide it.
theorem function_not_dominant (world : World) (index : Nat) (qualname : String) :
    world.operation? (.function index qualname) "__get__" = none := by
  rfl

theorem direct_get_function (known : store.current target = target)
    {holder : ClassRef} (found : world.lookup target.typeOf name =
      some (holder, attach attachment (.function index qualname)))
    (unshadowed : world.ownEntry store target name = none) :
    (world.directGet call target name).execute store =
      (.ok (attachment.bind target (.function index qualname)), store) := by
  have reads := function_not_dominant world index qualname
  have started : (get : Run Store).execute store = (.ok store, store) := rfl
  rw [directGet, Run.execute_bind_ok started, known]
  cases attachment with
  | toTarget =>
      simp only [attach] at found
      have weak : world.isDominant (.function index qualname) = false := by
        rw [isDominant, reads]
        rfl
      simp only [found, weak, Bool.false_eq_true, if_false, readYielding]
      rw [Run.execute_bind_ok started]
      simp only [unshadowed, readBound, readContent, reads]
      rfl
  | toClass =>
      simp only [attach] at found
      simp only [found, readYielding]
      rw [Run.execute_bind_ok started]
      simp only [unshadowed, readBound]
      rfl
  | free =>
      simp only [attach] at found
      simp only [found, readYielding]
      rw [Run.execute_bind_ok started]
      simp only [unshadowed, readBound]
      rfl

theorem object_get_function
    (leads : world.Leads store target name owner (attach attachment (.function index qualname))) :
    (world.objectGet call target name).execute store =
      (.ok (attachment.bind (store.current target) (.function index qualname)), store) := by
  obtain ⟨holder, found, _⟩ := leads.found
  have started : (get : Run Store).execute store = (.ok store, store) := rfl
  rw [objectGet, Run.execute_bind_ok started]
  apply fallback_not_asked
  rw [hookedGet, leads.unhooked]
  exact direct_get_function (store.current_current target) found leads.unshadowed

theorem normal_get_function
    (leads : world.Leads store target name owner (attach attachment (.function index qualname))) :
    (world.normalGet call target name).execute store =
      (.ok (attachment.bind (store.current target) (.function index qualname)), store) := by
  obtain ⟨holder, found, _⟩ := leads.found
  obtain ⟨place, placed⟩ := place_of_start found (Attribute.attach_is_of_world attachment _ _)
  obtain ⟨address, kept⟩ := Value.address_of_place placed
  rw [store.address_current target] at kept
  rw [normal_get_of_address kept]
  exact object_get_function leads

end Leads

theorem call_attached {world : World} {index : Nat} {routine : Routine}
    (known : world.routines[index]? = some routine) (attachment : Attachment) (target : Value)
    (qualname : String) (depth : Nat) (arguments : List Value) (keywords : Entries String Value) :
    world.call (depth + 1 + (attachment.receivers target).length)
        (attachment.bind target (.function index qualname)) arguments keywords =
      world.runRoutine (world.call depth) routine (attachment.receivers target ++ arguments)
        keywords := by
  cases attachment <;>
    simp [Attachment.receivers, Attachment.bind, call, known]

end World

end MemberThunks
