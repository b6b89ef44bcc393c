import MemberThunks.Proofs.Admission
import MemberThunks.Proofs.DeclaredTypes
import MemberThunks.Proofs.VirtualWrites

set_option autoImplicit false

/- The type of a property is what its getter is taken to give, and what its setter takes where the
   getter gives every object. So a getter that says nothing, one that says that it gives an object
   and one whose declared types are spoilt all leave the type to the setter. A write of the property
   goes by that type alone. -/
namespace MemberThunks

namespace Describe

-- The type that a getter is taken to give. Where there is none it is the type of every object.
inductive GetterTypes (world : World) (caller : Caller) : Option Value → TypeForm → Prop where
  | absent : GetterTypes world caller none .object
  | getter {getter : Value} {type : TypeForm}
      (types : Hints.Types world caller getter Hints.returnKey type) :
      GetterTypes world caller (some getter) type

-- The type that a setter is taken to want, by the second of its formals.
inductive SetterTypes (world : World) (caller : Caller) : Option Value → TypeForm → Prop where
  | absent : SetterTypes world caller none .object
  | withoutSecond {setter : Value} {formals : List Formal}
      (signed : Yields (Signature.ofCallee world caller setter) formals)
      (few : formals.length < 2) : SetterTypes world caller (some setter) .object
  | second {setter : Value} {first second : Formal} {rest : List Formal} {type : TypeForm}
      (signed : Yields (Signature.ofCallee world caller setter) (first :: second :: rest))
      (types : Hints.Types world caller setter second.name type) :
      SetterTypes world caller (some setter) type

section Types

variable {world : World} {caller : Caller} {about name : String} {type given : TypeForm}

theorem object_of_is_object (wide : type.isObject = true) : type = .object := by
  unfold TypeForm.isObject at wide
  split at wide
  · rfl
  · cases wide

theorem getter_types {getter? : Option Value}
    (yields : Yields (getterType world caller about getter?) type) :
    GetterTypes world caller getter? type := by
  cases getter? with
  | none =>
      cases yields_pure yields
      exact .absent
  | some getter =>
      obtain ⟨hints, resolved, yields⟩ := yields_bind yields
      cases yields_pure yields
      exact .getter (Hints.callee_types (yields_adapt resolved) _)

theorem setter_types {setter : Value}
    (yields : Yields (setterType world caller about setter) type) :
    SetterTypes world caller (some setter) type := by
  obtain ⟨hints, resolved, yields⟩ := yields_bind yields
  obtain ⟨formals, signed, yields⟩ := yields_bind yields
  have types (name : String) := Hints.callee_types (yields_adapt resolved) name
  match formals, yields with
  | [], yields =>
      cases yields_pure yields
      exact .withoutSecond (yields_adapt signed) (by decide)
  | [only], yields =>
      cases yields_pure yields
      exact .withoutSecond (yields_adapt signed) (by simp)
  | first :: second :: rest, yields =>
      cases yields_pure yields
      exact .second (yields_adapt signed) (types second.name)

-- A getter that does not give every object settles the type, whatever the setter is.
theorem property_type_of_getter (definition : Property) {store after : Store}
    (told : (getterType world caller about definition.getter).run.run store = (.ok given, after))
    (narrow : given.isObject = false) :
    (propertyType world caller about definition).run.run store = (.ok given, after) := by
  rw [propertyType, run_bind, told]
  simp only [narrow]
  rfl

-- How the type of a property comes from its accessors.
structure TypedBy (world : World) (caller : Caller) (about : String) (definition : Property)
    (given type : TypeForm) (store after : Store) : Prop where
  getter : GetterTypes world caller definition.getter given
  -- What a getter gives that is not every object is the type, and no setter changes that.
  narrow : given.isObject = false → type = given ∧ ∀ setter : Option Value,
    (propertyType world caller about { definition with setter }).run.run store = (.ok given, after)
  wide : given.isObject = true → SetterTypes world caller definition.setter type
  concrete : type.isParameter = false

theorem typed_by_accessors {definition : Property} {store after : Store}
    (told : (propertyType world caller about definition).run.run store = (.ok type, after))
    (concrete : type.isParameter = false) :
    ∃ given, TypedBy world caller about definition given type store after := by
  obtain ⟨given, between, got, onward⟩ := ok_of_run_bind told
  refine ⟨given, getter_types ⟨store, between, got⟩, fun narrow => ?_, fun wide => ?_, concrete⟩
  · have settles (setter : Option Value) :=
      property_type_of_getter { definition with setter } got narrow
    rw [settles definition.setter] at told
    cases told
    exact ⟨rfl, settles⟩
  · -- a getter that gives every object is the same as none, so the setter is asked
    rw [wide] at onward
    cases held : definition.setter with
    | none =>
        rw [held] at onward
        cases onward
        cases object_of_is_object wide
        exact .absent
    | some setter =>
        rw [held] at onward
        exact setter_types ⟨between, after, onward⟩

theorem not_parameter_of_ok {what : String}
    (allowed : checkNotGeneric world type what about = .ok ()) : type.isParameter = false := by
  unfold checkNotGeneric at allowed
  split at allowed
  · cases allowed
  · rename_i ordinary
    exact Bool.eq_false_iff.mpr ordinary

theorem property_tells_type {target : ClassRef} {property : PropertyMember} {store after : Store}
    (told : (Describe.property world caller target name).run.run store = (.ok property, after)) :
    ∃ definition given, world.lookup target name = some (property.declaring, .property definition) ∧
      property.getter = definition.getter ∧ property.setter = definition.setter ∧
      TypedBy world caller (qualified world property.declaring name) definition given property.type
        store after := by
  unfold Describe.property at told
  split at told
  · rename_i owner definition found
    obtain ⟨type, between, typed, told⟩ := ok_of_run_bind told
    obtain ⟨_, _, settled, told⟩ := ok_of_run_bind told
    have concrete := not_parameter_of_ok (settled_yields ⟨_, _, settled⟩)
    have unmoved := congrArg Prod.snd settled
    cases unmoved
    cases told
    obtain ⟨given, accessors⟩ := typed_by_accessors typed concrete
    exact ⟨definition, given, found, rfl, rfl, accessors⟩
  · cases told

end Types

end Describe

namespace World

-- Whether a declared type admits a value: one of its alternatives does, or the value is None and
-- the outermost union lists it.
def AdmitsAs (known later : World) (caller : Caller) (store : Store) (value : Value)
    (form : TypeForm) : Prop :=
  ((store.current value).isNone = true ∧ known.ListsNone form) ∨
    ∃ leaf, known.Alternative form leaf ∧
      known.Admits later caller store (store.current value) leaf

end World

namespace Strategy

section Admission

variable {known later : World} {form : TypeForm} {made : Option Conversion} {value : Value}
  {store : Store}

-- A conversion to a declared type lets through a candid value if the type admits it, and refuses it
-- else.
theorem conversion_admits (caller : Caller) (found : known.conversionFor form false = .ok made)
    (candid : later.Candid store value)
    (askable : ∀ leaf, known.Alternative form leaf → leaf.isErased = false → World.IsAskable leaf) :
    (known.AdmitsAs later caller store value form ∧ ∃ ready,
      (Conversion.applyOptional later caller made value).execute store = (.ok value, ready)) ∨
    (¬ known.AdmitsAs later caller store value form ∧ ∃ raised ready,
      (Conversion.applyOptional later caller made value).execute store = (.error raised, ready) ∧
        (raised.failure.kind = .unbox ∨ raised.failure.kind = .invalidCast)) := by
  cases made with
  | none =>
      obtain ⟨leaf, reached, erased⟩ := World.within_erased found
      exact .inl ⟨.inr ⟨leaf, reached, .inl erased⟩, store, rfl⟩
  | some conversion =>
      cases absent : (store.current value).isNone && conversion.nullable with
      | true =>
          -- None passes unasked, and only the outermost union lets it
          obtain ⟨none, flag⟩ := Bool.and_eq_true_iff.mp absent
          have lists := ((World.within_nullable found).mp flag).resolve_left (by decide)
          exact .inl ⟨.inl ⟨none, lists⟩, store, Conversion.apply_lets_through absent⟩
      | false =>
          have judged : Judged known later caller form value store
              ((Conversion.applyOptional later caller (some conversion) value).execute store) :=
            asked_judged found absent
          rcases candid_judged judged candid askable with
            ⟨admitted, ready, ended⟩ | ⟨refused, raised, ready, ended, kind⟩
          · exact .inl ⟨.inr admitted, ready, ended⟩
          · refine .inr ⟨?_, raised, ready, ended, kind⟩
            rintro (⟨none, lists⟩ | ⟨leaf, reached, admits⟩)
            · have flag := (World.within_nullable found).mpr (.inr lists)
              rw [none, flag] at absent
              cases absent
            · exact refused leaf reached admits

end Admission

end Strategy

namespace Writing

-- What a write of a property comes to once its value has been converted.
def converted (later : World) (caller : Caller) (property : PropertyMember) (target value : Value) :
    Except Raised Value × Store → Except Raised Value × Store
  | (.ok _, ready) =>
    (storing later caller target value (.property property) >>= fun _ =>
      pure Value.none : Run Value).execute ready
  | (.error raised, ready) => (.error raised, ready)

-- The laws of a write of a property once its target is admitted: whether it stores goes by the
-- alternatives of the type of the property alone.
structure AcceptsBy (known later : World) (caller : Caller) (property : PropertyMember)
    (write : Value → Value → Run Value) : Prop where
  -- A value other than None is judged by the alternatives, in order.
  judged : ∀ (target value : Value) (before between : Store),
    (later.isInstance caller (before.current target) property.declaring).execute before =
      (.ok true, between) →
    (between.current value).isNone = false →
    ∃ outcome, Strategy.Judged known later caller property.type value between outcome ∧
      (write target value).execute before = converted later caller property target value outcome
  -- A candid value is stored if the type admits it, and refused if not.
  decided : ∀ (target value : Value) (before between : Store),
    (later.isInstance caller (before.current target) property.declaring).execute before =
      (.ok true, between) →
    later.Candid between value →
    (∀ leaf, known.Alternative property.type leaf → leaf.isErased = false →
      World.IsAskable leaf) →
    (known.AdmitsAs later caller between value property.type ∧ ∃ ready,
      (write target value).execute before =
        (storing later caller target value (.property property) >>= fun _ =>
          pure Value.none : Run Value).execute ready) ∨
    (¬ known.AdmitsAs later caller between value property.type ∧ ∃ raised after,
      (write target value).execute before = (.error raised, after) ∧
        (raised.failure.kind = .unbox ∨ raised.failure.kind = .invalidCast))

section Accepting

variable {known later : World} {caller : Caller} {property : PropertyMember}
  {conversion : Option Conversion} {target value : Value} {before between ready : Store}

-- A write of an admitted target converts and then stores.
theorem checked_converts
    (admits : (later.isInstance caller (before.current target) property.declaring).execute before =
      (.ok true, between)) :
    (checked later caller (.property property) conversion target value).execute before =
      converted later caller property target value
        ((Conversion.applyOptional later caller conversion value).execute between) := by
  have narrowed : ((Conversion.cast (.cls (Member.property property).declaring) false).apply later
      caller target).execute before = (.ok target, between) := Conversion.cast_admits admits
  rw [checked, Run.execute_bind_ok narrowed]
  cases ran : (Conversion.applyOptional later caller conversion value).execute between with
  | mk outcome ready =>
      cases outcome with
      | ok result => rw [Run.execute_bind_ok ran, converted]
      | error raised => rw [Run.execute_bind_error ran, converted]

theorem accepts_by_type (found : known.conversionFor property.type false = .ok conversion) :
    AcceptsBy known later caller property
      (checked later caller (.property property) conversion) where
  judged := by
    intro target value before between admits present
    exact ⟨_, Strategy.value_judged found present, checked_converts admits⟩
  decided := by
    intro target value before between admits candid askable
    rcases Strategy.conversion_admits caller found candid askable with
      ⟨admitted, ready, ran⟩ | ⟨refused, raised, ready, ran, kind⟩
    · exact .inl ⟨admitted, ready, by rw [checked_converts admits, ran, converted]⟩
    · exact .inr ⟨refused, raised, ready, by rw [checked_converts admits, ran, converted], kind⟩

end Accepting

end Writing

namespace Strategy

def valveGetter (type : TypeForm) : RoutineDecl :=
  ⟨some (Formal.named "self"), [], some type, [.give (.constant (.int 1))]⟩

def valveSetter (type : TypeForm) : RoutineDecl :=
  ⟨some (Formal.named "self"), [{ Formal.named "value" with type? := some type }], none,
    [.give (.constant .none)]⟩

-- A class with a property of texts whose setter takes what is not known, two properties that are
-- said to give an object, with a setter that takes numbers and with one that takes what is not
-- known, and a property of numbers whose getter takes what is no type.
def valves : World :=
  World.empty.declare (.ofMembers "Valve" [
    .property "w" (some (.routine (valveGetter (.cls (.builtin .str)))))
      (some (.routine (valveSetter (.text "Missing")))),
    .property "x" (some (.routine (valveGetter .object)))
      (some (.routine (valveSetter (.cls (.builtin .int))))),
    .property "y" (some (.routine (valveGetter .object)))
      (some (.routine (valveSetter (.text "Missing")))),
    .property "z" (some (.routine { valveGetter (.cls (.builtin .int)) with
      receiver := some { Formal.named "self" with type? := some (.text "None + 1") } })) none])

def valveCaller : Caller := valves.call World.callLimit

def describedValve (name : String) : Except DescribeFault PropertyMember × Store :=
  (Describe.property valves valveCaller (.declared 0) name).run.run .empty

-- The property of a valve under a name, whose accessors come one after the other.
def valveProperty (name : String) (type : TypeForm) (index : Nat) : PropertyMember :=
  ⟨.declared 0, name, type, some (.function index ("Valve." ++ name)),
    some (.function (index + 1) ("Valve." ++ name))⟩

def valveWrite (property : PropertyMember) : Except CompileFault Thunk :=
  built valves valveCaller .empty .standard .write none (.member (.property property)) .empty

theorem alternative_of_text {known : World} {leaf : TypeForm}
    (reached : known.Alternative (.cls (.builtin .str)) leaf) : leaf = .cls (.builtin .str) := by
  have spread : known.Spread [.cls (.builtin .str)] [.cls (.builtin .str)] := .leaf rfl .done
  have listed := (World.mem_spread spread leaf).mpr ⟨_, List.mem_singleton_self _, reached⟩
  exact List.mem_singleton.mp listed

-- The type that the getter of a property of valves is said to give.
def ValveGives (index : Nat) (name : String) (type : TypeForm) : Prop :=
  ∃ declarations, Hints.Annotates valves valveCaller (.function index name) declarations
    Hints.returnKey type

def hasGetter (index : Nat) (property : PropertyMember) : Bool :=
  match property.getter with
  | some (.function held _) => held == index
  | _ => false

end Strategy

end MemberThunks
