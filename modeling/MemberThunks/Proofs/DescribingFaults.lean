import MemberThunks.Proofs.MemberKinds
import MemberThunks.Proofs.MethodDispatch

set_option autoImplicit false

/- How describing fails. Most failures blame the member. What signatures and hints raise is its
   fault only in some kinds, and the rest comes out of describing as it was raised; so does what
   looking through the slots raises, and what the signature of a setter raises in any kind. -/
namespace MemberThunks

namespace Hints

section Sources

variable (world : World) (caller : Caller)

-- What the declarations of one class raise: they are no entries, or the type of one of them cannot
-- be resolved.
inductive OwnRaises (target : ClassRef) (raised : Raised) : Prop where
  | unreadable (read : declaredIn world target = .error raised)
  | unresolved {declared : List (String × TypeForm)} {name : String} {form : TypeForm}
      (read : declaredIn world target = .ok declared) (written : (name, form) ∈ declared)
      (raises : Raises (resolveWhole world caller (knownTo world target)
        ⟨forwardRule, false, true⟩ form) raised)

-- What stripping one of the types raises that resolving has given.
def StripRaises (resolving : Run (Entries String TypeForm)) (raised : Raised) : Prop :=
  ∃ hints hint, Yields resolving hints ∧ hint ∈ hints ∧ Raises (strip world caller hint.2) raised

-- What the declared types of a class and its ancestors raise.
inductive ClassRaises (target : ClassRef) (raised : Raised) : Prop where
  | declared {ancestor : ClassRef} (above : ancestor ∈ world.order target)
      (raises : OwnRaises world caller ancestor raised)
  | stripped (raises : StripRaises world caller (resolveClass world caller target) raised)

-- What the declared types of something called raise. An object may raise when it is asked for them.
inductive CalleeRaises (raised : Raised) : Value → Prop where
  | declared {index : Nat} {qualname : String} {routine : Routine} {name : String}
      {form : TypeForm} (held : world.routines[index]? = some routine)
      (written : (name, form) ∈ declaredBy routine)
      (raises : Raises (resolveWhole world caller (knownToRoutines world)
        ⟨forwardRule, true, false⟩ form) raised) : CalleeRaises raised (.function index qualname)
  | stripped {index : Nat} {qualname : String} {routine : Routine}
      (held : world.routines[index]? = some routine)
      (raises : StripRaises world caller (resolveRoutine world caller routine) raised) :
      CalleeRaises raised (.function index qualname)
  | ofClass {target : ClassRef} (raises : ClassRaises world caller target raised) :
      CalleeRaises raised (.cls target)
  | bound {receiver inner : Value} (raises : CalleeRaises raised inner) :
      CalleeRaises raised (.bound receiver inner)
  | object {callee : Value}
      (asked : ofCallee world caller callee =
        settle world caller (resolveObject world caller callee))
      (raises : Raises (resolveObject world caller callee) raised ∨
        StripRaises world caller (resolveObject world caller callee) raised) :
      CalleeRaises raised callee

end Sources

variable {world : World} {caller : Caller} {raised : Raised}

theorem entries_raise {known : Annotation.Names} {place : TypeForm.Place}
    {hints : Entries String TypeForm} {declared : List (String × TypeForm)}
    (raises : Raises (resolveEntries world caller known place hints declared) raised) :
    ∃ name form, (name, form) ∈ declared ∧
      Raises (resolveWhole world caller known place form) raised := by
  induction declared generalizing hints with
  | nil => exact absurd raises raises_pure
  | cons entry rest ih =>
      obtain ⟨name, form⟩ := entry
      rcases raises_bind raises with first | ⟨resolved, _, raises⟩
      · exact ⟨name, form, List.mem_cons_self, first⟩
      · obtain ⟨other, written, listed, raises⟩ := ih raises
        exact ⟨other, written, List.mem_cons_of_mem _ listed, raises⟩

theorem along_order_raises {hints : Entries String TypeForm} {classes : List ClassRef}
    (raises : Raises (alongOrder world caller hints classes) raised) :
    ∃ target ∈ classes, OwnRaises world caller target raised := by
  induction classes generalizing hints with
  | nil => exact absurd raises raises_pure
  | cons target rest ih =>
      rw [alongOrder] at raises
      rcases raises_bind raises with unread | ⟨declared, read, raises⟩
      · exact ⟨target, List.mem_cons_self, .unreadable (Run.error_of_raises unread)⟩
      · rcases raises_bind raises with first | ⟨extended, _, raises⟩
        · obtain ⟨name, form, written, raises⟩ := entries_raise first
          exact ⟨target, List.mem_cons_self, .unresolved (Run.ok_of_yields read) written raises⟩
        · obtain ⟨other, listed, raises⟩ := ih raises
          exact ⟨other, List.mem_cons_of_mem target listed, raises⟩

-- Settling lets no failure of types out.
theorem settle_raises {resolving : Run (Entries String TypeForm)}
    (raises : Raises (settle world caller resolving) raised) :
    raised.failure.kind.isTypeFailure = false ∧
      (Raises resolving raised ∨ StripRaises world caller resolving raised) := by
  obtain ⟨inner, whole, handled⟩ := raises_try raises
  cases typed : inner.failure.kind.isTypeFailure with
  | true =>
      rw [typed] at handled
      exact absurd handled raises_pure
  | false =>
      rw [typed] at handled
      cases raises_throw handled
      refine ⟨typed, ?_⟩
      rcases raises_bind whole with resolving | ⟨hints, resolved, stripping⟩
      · exact .inl resolving
      · obtain ⟨hint, listed, stripping⟩ := raises_each stripping
        exact .inr ⟨hints, hint, resolved, listed, raises_map stripping⟩

-- What spoils the declared types of a class, by failing to resolve or to strip one of them.
theorem class_spoilt {target : ClassRef}
    (spoils : Raises (resolveClass world caller target) raised ∨
      StripRaises world caller (resolveClass world caller target) raised) :
    ClassRaises world caller target raised := by
  rcases spoils with resolving | stripping
  · have along : Raises (alongOrder world caller [] (world.order target).reverse) raised := by
      unfold resolveClass at resolving
      split at resolving
      · split at resolving
        · exact absurd resolving raises_pure
        · exact resolving
      · exact resolving
    obtain ⟨ancestor, listed, raises⟩ := along_order_raises along
    exact .declared (List.mem_reverse.mp listed) raises
  · exact .stripped stripping

theorem routine_spoilt {index : Nat} {routine : Routine}
    (held : world.routines[index]? = some routine) (qualname : String)
    (spoils : Raises (resolveRoutine world caller routine) raised ∨
      StripRaises world caller (resolveRoutine world caller routine) raised) :
    CalleeRaises world caller raised (.function index qualname) := by
  rcases spoils with resolving | stripping
  · obtain ⟨name, form, written, raises⟩ := entries_raise resolving
    exact .declared held written raises
  · exact .stripped held stripping

theorem class_raises {target : ClassRef} (raises : Raises (ofClass world caller target) raised) :
    raised.failure.kind.isTypeFailure = false ∧ ClassRaises world caller target raised :=
  (settle_raises raises).imp_right class_spoilt

theorem callee_raises {callee : Value} (raises : Raises (ofCallee world caller callee) raised) :
    raised.failure.kind.isTypeFailure = false ∧ CalleeRaises world caller raised callee := by
  fun_induction ofCallee world caller callee with
  | case1 index qualname routine held =>
      exact (settle_raises raises).imp_right (routine_spoilt held qualname)
  | case2 => exact absurd raises raises_pure
  | case3 target => exact (class_raises raises).imp_right .ofClass
  | case4 receiver inner ih => exact (ih raises).imp_right .bound
  | case5 => exact absurd raises raises_pure
  | case6 callee =>
      refine (settle_raises raises).imp_right (.object ?_)
      rw [ofCallee]
      all_goals assumption

end Hints

-- Whether a fault is reported as one of the member.
def DescribeFault.Blames (fault : DescribeFault) : Prop := fault.failure.kind.blamesMember = true

namespace Describe

-- What comes out of describing in some kind and blames no member.
inductive Escapes (world : World) (caller : Caller) (target : ClassRef) (name : String) :
    Kind → DescribeFault → Prop where
  -- The signature of a method, but for failures of types and values.
  | methodFormals {owner : ClassRef} {found : Attribute} {attachment : Attachment} {callee : Value}
      {raised : Raised} (resolved : world.lookup target name = some (owner, found))
      (calls : methodOf world caller owner name found =
        .ok (callable world caller attachment callee))
      (raises : Raises (Signature.ofCallee world caller callee) raised)
      (untyped : raised.failure.kind.isTypeFailure = false)
      (unvalued : raised.failure.kind ≠ .valueFault) :
      Escapes world caller target name .method (.escaped raised)
  -- The declared types of what a method calls, but for failures of types and names.
  | methodHints {owner : ClassRef} {found : Attribute} {attachment : Attachment} {callee : Value}
      {raised : Raised} (resolved : world.lookup target name = some (owner, found))
      (calls : methodOf world caller owner name found =
        .ok (callable world caller attachment callee))
      (raises : Hints.CalleeRaises world caller raised callee)
      (untyped : raised.failure.kind.isTypeFailure = false)
      (unnamed : raised.failure.kind.isNameFailure = false) :
      Escapes world caller target name .method (.escaped raised)
  -- The declared types of an accessor likewise.
  | accessorHints {owner : ClassRef} {definition : Property} {accessor : Value} {raised : Raised}
      (resolved : world.lookup target name = some (owner, .property definition))
      (held : definition.getter = some accessor ∨ definition.setter = some accessor)
      (raises : Hints.CalleeRaises world caller raised accessor)
      (untyped : raised.failure.kind.isTypeFailure = false)
      (unnamed : raised.failure.kind.isNameFailure = false) :
      Escapes world caller target name .property (.escaped raised)
  -- The signature of a setter in any way, if the setter is no function of the world.
  | setterFormals {owner : ClassRef} {definition : Property} {setter : Value} {raised : Raised}
      (resolved : world.lookup target name = some (owner, .property definition))
      (held : definition.setter = some setter)
      (foreign : ∀ index qualname, setter = .function index qualname →
        world.routines[index]? = none)
      (raises : Raises (Signature.ofCallee world caller setter) raised) :
      Escapes world caller target name .property (.escaped raised)
  -- The declarations of a class that are no entries.
  | declarations {owner : ClassRef} {fault : DescribeFault} (listed : owner ∈ world.order target)
      (unreadable : declarationFault? world owner = some fault) :
      Escapes world caller target name .field fault
  -- The slots of a class in any way.
  | slots {owner : ClassRef} {raised : Raised} (listed : owner ∈ world.order target)
      (raises : Raises (hasSlot world caller owner name) raised) :
      Escapes world caller target name .field (.escaped raised)
  -- The declared types of the class of a field and of its ancestors.
  | fieldHints {owner : ClassRef} {raised : Raised} (listed : owner ∈ world.order target)
      (declares : hasDeclaration world owner name = true)
      (raises : Hints.ClassRaises world caller owner raised)
      (untyped : raised.failure.kind.isTypeFailure = false)
      (unnamed : raised.failure.kind.isNameFailure = false) :
      Escapes world caller target name .field (.escaped raised)

section Faults

variable {world : World} {caller : Caller} {target owner : ClassRef} {name about : String}
  {fault : DescribeFault}

theorem settled_raises {α : Type} {result : Except DescribeFault α}
    (raises : Raises (settled result) fault) : result = .error fault := by
  obtain ⟨before, after, ran⟩ := raises
  exact congrArg Prod.fst ran

theorem settled_yields {α : Type} {result : Except DescribeFault α} {given : α}
    (yields : Yields (settled result) given) : result = .ok given := by
  obtain ⟨before, after, ran⟩ := yields
  exact congrArg Prod.fst ran

theorem hint_raises {α : Type} {run : Run α} (raises : Raises (asking (.ofHint about) run) fault) :
    fault.Blames ∨ ∃ raised, Raises run raised ∧ raised.failure.kind.isNameFailure = false ∧
      fault = .escaped raised := by
  obtain ⟨raised, ran, rfl⟩ := raises_adapt raises
  rw [DescribeFault.ofHint]
  split
  · exact .inl rfl
  · rename_i unnamed
    exact .inr ⟨raised, ran, Bool.eq_false_iff.mpr unnamed, rfl⟩

theorem signature_raises {α : Type} {run : Run α}
    (raises : Raises (asking (.ofSignature about) run) fault) :
    fault.Blames ∨ ∃ raised, Raises run raised ∧ raised.failure.kind.isTypeFailure = false ∧
      raised.failure.kind ≠ .valueFault ∧ fault = .escaped raised := by
  obtain ⟨raised, ran, rfl⟩ := raises_adapt raises
  rw [DescribeFault.ofSignature]
  split
  · exact .inl rfl
  · rename_i other
    simp only [Bool.or_eq_true, decide_eq_true_eq, not_or, Bool.not_eq_true] at other
    exact .inr ⟨raised, ran, other.1, other.2, rfl⟩

theorem callee_hint_raises {callee : Value}
    (raises : Raises (asking (.ofHint about) (Hints.ofCallee world caller callee)) fault) :
    fault.Blames ∨ ∃ raised, Hints.CalleeRaises world caller raised callee ∧
      raised.failure.kind.isTypeFailure = false ∧ raised.failure.kind.isNameFailure = false ∧
      fault = .escaped raised := by
  refine (hint_raises raises).imp_right ?_
  rintro ⟨raised, ran, unnamed, same⟩
  obtain ⟨untyped, spoilt⟩ := Hints.callee_raises ran
  exact ⟨raised, spoilt, untyped, unnamed, same⟩

theorem generic_blames {form : TypeForm} {what : String}
    (failed : checkNotGeneric world form what about = .error fault) : fault.Blames := by
  unfold checkNotGeneric at failed
  split at failed
  · cases failed
    rfl
  · cases failed

theorem parameter_blames {hints : Entries String TypeForm} {formal : Formal}
    (failed : parameter world hints about formal = .error fault) : fault.Blames := by
  unfold parameter at failed
  split at failed
  · cases failed
    rfl
  · rcases error_of_bind failed with generic | ⟨_, _, failed⟩
    · exact generic_blames generic
    · cases failed

theorem method_member_blames {attachment : Attachment} {formals : List Formal}
    {hints : Entries String TypeForm}
    (failed : methodMember world owner name attachment formals hints = .error fault) :
    fault.Blames := by
  rcases error_of_bind failed with each | ⟨parameters, _, failed⟩
  · obtain ⟨formal, _, failed⟩ := error_of_each each
    exact parameter_blames failed
  · rcases error_of_bind failed with generic | ⟨_, _, failed⟩
    · exact generic_blames generic
    · cases failed

theorem method_of_blames {found : Attribute}
    (failed : methodOf world caller owner name found = .error fault) : fault.Blames := by
  unfold methodOf at failed
  split at failed
  · cases failed
  · cases failed
  · cases failed
    rfl
  · cases failed
  · split at failed
    · cases failed
    · cases failed
      rfl
  · cases failed
    rfl
  · cases failed
    rfl

-- What a method calls is a value, or a built-in routine, which tells its formals or fails in a kind
-- that blames the member.
theorem method_of_tells {found : Attribute} {called : Callable}
    (given : methodOf world caller owner name found = .ok called) :
    (∃ attachment callee, called = callable world caller attachment callee) ∨
      called.hints = pure [] ∧
        ∀ raised, Raises called.formals raised → raised.failure.kind = .valueFault := by
  unfold methodOf at given
  split at given
  · rename_i callee
    cases given
    exact .inl ⟨.free, callee, rfl⟩
  · rename_i callee
    cases given
    exact .inl ⟨.toClass, callee, rfl⟩
  · cases given
  · rename_i definition
    cases given
    refine .inr ⟨rfl, fun raised raises => ?_⟩
    unfold Signature.ofNative at raises
    split at raises
    · exact absurd raises raises_pure
    · cases raises_throw raises
      rfl
  · rename_i callee
    split at given
    · cases given
      exact .inl ⟨.toTarget, callee, rfl⟩
    · cases given
  · cases given
  · cases given

theorem method_raises (raises : Raises (method world caller target name) fault) :
    fault.Blames ∨ Escapes world caller target name .method fault := by
  unfold method at raises
  split at raises
  · cases raises_throw raises
    exact .inl rfl
  · rename_i owner found resolved
    rcases raises_bind raises with refused | ⟨called, settled, raises⟩
    · exact .inl (method_of_blames (settled_raises refused))
    have given := settled_yields settled
    rcases raises_bind raises with unsigned | ⟨formals, _, raises⟩
    · refine (signature_raises unsigned).imp_right ?_
      rintro ⟨raised, ran, untyped, unvalued, rfl⟩
      rcases method_of_tells given with ⟨attachment, callee, rfl⟩ | ⟨_, untold⟩
      · exact .methodFormals resolved given ran untyped unvalued
      · exact absurd (untold raised ran) unvalued
    rcases raises_bind raises with unresolved | ⟨hints, _, raises⟩
    · rcases method_of_tells given with ⟨attachment, callee, rfl⟩ | ⟨bare, _⟩
      · refine (callee_hint_raises unresolved).imp_right ?_
        rintro ⟨raised, spoilt, untyped, unnamed, rfl⟩
        exact .methodHints resolved given spoilt untyped unnamed
      · obtain ⟨raised, ran, _⟩ := raises_adapt unresolved
        rw [bare] at ran
        exact absurd ran raises_pure
    · exact .inl (method_member_blames (settled_raises raises))

section Accessors

variable {definition : Property}

theorem accessor_raises {accessor : Value}
    (resolved : world.lookup target name = some (owner, .property definition))
    (held : definition.getter = some accessor ∨ definition.setter = some accessor)
    (raises : Raises (asking (.ofHint about) (Hints.ofCallee world caller accessor)) fault) :
    fault.Blames ∨ Escapes world caller target name .property fault := by
  refine (callee_hint_raises raises).imp_right ?_
  rintro ⟨raised, spoilt, untyped, unnamed, rfl⟩
  exact .accessorHints resolved held spoilt untyped unnamed

theorem getter_raises (resolved : world.lookup target name = some (owner, .property definition))
    (raises : Raises (getterType world caller about definition.getter) fault) :
    fault.Blames ∨ Escapes world caller target name .property fault := by
  unfold getterType at raises
  split at raises
  · exact absurd raises raises_pure
  · rename_i getter held
    rcases raises_bind raises with unresolved | ⟨hints, _, raises⟩
    · exact accessor_raises resolved (.inl held) unresolved
    · exact absurd raises raises_pure

theorem setter_raises {setter : Value}
    (resolved : world.lookup target name = some (owner, .property definition))
    (held : definition.setter = some setter)
    (raises : Raises (setterType world caller about setter) fault) :
    fault.Blames ∨ Escapes world caller target name .property fault := by
  rcases raises_bind raises with unresolved | ⟨hints, _, raises⟩
  · exact accessor_raises resolved (.inr held) unresolved
  · rcases raises_bind raises with unsigned | ⟨formals, _, raises⟩
    · obtain ⟨raised, ran, rfl⟩ := raises_adapt unsigned
      refine .inr (.setterFormals resolved held ?_ ran)
      rintro index qualname rfl
      cases known : world.routines[index]? with
      | none => rfl
      | some routine =>
          rw [signature_of_function known] at ran
          exact absurd ran raises_pure
    · split at raises
      · exact absurd raises raises_pure
      · exact absurd raises raises_pure

theorem property_raises (raises : Raises (property world caller target name) fault) :
    fault.Blames ∨ Escapes world caller target name .property fault := by
  unfold property at raises
  split at raises
  · rename_i owner definition resolved
    rcases raises_bind raises with untyped | ⟨type, _, raises⟩
    · rcases raises_bind untyped with getting | ⟨given, _, setting⟩
      · exact getter_raises resolved getting
      · split at setting
        · rename_i setter _ held
          exact setter_raises resolved held setting
        · exact absurd setting raises_pure
    · rcases raises_bind raises with generic | ⟨_, _, raises⟩
      · exact .inl (generic_blames (settled_raises generic))
      · exact absurd raises raises_pure
  · cases raises_throw raises
    exact .inl rfl

end Accessors

theorem declares_raises (listed : owner ∈ world.order target)
    (raises : Raises (declares world caller name owner) fault) :
    Escapes world caller target name .field fault := by
  unfold declares at raises
  split at raises
  · rename_i unreadable
    cases raises_throw raises
    exact .declarations listed unreadable
  · split at raises
    · exact absurd raises raises_pure
    · obtain ⟨raised, ran, rfl⟩ := raises_adapt raises
      exact .slots listed ran

theorem declarer_raises {classes : List ClassRef} (within : classes ⊆ world.order target)
    (raises : Raises (declarer? world caller name classes) fault) :
    Escapes world caller target name .field fault := by
  induction classes with
  | nil => exact absurd raises raises_pure
  | cons owner rest ih =>
      rw [declarer_cons] at raises
      rcases raises_bind raises with asked | ⟨found, _, raises⟩
      · exact declares_raises (within List.mem_cons_self) asked
      · cases found with
        | true => exact absurd raises raises_pure
        | false => exact ih (fun other behind => within (List.mem_cons_of_mem owner behind)) raises

theorem field_type_raises (listed : owner ∈ world.order target)
    (raises : Raises (fieldType world caller owner name) fault) :
    fault.Blames ∨ Escapes world caller target name .field fault := by
  unfold fieldType at raises
  split at raises
  · rename_i declares
    rcases raises_bind raises with unresolved | ⟨hints, _, raises⟩
    · refine (hint_raises unresolved).imp_right ?_
      rintro ⟨raised, ran, unnamed, rfl⟩
      obtain ⟨untyped, spoilt⟩ := Hints.class_raises ran
      exact .fieldHints listed declares spoilt untyped unnamed
    · dsimp only at raises
      split at raises
      · cases raises_throw raises
        exact .inl rfl
      · exact absurd raises raises_pure
  · exact absurd raises raises_pure

theorem field_raises (raises : Raises (field world caller target name) fault) :
    fault.Blames ∨ Escapes world caller target name .field fault := by
  unfold field at raises
  split at raises
  · cases raises_throw raises
    exact .inl rfl
  · rcases raises_bind raises with searched | ⟨found, ⟨before, after, told⟩, raises⟩
    · exact .inr (declarer_raises (List.Subset.refl _) searched)
    · cases found with
      | none =>
          cases raises_throw raises
          exact .inl rfl
      | some owner =>
          rcases raises_bind raises with untyped | ⟨type, _, raises⟩
          · exact field_type_raises (declarer_tells told).1 untyped
          · rcases raises_bind raises with generic | ⟨_, _, raises⟩
            · exact .inl (generic_blames (settled_raises generic))
            · exact absurd raises raises_pure

theorem member_raises (raises : Raises (member world caller target name) fault) :
    fault.Blames ∨ Escapes world caller target name (kindOf world (world.lookup target name))
      fault := by
  rw [member_by_kind] at raises
  split at raises
  · rename_i kind
    rw [kind]
    exact method_raises (raises_map raises)
  · rename_i kind
    rw [kind]
    exact property_raises (raises_map raises)
  · rename_i kind
    rw [kind]
    exact field_raises (raises_map raises)

end Faults

-- Describing in some kind ends in a member, in a fault of the member, or in what escapes it.
def Ends {α : Type} (world : World) (caller : Caller) (target : ClassRef) (name : String)
    (kind : Kind) (action : Describing α) : Prop :=
  ∀ store, Gives action store ∨ ∃ fault after, action.run.run store = (.error fault, after) ∧
    (fault.Blames ∨ Escapes world caller target name kind fault)

theorem ends_of_raises {α : Type} {world : World} {caller : Caller} {target : ClassRef}
    {name : String} {kind : Kind} {action : Describing α}
    (raises : ∀ fault, Raises action fault →
      fault.Blames ∨ Escapes world caller target name kind fault) :
    Ends world caller target name kind action := by
  intro store
  cases ran : action.run.run store with
  | mk outcome after =>
      cases outcome with
      | ok result => exact .inl ⟨result, after, ran⟩
      | error fault => exact .inr ⟨fault, after, rfl, raises fault ⟨store, after, ran⟩⟩

-- A class with a method that is said to give what its class does not have and one that is said to
-- give what is no term, properties with setters that tell no formals and that cannot be called, and
-- a field of a type that is no term.
def boxes : World :=
  let returning (text : String) : Callee := .routine ⟨some (Formal.named "self"), [],
    some (.text text), [.give (.constant .none)]⟩
  World.empty.declare (.ofMembers "Box" [.method "a" .toTarget (returning "Box.Missing"),
    .method "b" .toTarget (returning "1 +"), .property "c" none (some (.native .max)),
    .property "d" none (some (.noncallable (.int 5))), .field "e" (.text "1 +") none])

def boxCaller : Caller := boxes.call World.callLimit

-- Whether describing ends in a failure of some kind.
def failsAs {α : Type} (kind : FailureKind) (action : Describing α) : Bool :=
  match (action.run.run .empty).1 with
  | .ok _ => false
  | .error fault => fault.failure.kind = kind

end Describe

end MemberThunks
