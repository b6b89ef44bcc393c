import MemberThunks.Proofs.DescribingFaults

set_option autoImplicit false

/- What the declared types of something called come to. They are resolved together, in the order in
   which they are declared, and the last declaration of a name counts. So a name has the type of its
   last declaration only if all of them resolve: one that fails as no type does leaves every name of
   what is called without a type. -/
namespace MemberThunks

namespace Hints

-- A type as it is declared under a name: what the names in it stand for, where it stands, and how
-- it is written.
structure Declaration where
  known : Annotation.Names
  place : TypeForm.Place
  name : String
  form : TypeForm

namespace Declaration

def among (known : Annotation.Names) (place : TypeForm.Place)
    (declared : List (String × TypeForm)) : List Declaration :=
  declared.map fun entry => ⟨known, place, entry.1, entry.2⟩

-- The declaration that counts for a name.
def last? (declarations : List Declaration) (name : String) : Option Declaration :=
  declarations.reverse.find? fun declaration => declaration.name == name

-- What a declaration says while the others are being resolved, before annotations are dropped.
def resolve (world : World) (caller : Caller) (declaration : Declaration) : Run TypeForm :=
  resolveWhole world caller declaration.known declaration.place declaration.form

-- The type that a declaration resolves to.
def Means (world : World) (caller : Caller) (declaration : Declaration) (type : TypeForm) : Prop :=
  ∃ written, Yields (declaration.resolve world caller) written ∧
    Yields (strip world caller written) type

theorem last_of_append (declarations : List Declaration) (declaration : Declaration)
    (name : String) : last? (declarations ++ [declaration]) name =
      if declaration.name = name then some declaration else last? declarations name := by
  simp only [last?, List.reverse_append, List.reverse_singleton, List.singleton_append,
    List.find?_cons]
  split <;> simp_all

end Declaration

-- The declarations of some classes, one class after the other. Those of each have to be entries.
inductive DeclaresAlong (world : World) : List ClassRef → List Declaration → Prop where
  | done : DeclaresAlong world [] []
  | ancestor {target : ClassRef} {rest : List ClassRef} {declared : List (String × TypeForm)}
      {declarations : List Declaration} (read : declaredIn world target = .ok declared)
      (onward : DeclaresAlong world rest declarations) :
      DeclaresAlong world (target :: rest)
        (Declaration.among (knownTo world target) ⟨forwardRule, false, true⟩ declared ++
          declarations)

-- The declarations of something called, in the order in which they are resolved.
inductive Declares (world : World) (caller : Caller) : Value → List Declaration → Prop where
  | function {index : Nat} {qualname : String} {routine : Routine}
      (held : world.routines[index]? = some routine) :
      Declares world caller (.function index qualname)
        (Declaration.among (knownToRoutines world) ⟨forwardRule, true, false⟩ (declaredBy routine))
  | unwritten {index : Nat} {qualname : String} (missing : world.routines[index]? = none) :
      Declares world caller (.function index qualname) []
  | ofClass {target : ClassRef} {declarations : List Declaration}
      (along : DeclaresAlong world (world.order target).reverse declarations) :
      Declares world caller (.cls target) declarations
  | uncheckedClass {target owner : ClassRef} {marked : Value}
      (found : world.lookup target "__no_type_check__" = some (owner, .value marked))
      (holds : marked.isTruthy = true) : Declares world caller (.cls target) []
  | bound {receiver inner : Value} {declarations : List Declaration}
      (onward : Declares world caller inner declarations) :
      Declares world caller (.bound receiver inner) declarations
  | builtin {index : Nat} {qualname : String} :
      Declares world caller (.callable index qualname) []
  | object {callee declared : Value}
      (asked : ofCallee world caller callee =
        settle world caller (resolveObject world caller callee))
      (has : Yields (world.attribute? caller callee "__annotations__") (some declared)) :
      Declares world caller callee
        (Declaration.among knownToObjects ⟨forwardRule, true, false⟩ (declaredOn declared))
  | bareObject {callee : Value}
      (asked : ofCallee world caller callee =
        settle world caller (resolveObject world caller callee))
      (bare : Yields (world.attribute? caller callee "__annotations__") none ∨
        ∃ marked, Yields (world.attribute? caller callee "__no_type_check__") (some marked) ∧
          Yields (world.truth caller marked) true) :
      Declares world caller callee []

-- Whether something called declares a type for a name, and the type is what that resolves to.
structure Annotates (world : World) (caller : Caller) (callee : Value)
    (declarations : List Declaration) (name : String) (type : TypeForm) : Prop where
  declares : Declares world caller callee declarations
  means : ∃ declaration, Declaration.last? declarations name = some declaration ∧
    declaration.Means world caller type

-- The type that something called is taken to have for a name.
inductive Types (world : World) (caller : Caller) (callee : Value) (name : String) :
    TypeForm → Prop where
  | annotated {declarations : List Declaration} {type : TypeForm}
      (annotates : Annotates world caller callee declarations name type)
      (all : ∀ declaration ∈ declarations, ∃ written,
        Yields (declaration.resolve world caller) written) :
      Types world caller callee name type
  | unannotated {declarations : List Declaration}
      (declares : Declares world caller callee declarations)
      (none : Declaration.last? declarations name = none)
      (all : ∀ declaration ∈ declarations, ∃ written,
        Yields (declaration.resolve world caller) written) :
      Types world caller callee name .object
  -- One of its declarations is no type.
  | spoilt {raised : Raised} (untyped : raised.failure.kind.isTypeFailure = true)
      (raises : CalleeRaises world caller raised callee) : Types world caller callee name .object

section Resolving

variable {world : World} {caller : Caller}

-- The hints that resolving some declarations gives. Each of them resolves, and the last one of a
-- name is its hint.
structure Resolved (world : World) (caller : Caller) (declarations : List Declaration)
    (hints : Entries String TypeForm) : Prop where
  all : ∀ declaration ∈ declarations, ∃ written, Yields (declaration.resolve world caller) written
  named : ∀ name declaration, Declaration.last? declarations name = some declaration →
    ∃ written, hints.lookup name = some written ∧
      Yields (declaration.resolve world caller) written
  unnamed : ∀ name, Declaration.last? declarations name = none → hints.lookup name = none

theorem resolved_nothing : Resolved world caller [] [] where
  all := nofun
  named := nofun
  unnamed _ _ := rfl

theorem resolved_append {declarations : List Declaration} {hints : Entries String TypeForm}
    {written : TypeForm} (declaration : Declaration)
    (resolved : Resolved world caller declarations hints)
    (yields : Yields (declaration.resolve world caller) written) :
    Resolved world caller (declarations ++ [declaration])
      (hints.put declaration.name written) where
  all := by
    intro other listed
    rcases List.mem_append.mp listed with earlier | here
    · exact resolved.all other earlier
    · cases List.mem_singleton.mp here
      exact ⟨written, yields⟩
  named := by
    intro name other last
    rw [Declaration.last_of_append] at last
    split at last
    · rename_i same
      cases last
      cases same
      exact ⟨written, Entries.lookup_put_self _ _ _, yields⟩
    · rename_i apart
      rw [Entries.lookup_put_of_ne (Ne.symm apart)]
      exact resolved.named name other last
  unnamed := by
    intro name none
    rw [Declaration.last_of_append] at none
    split at none
    · cases none
    · rename_i apart
      rw [Entries.lookup_put_of_ne (Ne.symm apart)]
      exact resolved.unnamed name none

-- The invariant of resolving: what has been resolved so far grows by one declaration at a time.
theorem entries_resolve {known : Annotation.Names} {place : TypeForm.Place}
    {declared : List (String × TypeForm)} {declarations : List Declaration}
    {hints result : Entries String TypeForm} (resolved : Resolved world caller declarations hints)
    (yields : Yields (resolveEntries world caller known place hints declared) result) :
    Resolved world caller (declarations ++ Declaration.among known place declared) result := by
  induction declared generalizing declarations hints with
  | nil =>
      cases yields_pure yields
      simpa [Declaration.among] using resolved
  | cons entry rest ih =>
      obtain ⟨name, form⟩ := entry
      obtain ⟨written, first, yields⟩ := yields_bind yields
      have extended := resolved_append ⟨known, place, name, form⟩ resolved first
      have onward := ih extended yields
      simpa [Declaration.among] using onward

theorem along_order_resolves {classes : List ClassRef} {declarations : List Declaration}
    {hints result : Entries String TypeForm} (resolved : Resolved world caller declarations hints)
    (yields : Yields (alongOrder world caller hints classes) result) :
    ∃ more, DeclaresAlong world classes more ∧
      Resolved world caller (declarations ++ more) result := by
  induction classes generalizing declarations hints with
  | nil =>
      cases yields_pure yields
      exact ⟨[], .done, by rwa [List.append_nil]⟩
  | cons target rest ih =>
      obtain ⟨declared, read, yields⟩ := yields_bind yields
      obtain ⟨extended, first, yields⟩ := yields_bind yields
      obtain ⟨more, along, onward⟩ := ih (entries_resolve resolved first) yields
      exact ⟨_, .ancestor (Run.ok_of_yields read) along, by rwa [← List.append_assoc]⟩

-- Stripping keeps the names of the hints.
theorem strip_names {hints result : Entries String TypeForm}
    (yields : Yields (hints.mapM fun hint => return (hint.1, ← strip world caller hint.2) :
      Run (Entries String TypeForm)) result) (name : String) :
    match hints.lookup name with
    | none => result.lookup name = none
    | some written => ∃ type, result.lookup name = some type ∧
        Yields (strip world caller written) type := by
  induction hints generalizing result with
  | nil =>
      cases yields_pure yields
      rfl
  | cons hint rest ih =>
      obtain ⟨other, written⟩ := hint
      rw [List.mapM_cons] at yields
      obtain ⟨stripped, first, yields⟩ := yields_bind yields
      obtain ⟨type, yieldsType, first⟩ := yields_bind first
      cases yields_pure first
      obtain ⟨onward, later, yields⟩ := yields_bind yields
      cases yields_pure yields
      rw [List.lookup_cons, List.lookup_cons]
      cases same : name == other with
      | true => exact ⟨type, rfl, yieldsType⟩
      | false => exact ih later

theorem settle_yields {resolving : Run (Entries String TypeForm)}
    {hints : Entries String TypeForm} (yields : Yields (settle world caller resolving) hints) :
    (∃ given, Yields resolving given ∧
      Yields (given.mapM fun hint => return (hint.1, ← strip world caller hint.2) :
        Run (Entries String TypeForm)) hints) ∨
    hints = [] ∧ ∃ raised : Raised, raised.failure.kind.isTypeFailure = true ∧
      (Raises resolving raised ∨ StripRaises world caller resolving raised) := by
  rcases yields_try yields with whole | ⟨raised, whole, handled⟩
  · exact .inl (yields_bind whole)
  · cases typed : raised.failure.kind.isTypeFailure with
    | false =>
        rw [typed] at handled
        obtain ⟨before, after, ran⟩ := handled
        cases ran
    | true =>
        rw [typed] at handled
        refine .inr ⟨yields_pure handled, raised, typed, ?_⟩
        rcases raises_bind whole with failed | ⟨given, resolved, stripping⟩
        · exact .inl failed
        · obtain ⟨hint, listed, stripping⟩ := raises_each stripping
          exact .inr ⟨given, hint, resolved, listed, raises_map stripping⟩

section Callees

variable {callee : Value} {declarations : List Declaration} {hints : Entries String TypeForm}
  {name : String} {type : TypeForm}

-- The type of a name after settling, where settling needs no failure to be let off.
theorem types_of_resolved {given : Entries String TypeForm}
    (declares : Declares world caller callee declarations)
    (resolved : Resolved world caller declarations given)
    (stripped : Yields (given.mapM fun hint => return (hint.1, ← strip world caller hint.2) :
      Run (Entries String TypeForm)) hints) :
    Types world caller callee name (Describe.hint hints name) := by
  have kept := strip_names stripped name
  cases last : Declaration.last? declarations name with
  | none =>
      rw [resolved.unnamed name last] at kept
      rw [Describe.hint, kept]
      exact .unannotated declares last resolved.all
  | some declaration =>
      obtain ⟨written, held, yields⟩ := resolved.named name declaration last
      rw [held] at kept
      obtain ⟨type, found, means⟩ := kept
      rw [Describe.hint, found]
      exact .annotated ⟨declares, declaration, last, written, yields, means⟩ resolved.all

theorem types_bound (receiver : Value) (types : Types world caller callee name type) :
    Types world caller (.bound receiver callee) name type := by
  cases types with
  | annotated annotates all => exact .annotated ⟨.bound annotates.declares, annotates.means⟩ all
  | unannotated declares none all => exact .unannotated (.bound declares) none all
  | spoilt untyped raises => exact .spoilt untyped (.bound raises)

theorem class_resolves {target : ClassRef}
    (yields : Yields (resolveClass world caller target) hints) :
    ∃ declarations, Declares world caller (.cls target) declarations ∧
      Resolved world caller declarations hints := by
  have along (yields : Yields (alongOrder world caller [] (world.order target).reverse) hints) :
      ∃ declarations, Declares world caller (.cls target) declarations ∧
        Resolved world caller declarations hints := by
    obtain ⟨more, declares, resolved⟩ := along_order_resolves resolved_nothing yields
    exact ⟨more, .ofClass declares, resolved⟩
  unfold resolveClass at yields
  split at yields
  · rename_i owner marked found
    split at yields
    · rename_i holds
      cases yields_pure yields
      exact ⟨[], .uncheckedClass found holds, resolved_nothing⟩
    · exact along yields
  · exact along yields

-- What follows where an object is asked for its declarations.
theorem object_declares {next : Option Value → Run (Entries String TypeForm)}
    (asked : ofCallee world caller callee =
      settle world caller (resolveObject world caller callee))
    (bare : next none = pure [])
    (written : ∀ declared, next (some declared) =
      resolveEntries world caller knownToObjects ⟨forwardRule, true, false⟩ []
        (declaredOn declared))
    (yields : Yields (world.attribute? caller callee "__annotations__" >>= next) hints) :
    ∃ declarations, Declares world caller callee declarations ∧
      Resolved world caller declarations hints := by
  obtain ⟨held, has, yields⟩ := yields_bind yields
  cases held with
  | none =>
      rw [bare] at yields
      cases yields_pure yields
      exact ⟨[], .bareObject asked (.inl has), resolved_nothing⟩
  | some declared =>
      rw [written] at yields
      exact ⟨_, .object asked has, entries_resolve resolved_nothing yields⟩

theorem object_resolves
    (asked : ofCallee world caller callee =
      settle world caller (resolveObject world caller callee))
    (yields : Yields (resolveObject world caller callee) hints) :
    ∃ declarations, Declares world caller callee declarations ∧
      Resolved world caller declarations hints := by
  obtain ⟨checked, marks, yields⟩ := yields_bind yields
  cases checked with
  | none => exact object_declares asked rfl (fun _ => rfl) yields
  | some marked =>
      obtain ⟨holds, told, yields⟩ := yields_bind yields
      cases holds with
      | false => exact object_declares asked rfl (fun _ => rfl) yields
      | true =>
          cases yields_pure yields
          exact ⟨[], .bareObject asked (.inr ⟨marked, marks, told⟩), resolved_nothing⟩

theorem callee_types (yields : Yields (ofCallee world caller callee) hints) (name : String) :
    Types world caller callee name (Describe.hint hints name) := by
  fun_induction ofCallee world caller callee with
  | case1 index qualname routine held =>
      rcases settle_yields yields with ⟨given, resolved, stripped⟩ | ⟨rfl, raised, untyped, spoils⟩
      · have whole := entries_resolve resolved_nothing resolved
        exact types_of_resolved (.function held) whole stripped
      · exact .spoilt untyped (routine_spoilt held qualname spoils)
  | case2 index qualname missing =>
      cases yields_pure yields
      exact .unannotated (.unwritten missing) rfl resolved_nothing.all
  | case3 target =>
      rcases settle_yields yields with ⟨given, resolved, stripped⟩ | ⟨rfl, raised, untyped, spoils⟩
      · obtain ⟨declarations, declares, resolved⟩ := class_resolves resolved
        exact types_of_resolved declares resolved stripped
      · exact .spoilt untyped (.ofClass (class_spoilt spoils))
  | case4 receiver inner ih => exact types_bound receiver (ih yields)
  | case5 index qualname =>
      cases yields_pure yields
      exact .unannotated .builtin rfl resolved_nothing.all
  | case6 callee =>
      have asked : ofCallee world caller callee =
          settle world caller (resolveObject world caller callee) := by
        rw [ofCallee]
        all_goals assumption
      rcases settle_yields yields with ⟨given, resolved, stripped⟩ | ⟨rfl, raised, untyped, spoils⟩
      · obtain ⟨declarations, declares, resolved⟩ := object_resolves asked resolved
        exact types_of_resolved declares resolved stripped
      · exact .spoilt untyped (.object asked spoils)

end Callees

end Resolving

end Hints

end MemberThunks
