import MemberThunks.Proofs.CanonicalMembers

set_option autoImplicit false

/- Classes that are silent on a name. The order of a class has the order of each of its ancestors in
   it, so what stands between is passed by. Where that has nothing under the name, declares no such
   field and tells so without a trace, both searches for a member go past it, and the class and the
   ancestor have the same member or fail in the same kind. -/
namespace MemberThunks

-- A list that another one is what is left of, once some passing items are dropped.
inductive Through {α : Type} (passing : α → Prop) : List α → List α → Prop where
  | done : Through passing [] []
  | keep {item : α} {items others : List α} (onward : Through passing items others) :
      Through passing (item :: items) (item :: others)
  | drop {item : α} {items others : List α} (passes : passing item)
      (onward : Through passing items others) : Through passing (item :: items) others

-- In a list that has each item once, what is left keeps its items and no other.
theorem through_of_sublist {α : Type} {passing : α → Prop} {items others : List α}
    (sublist : others.Sublist items) (once : items.Nodup)
    (passes : ∀ item ∈ items, item ∉ others → passing item) : Through passing items others := by
  induction sublist with
  | slnil => exact .done
  | cons item sublist ih =>
      obtain ⟨fresh, once⟩ := List.nodup_cons.mp once
      refine .drop (passes item List.mem_cons_self fun held => fresh (sublist.subset held)) ?_
      exact ih once fun other listed => passes other (List.mem_cons_of_mem _ listed)
  | cons_cons item sublist ih =>
      obtain ⟨fresh, once⟩ := List.nodup_cons.mp once
      refine .keep (ih once fun other listed absent => ?_)
      refine passes other (List.mem_cons_of_mem _ listed) fun held => ?_
      cases List.mem_cons.mp held with
      | inl same =>
          rw [same] at listed
          exact fresh listed
      | inr later => exact absent later

namespace Describe

-- A class that has nothing under a name, declares no field of the name, and tells so: its
-- declarations can be told, and looking through its slots raises nothing and changes nothing.
structure Silent (world : World) (caller : Caller) (name : String) (target : ClassRef) : Prop where
  unheld : world.ownAttribute? target name = none
  undeclared : hasDeclaration world target name = false
  readable : declarationFault? world target = none
  unslotted : ∀ store, (hasSlot world caller target name).run.run store = (.ok false, store)

-- Whether a class is silent by what it has, its slots named by texts.
def isSilent (world : World) (name : String) (target : ClassRef) : Bool :=
  (world.ownAttribute? target name).isNone && !hasDeclaration world target name &&
    (declarationFault? world target).isNone &&
    (plainSlots? world target).any fun names => !names.any (· == name)

section Searches

variable {world : World} {caller : Caller} {name : String} {target : ClassRef}
  {classes others : List ClassRef}

theorem unslotted_of_plain {names : List String} (plain : plainSlots? world target = some names)
    (absent : names.any (· == name) = false) (store : Store) :
    (hasSlot world caller target name).run.run store = (.ok false, store) := by
  rw [has_slot_of_plain plain, absent]
  rfl

theorem silent_of_is_silent (silent : isSilent world name target = true) :
    Silent world caller name target := by
  simp only [isSilent, Bool.and_eq_true, Option.isNone_iff_eq_none, Bool.not_eq_true',
    Option.any_eq_true] at silent
  obtain ⟨⟨⟨unheld, undeclared⟩, readable⟩, names, plain, absent⟩ := silent
  exact ⟨unheld, undeclared, readable, unslotted_of_plain plain absent⟩

theorem lookup_past_silent (past : Through (Silent world caller name) classes others) :
    world.lookupAlong name classes = world.lookupAlong name others := by
  induction past with
  | done => rfl
  | keep onward ih =>
      rw [World.lookupAlong, World.lookupAlong, List.findSome?_cons, List.findSome?_cons]
      split
      · rfl
      · exact ih
  | drop silent onward ih =>
      rw [World.lookupAlong, List.findSome?_cons, silent.unheld]
      exact ih

theorem silent_declares_none (silent : Silent world caller name target) (store : Store) :
    (declares world caller name target).run.run store = (.ok false, store) := by
  rw [declares, silent.readable, silent.undeclared]
  dsimp only
  rw [if_neg Bool.false_ne_true, asking, run_adapt, silent.unslotted]
  rfl

theorem declarer_past_silent (past : Through (Silent world caller name) classes others)
    (store : Store) : (declarer? world caller name classes).run.run store =
      (declarer? world caller name others).run.run store := by
  induction past generalizing store with
  | done => rfl
  | keep onward ih =>
      rw [declarer_cons, declarer_cons, run_bind, run_bind]
      split
      · rename_i found after _
        cases found with
        | true => rfl
        | false => exact ih after
      · rfl
  | drop silent onward ih =>
      rw [declarer_cons, run_bind, silent_declares_none silent]
      exact ih store

end Searches

-- Ends of describing that a caller takes for one: the same member in the same store, or failures of
-- one kind.
inductive AlikeEnds {α : Type} :
    Except DescribeFault α × Store → Except DescribeFault α × Store → Prop where
  | told (result : α) (after : Store) : AlikeEnds (.ok result, after) (.ok result, after)
  | failed {first second : DescribeFault} (after : Store)
      (same : first.failure.kind = second.failure.kind) :
      AlikeEnds (.error first, after) (.error second, after)

theorem alike_ends_refl {α : Type} (final : Except DescribeFault α × Store) :
    AlikeEnds final final := by
  obtain ⟨outcome, after⟩ := final
  cases outcome with
  | ok result => exact .told result after
  | error fault => exact .failed after rfl

theorem alike_ends_map {α β : Type} {change : α → β} {first second : Describing α} {store : Store}
    (alike : AlikeEnds (first.run.run store) (second.run.run store)) :
    AlikeEnds ((change <$> first).run.run store) ((change <$> second).run.run store) := by
  rw [run_map, run_map]
  generalize first.run.run store = left at alike ⊢
  generalize second.run.run store = right at alike ⊢
  cases alike with
  | told result after => exact .told (change result) after
  | failed after same => exact .failed after same

section Silence

variable {world : World} {caller : Caller} {name : String} {derived base : ClassRef}

-- Where both searches come to the same, only the failures tell from which class they began.
theorem field_alike (resolved : world.lookup derived name = world.lookup base name)
    (searched : ∀ store, (declarer? world caller name (world.order derived)).run.run store =
      (declarer? world caller name (world.order base)).run.run store) (store : Store) :
    AlikeEnds ((field world caller derived name).run.run store)
      ((field world caller base name).run.run store) := by
  have hides : hiding? world derived name = hiding? world base name := by
    rw [hiding?, hiding?, resolved]
  rw [field, field, hides]
  split
  · exact alike_ends_refl _
  · rw [run_bind, run_bind, searched]
    split
    · rename_i found after _
      cases found with
      | none => exact .failed after rfl
      | some owner => exact alike_ends_refl _
    · exact alike_ends_refl _

theorem member_alike (resolved : world.lookup derived name = world.lookup base name)
    (searched : ∀ store, (declarer? world caller name (world.order derived)).run.run store =
      (declarer? world caller name (world.order base)).run.run store) (store : Store) :
    AlikeEnds ((member world caller derived name).run.run store)
      ((member world caller base name).run.run store) := by
  cases kind : kindOf world (world.lookup base name) with
  | field =>
      rw [member_by_kind, member_by_kind, resolved, kind]
      exact alike_ends_map (field_alike resolved searched store)
  | method | property =>
      cases here : world.lookup base name with
      | none =>
          rw [here] at kind
          cases kind
      | some entry =>
          have unfielded : kindOf world (some entry) ≠ .field := by
            rw [← here, kind]
            nofun
          rw [member_of_resolved (resolved.trans here) here unfielded]
          exact alike_ends_refl _

end Silence

-- Two classes that derive from one with a field, of which the second declares it anew, and a class
-- that derives from both and has none of its own.
def stems : World :=
  (((World.empty.declare (.ofMembers "Stem" [.field "x" (.cls (.builtin .int)) none])).declare
    { ClassDecl.ofMembers "Leaf" [] with
      bases := [.declared 0]
      slots := some ["z"] }).declare
    { ClassDecl.ofMembers "Thorn" [.field "x" (.cls (.builtin .str)) none] with
      bases := [.declared 0] }).declare
    { ClassDecl.ofMembers "Twig" [.field "y" (.cls (.builtin .int)) none] with
      bases := [.declared 1, .declared 2] }

def stemCaller : Caller := stems.call World.callLimit

theorem stems_built : stems.Built := by
  refine .declared (.declared (.declared (.declared .empty _ ?_) _ ?_) _ ?_) _ ?_
  · exact List.forall_mem_nil _
  · exact List.forall_mem_singleton.mpr (.placed rfl rfl)
  · exact List.forall_mem_singleton.mpr (.placed rfl rfl)
  · exact List.forall_mem_cons.mpr ⟨.placed rfl rfl,
      List.forall_mem_singleton.mpr (.placed rfl rfl)⟩

theorem twig_known : stems.Has (.declared 3) := .placed rfl rfl

theorem thorn_described : (member stems stemCaller (.declared 2) "x").run.run .empty =
    (.ok (.field ⟨.declared 2, "x", .cls (.builtin .str)⟩), .empty) := by
  with_unfolding_all rfl

-- A class with a field and one that derives from it, which keeps a number for its declarations, or
-- is given a number for its slots later on.
def burrs (members : List MemberDecl) : World :=
  (World.empty.declare (.ofMembers "Burr" [.field "x" (.cls (.builtin .int)) none])).declare
    { ClassDecl.ofMembers "Hook" members with bases := [.declared 0] }

def unreadable : World := burrs [.value "__annotations__" (.int 5)]

def unlistable : World :=
  ((burrs []).define (.declared 1) (.value "__slots__" (.int 5))).toOption.getD .empty

theorem burrs_built (members : List MemberDecl) : (burrs members).Built :=
  .declared (.declared .empty _ (List.forall_mem_nil _)) _
    (List.forall_mem_singleton.mpr (.placed rfl rfl))

-- A world in which the second class has nothing under the name of a field that the first declares,
-- and no declaration of it, and yet fails in some kind where the first has the field.
def Hides (world : World) (kind : FailureKind) : Prop :=
  world.Built ∧ world.Has (.declared 1) ∧
    world.order (.declared 1) = [.declared 1, .declared 0, .object] ∧
    world.order (.declared 0) = [.declared 0, .object] ∧
    world.ownAttribute? (.declared 1) "x" = none ∧
    hasDeclaration world (.declared 1) "x" = false ∧
    (member world (world.call World.callLimit) (.declared 0) "x").run.run .empty =
      (.ok (.field ⟨.declared 0, "x", .cls (.builtin .int)⟩), .empty) ∧
    ∃ fault, (member world (world.call World.callLimit) (.declared 1) "x").run.run .empty =
      (.error fault, .empty) ∧ fault.failure.kind = kind

end Describe

end MemberThunks
