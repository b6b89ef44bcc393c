import MemberThunks.World.Enumeration

set_option autoImplicit false

/- Resolution orders. Merging rows keeps the order of every row, takes nothing that is in no row
   and takes nothing twice. So in every world that declarations make, the order of a class has the
   orders of all its ancestors in it, each in its own order. -/
namespace MemberThunks

namespace Linearization

variable {α : Type} [BEq α]

-- Rows that are merged into one, item by item.
inductive Merges : List (List α) → List α → Prop where
  | done {rows : List (List α)} (empty : rows.all List.isEmpty = true) : Merges rows []
  | step {rows : List (List α)} {item : α} {merged : List α} (chosen : choose rows = some item)
      (onward : Merges (advance item rows) merged) : Merges rows (item :: merged)

theorem merges_within {steps : Nat} {rows : List (List α)} {merged : List α}
    (made : mergeWithin steps rows = some merged) : Merges rows merged := by
  induction steps generalizing rows merged with
  | zero =>
      rw [mergeWithin] at made
      split at made
      · rename_i empty
        cases made
        exact .done empty
      · cases made
  | succ steps ih =>
      rw [mergeWithin] at made
      split at made
      · rename_i empty
        cases made
        exact .done empty
      · obtain ⟨item, chosen, made⟩ := Option.bind_eq_some_iff.mp made
        obtain ⟨rest, onward, same⟩ := Option.bind_eq_some_iff.mp made
        cases same
        exact .step chosen (ih onward)

theorem chosen_listed {rows : List (List α)} {item : α} (chosen : choose rows = some item) :
    ∃ row ∈ rows, item ∈ row := by
  obtain ⟨row, listed, head⟩ := List.mem_filterMap.mp (List.mem_of_find?_eq_some chosen)
  exact ⟨row, listed, List.mem_of_head? head⟩

theorem drop_head_subset {item other : α} {row : List α} (held : other ∈ dropHead item row) :
    other ∈ row := by
  cases row with
  | nil => exact held
  | cons head rest =>
      rw [dropHead] at held
      split at held
      · exact List.mem_cons_of_mem head held
      · exact held

theorem merges_takes {rows : List (List α)} {merged : List α} {item : α}
    (merges : Merges rows merged) (taken : item ∈ merged) : ∃ row ∈ rows, item ∈ row := by
  induction merges with
  | done empty => cases taken
  | step chosen onward ih =>
      cases List.mem_cons.mp taken with
      | inl same =>
          rw [same]
          exact chosen_listed chosen
      | inr later =>
          obtain ⟨left, advanced, held⟩ := ih later
          obtain ⟨row, listed, rfl⟩ := List.mem_map.mp advanced
          exact ⟨row, listed, drop_head_subset held⟩

variable [LawfulBEq α]

-- What is left of a row loses nothing but the item that is taken.
theorem drop_head_keeps {item : α} {row merged : List α}
    (kept : (dropHead item row).Sublist merged) : row.Sublist (item :: merged) := by
  cases row with
  | nil => exact List.nil_sublist _
  | cons head rest =>
      rw [dropHead] at kept
      split at kept
      · rename_i same
        rw [eq_of_beq same]
        exact kept.cons_cons item
      · exact kept.cons item

theorem merges_keeps {rows : List (List α)} {merged row : List α} (merges : Merges rows merged)
    (listed : row ∈ rows) : row.Sublist merged := by
  induction merges generalizing row with
  | done empty =>
      cases List.isEmpty_iff.mp (List.all_eq_true.mp empty row listed)
      exact List.nil_sublist []
  | step chosen onward ih => exact drop_head_keeps (ih (List.mem_map_of_mem listed))

-- An item that is chosen stands behind no other, so nothing of it is left.
theorem advance_forgets {rows : List (List α)} {item : α} {row : List α}
    (eligibleNow : eligible rows item = true) (advanced : row ∈ advance item rows) :
    item ∉ row := by
  obtain ⟨before, listed, rfl⟩ := List.mem_map.mp advanced
  have ahead := List.all_eq_true.mp eligibleNow before listed
  cases before with
  | nil => exact List.not_mem_nil
  | cons head rest =>
      have behind : item ∉ rest := by simpa using ahead
      rw [dropHead]
      split
      · exact behind
      · rename_i apart
        intro held
        cases List.mem_cons.mp held with
        | inl same => exact apart (beq_iff_eq.mpr same.symm)
        | inr later => exact behind later

theorem merges_once {rows : List (List α)} {merged : List α} (merges : Merges rows merged) :
    merged.Nodup := by
  induction merges with
  | done empty => exact List.nodup_nil
  | step chosen onward ih =>
      refine List.nodup_cons.mpr ⟨?_, ih⟩
      intro taken
      obtain ⟨row, advanced, held⟩ := merges_takes onward taken
      exact advance_forgets (List.find?_some chosen) advanced held

end Linearization

namespace Builtin

theorem order_starts (kind : Builtin) : ∃ rest, kind.order = kind :: rest := by
  cases kind <;> exact ⟨_, rfl⟩

theorem order_once (kind : Builtin) : kind.order.Nodup := by
  cases kind <;> simp [order]

theorem order_keeps {kind other : Builtin} (listed : other ∈ kind.order) :
    other.order.Sublist kind.order := by
  unfold order at listed
  split at listed <;> simp only [List.mem_cons, List.not_mem_nil, or_false] at listed <;>
    rcases listed with rfl | rfl | rfl | rfl | rfl <;> simp [order]
  -- A kind of enumeration comes to the common one behind what it derives from beside it.
  · exact List.sublist_append_right [intEnum, int, reprEnum] [enum, object]
  · exact List.sublist_append_right [strEnum, str, reprEnum] [enum, object]

end Builtin

namespace World

-- The classes of a world with their resolution orders, which nothing changes once they are made.
def hierarchy (world : World) : List (ClassRef × List ClassRef) :=
  world.classes.map fun definition => (definition.ref, definition.order)

-- A class is built in or one that the world has in its place.
inductive Has (world : World) : ClassRef → Prop where
  | builtin (kind : Builtin) : Has world (.builtin kind)
  | placed {target : ClassRef} {place : Nat} {order : List ClassRef}
      (stands : target.place? = some place)
      (held : world.hierarchy[place]? = some (target, order)) : Has world target

theorem order_of_place {world : World} {target : ClassRef} {place : Nat}
    (stands : target.place? = some place) :
    world.order target =
      ((world.hierarchy[place]?).map (·.2)).getD [target, .object] := by
  have found : world.find? target = world.classes[place]? := by
    rw [find?, stands]
    rfl
  rw [hierarchy, List.getElem?_map, ← found, order]
  · cases world.find? target <;> rfl
  · rintro kind rfl
    cases stands

theorem order_of_held {world : World} {target : ClassRef} {place : Nat} {order : List ClassRef}
    (stands : target.place? = some place)
    (held : world.hierarchy[place]? = some (target, order)) : world.order target = order := by
  rw [order_of_place stands, held]
  rfl

-- The order of a class starts with the class, has each class once, and has the orders of its
-- ancestors in it.
structure Ordered (world : World) (target : ClassRef) : Prop where
  starts : ∃ rest, world.order target = target :: rest
  known : ∀ ancestor ∈ world.order target, world.Has ancestor
  once : (world.order target).Nodup
  keeps : ∀ ancestor ∈ world.order target, (world.order ancestor).Sublist (world.order target)

def Linear (world : World) : Prop := ∀ target, world.Has target → world.Ordered target

theorem builtin_ordered (world : World) (kind : Builtin) : world.Ordered (.builtin kind) where
  starts := by
    obtain ⟨rest, starts⟩ := kind.order_starts
    exact ⟨rest.map ClassRef.builtin, congrArg (List.map ClassRef.builtin) starts⟩
  known := by
    intro ancestor listed
    obtain ⟨other, _, rfl⟩ := List.mem_map.mp listed
    exact .builtin other
  once := by
    refine List.Pairwise.map ClassRef.builtin ?_ kind.order_once
    intro left right apart same
    exact apart (ClassRef.builtin.inj same)
  keeps := by
    intro ancestor listed
    obtain ⟨other, derived, rfl⟩ := List.mem_map.mp listed
    exact (Builtin.order_keeps derived).map ClassRef.builtin

theorem empty_linear : empty.Linear := by
  intro target known
  cases known with
  | builtin kind => exact builtin_ordered empty kind
  | placed stands held => cases held

section Grown

variable {world next : World} {added : List (ClassRef × List ClassRef)}

theorem held_of_grown (grown : next.hierarchy = world.hierarchy ++ added) {place : Nat}
    {entry : ClassRef × List ClassRef} (held : world.hierarchy[place]? = some entry) :
    next.hierarchy[place]? = some entry := by
  rw [grown, List.getElem?_append_left (List.getElem?_eq_some_iff.mp held).1]
  exact held

theorem has_of_grown (grown : next.hierarchy = world.hierarchy ++ added) {target : ClassRef}
    (known : world.Has target) : next.Has target := by
  cases known with
  | builtin kind => exact .builtin kind
  | placed stands held => exact .placed stands (held_of_grown grown held)

theorem order_of_grown (grown : next.hierarchy = world.hierarchy ++ added) {target : ClassRef}
    (known : world.Has target) : next.order target = world.order target := by
  cases known with
  | builtin kind => rfl
  | placed stands held =>
      rw [order_of_held stands held, order_of_held stands (held_of_grown grown held)]

theorem ordered_of_grown (grown : next.hierarchy = world.hierarchy ++ added) {target : ClassRef}
    (known : world.Has target) (ordered : world.Ordered target) : next.Ordered target := by
  have same := order_of_grown grown known
  refine ⟨?_, ?_, ?_, ?_⟩ <;> rw [same]
  · exact ordered.starts
  · exact fun ancestor listed => has_of_grown grown (ordered.known ancestor listed)
  · exact ordered.once
  · intro ancestor listed
    rw [order_of_grown grown (ordered.known ancestor listed)]
    exact ordered.keeps ancestor listed

theorem linear_of_same (linear : world.Linear) (same : next.hierarchy = world.hierarchy) :
    next.Linear := by
  have grown : next.hierarchy = world.hierarchy ++ [] := by rw [same, List.append_nil]
  intro target known
  cases known with
  | builtin kind => exact builtin_ordered next kind
  | placed stands held =>
      rw [same] at held
      have before : world.Has target := .placed stands held
      exact ordered_of_grown grown before (linear target before)

end Grown

section Extended

variable {world next : World} {target : ClassRef} {bases : List ClassRef}

-- The rows from which the order of a class above some bases is merged.
def rowsOf (world : World) (bases : List ClassRef) : List (List ClassRef) :=
  bases.map world.order ++ [bases]

-- A class comes before what its bases come to, or before the common class where they come to
-- nothing.
theorem order_made (world : World) (target : ClassRef) (bases : List ClassRef) :
    world.orderOf target bases = [target, .object] ∨ ∃ merged,
      world.orderOf target bases = target :: merged ∧
      Linearization.Merges
        (world.rowsOf (if bases.isEmpty then [ClassRef.object] else bases)) merged := by
  unfold orderOf
  generalize (if bases.isEmpty then [ClassRef.object] else bases) = parents
  have rows : (parents.map fun base => (base, world.order base)).map (·.2) ++
      [(parents.map fun base => (base, world.order base)).map (·.1)] = world.rowsOf parents := by
    simp [rowsOf, Function.comp_def]
  simp only [Linearization.order, rows]
  cases made : Linearization.merge (world.rowsOf parents) with
  | none => exact .inl rfl
  | some merged => exact .inr ⟨merged, rfl, Linearization.merges_within made⟩

theorem known_of_rows (linear : world.Linear) (based : ∀ base ∈ bases, world.Has base)
    {row : List ClassRef} (listed : row ∈ world.rowsOf bases) {ancestor : ClassRef}
    (held : ancestor ∈ row) : world.Has ancestor := by
  cases List.mem_append.mp listed with
  | inl ordered =>
      obtain ⟨base, among, rfl⟩ := List.mem_map.mp ordered
      exact (linear base (based base among)).known ancestor held
  | inr itself =>
      rw [List.mem_singleton.mp itself] at held
      exact based ancestor held

-- Each class in a row has its whole order in what the rows come to.
theorem keeps_of_rows (linear : world.Linear) (based : ∀ base ∈ bases, world.Has base)
    {merged : List ClassRef} (merges : Linearization.Merges (world.rowsOf bases) merged)
    {row : List ClassRef} (listed : row ∈ world.rowsOf bases) {ancestor : ClassRef}
    (held : ancestor ∈ row) : (world.order ancestor).Sublist merged := by
  have ofBase {base : ClassRef} (among : base ∈ bases) : (world.order base).Sublist merged :=
    Linearization.merges_keeps merges
      (List.mem_append_left _ (List.mem_map_of_mem among))
  cases List.mem_append.mp listed with
  | inl ordered =>
      obtain ⟨base, among, rfl⟩ := List.mem_map.mp ordered
      exact ((linear base (based base among)).keeps ancestor held).trans (ofBase among)
  | inr itself =>
      rw [List.mem_singleton.mp itself] at held
      exact ofBase held

theorem order_of_target (stands : target.place? = some world.classes.length)
    (grown : next.hierarchy = world.hierarchy ++ [(target, world.orderOf target bases)]) :
    next.order target = world.orderOf target bases := by
  refine order_of_held stands ?_
  rw [grown, List.getElem?_append_right (by simp [hierarchy])]
  simp [hierarchy]

theorem absent_of_place (stands : target.place? = some world.classes.length) :
    ¬ world.Has target := by
  intro known
  cases known with
  | builtin kind => cases stands
  | placed place held =>
      rw [stands] at place
      cases place
      have inside := (List.getElem?_eq_some_iff.mp held).1
      simp [hierarchy] at inside

theorem ordered_of_made (linear : world.Linear) (based : ∀ base ∈ bases, world.Has base)
    (stands : target.place? = some world.classes.length)
    (grown : next.hierarchy = world.hierarchy ++ [(target, world.orderOf target bases)])
    (itself : next.Has target) : next.Ordered target := by
  have same := order_of_target stands grown
  have fresh := absent_of_place stands
  have common : world.Has .object := .builtin .object
  have parents : ∀ base ∈ (if bases.isEmpty then [ClassRef.object] else bases),
      world.Has base := by
    intro base among
    split at among
    · rw [List.mem_singleton.mp among]
      exact common
    · exact based base among
  -- What comes after the class has its orders in the rest, in the world before as in this one.
  have assembled {rest : List ClassRef} (made : next.order target = target :: rest)
      (known : ∀ ancestor ∈ rest, world.Has ancestor) (once : rest.Nodup)
      (keeps : ∀ ancestor ∈ rest, (world.order ancestor).Sublist rest) :
      next.Ordered target := by
    refine ⟨⟨rest, made⟩, ?_, ?_, ?_⟩ <;> rw [made]
    · intro ancestor listed
      cases List.mem_cons.mp listed with
      | inl first =>
          rw [first]
          exact itself
      | inr later => exact has_of_grown grown (known ancestor later)
    · exact List.nodup_cons.mpr ⟨fun later => fresh (known target later), once⟩
    · intro ancestor listed
      cases List.mem_cons.mp listed with
      | inl first =>
          simp only [first, made, List.Sublist.refl]
      | inr later =>
          rw [order_of_grown grown (known ancestor later)]
          exact (keeps ancestor later).cons target
  rcases order_made world target bases with alone | ⟨merged, merges, trace⟩
  · refine assembled (same.trans alone) ?_ (List.pairwise_singleton _ _) ?_
    · intro ancestor listed
      rw [List.mem_singleton.mp listed]
      exact common
    · intro ancestor listed
      rw [List.mem_singleton.mp listed]
      exact List.Sublist.refl _
  · refine assembled (same.trans merges) ?_ (Linearization.merges_once trace) ?_
    · intro ancestor taken
      obtain ⟨row, listed, held⟩ := Linearization.merges_takes trace taken
      exact known_of_rows linear parents listed held
    · intro ancestor taken
      obtain ⟨row, listed, held⟩ := Linearization.merges_takes trace taken
      exact keeps_of_rows linear parents trace listed held

theorem linear_of_extended (linear : world.Linear) (based : ∀ base ∈ bases, world.Has base)
    (stands : target.place? = some world.classes.length)
    (grown : next.hierarchy = world.hierarchy ++ [(target, world.orderOf target bases)]) :
    next.Linear := by
  intro other known
  cases known with
  | builtin kind => exact builtin_ordered next kind
  | placed place held =>
      have itself : next.Has other := .placed place held
      rw [grown, List.getElem?_append] at held
      split at held
      · have before : world.Has other := .placed place held
        exact ordered_of_grown grown before (linear other before)
      · cases List.mem_singleton.mp (List.mem_of_getElem? held)
        exact ordered_of_made linear based stands grown itself

end Extended

section Steps

variable {world : World}

theorem hierarchy_of_classes {next : World} (same : next.classes = world.classes) :
    next.hierarchy = world.hierarchy := by
  rw [hierarchy, hierarchy, same]

theorem classes_add_callee (qualname : String) (callee : Callee) :
    (world.addCallee qualname callee).1.classes = world.classes := by
  cases callee <;> rfl

theorem classes_add_optional (qualname : String) (callee : Option Callee) :
    (world.addOptional qualname callee).1.classes = world.classes := by
  unfold addOptional
  split
  · rfl
  · rfl
  · exact classes_add_callee qualname _

theorem classes_attribute_of (world : World) (owner : String) (created : Bool)
    (member : MemberDecl) : (world.attributeOf owner created member).1.classes = world.classes := by
  cases member with
  | field name type default? => rfl
  | value name content => rfl
  | property name getter setter =>
      exact (classes_add_optional _ setter).trans (classes_add_optional _ getter)
  | method name attachment callee => exact classes_add_callee _ callee

theorem classes_add_member (owner : String) (state : World × Entries String Attribute)
    (member : MemberDecl) : (addMember owner state member).1.classes = state.1.classes := by
  have same := classes_attribute_of state.1 owner true member
  unfold addMember
  split
  rename_i extended entry made
  rw [made] at same
  cases entry <;> exact same

theorem classes_add_members (owner : String) (members : List MemberDecl)
    (state : World × Entries String Attribute) :
    (members.foldl (addMember owner) state).1.classes = state.1.classes := by
  induction members generalizing state with
  | nil => rfl
  | cons member rest ih => exact (ih _).trans (classes_add_member owner state member)

theorem classes_add_hooks (owner : String) (hooks : List (String × List String × Body))
    (state : World × Entries String Attribute) :
    (hooks.foldl (addHook owner) state).1.classes = state.1.classes := by
  induction hooks generalizing state with
  | nil => rfl
  | cons hook rest ih => exact ih _

theorem hierarchy_replace (target : ClassRef) {change : ClassDef → ClassDef}
    (kept : ∀ definition, (change definition).ref = definition.ref ∧
      (change definition).order = definition.order) :
    (world.replace target change).hierarchy = world.hierarchy := by
  unfold replace
  split
  · rename_i place stands
    refine List.ext_getElem? fun other => ?_
    rw [hierarchy, hierarchy, List.getElem?_map, List.getElem?_map, List.getElem?_modify]
    cases world.classes[other]? with
    | none => rfl
    | some definition =>
        by_cases changed : place = other
        · simp [changed, kept definition]
        · simp [changed]
  · rfl

theorem hierarchy_nest (outer : Option ClassRef) (name : String) (target : ClassRef) :
    (world.nest outer name target).hierarchy = world.hierarchy := by
  unfold nest
  split
  · rfl
  · exact hierarchy_replace _ fun _ => ⟨rfl, rfl⟩

theorem hierarchy_declare (decl : ClassDecl) : (world.declare decl).hierarchy =
    world.hierarchy ++ [(world.nextClass, world.orderOf world.nextClass
      (decl.bases ++ if decl.typeParameters.isEmpty then [] else [.builtin .generic]))] := by
  unfold declare
  rw [hierarchy_nest]
  simp only [hierarchy, List.map_append, List.map_cons, List.map_nil]
  rw [classes_add_hooks, classes_add_members]

theorem hierarchy_enumerate (store : Store) (decl : EnumerationDecl) :
    (world.declareEnumeration store decl).1.hierarchy = world.hierarchy ++
      [(world.nextEnumeration decl.base,
        world.orderOf (world.nextEnumeration decl.base) [.builtin decl.base])] := by
  simp only [declareEnumeration, hierarchy, List.map_append, List.map_cons, List.map_nil]

theorem hierarchy_rename {next : World} {target : ClassRef} {name : String} {found : Attribute}
    (done : world.rename target name found = .ok next) : next.hierarchy = world.hierarchy := by
  unfold rename at done
  split at done
  · cases done
    refine hierarchy_replace target fun definition => ?_
    split <;> exact ⟨rfl, rfl⟩
  · cases done

theorem hierarchy_define {next : World} {target : ClassRef} {member : MemberDecl}
    (done : world.define target member = .ok next) : next.hierarchy = world.hierarchy := by
  have same := classes_attribute_of world (world.qualname target) false member
  unfold define at done
  split at done
  rename_i extended entry made
  rw [made] at same
  have before : extended.hierarchy = world.hierarchy := hierarchy_of_classes same
  split at done
  · cases done
    exact before
  · split at done
    · cases done
    · split at done
      · exact (hierarchy_rename done).trans before
      · split at done
        · cases done
        · cases done
          refine (hierarchy_replace _ fun definition => ?_).trans before
          exact ⟨rfl, rfl⟩

theorem hierarchy_undefine {next : World} {target : ClassRef} {name : String}
    (done : world.undefine target name = .ok next) : next.hierarchy = world.hierarchy := by
  unfold undefine at done
  split at done
  · cases done
  · iterate 5
      split at done
      · cases done
    split at done
    · split at done <;> cases done
    · split at done
      · cases done
      · cases done
        refine hierarchy_replace _ fun definition => ?_
        exact ⟨rfl, rfl⟩

end Steps

-- The worlds that declarations make: each class stands on classes that are there before it, and
-- its attributes may be defined and taken away later. What a world is told of its objects, and
-- routines that belong to no class, change none of its classes.
inductive Built : World → Prop where
  | empty : Built .empty
  | declared {world : World} (built : Built world) (decl : ClassDecl)
      (based : ∀ base ∈ decl.bases, world.Has base) : Built (world.declare decl)
  | enumerated {world : World} (built : Built world) (store : Store) (decl : EnumerationDecl) :
      Built (world.declareEnumeration store decl).1
  | defined {world next : World} (built : Built world) {target : ClassRef} {member : MemberDecl}
      (done : world.define target member = .ok next) : Built next
  | undefined {world next : World} (built : Built world) {target : ClassRef} {name : String}
      (done : world.undefine target name = .ok next) : Built next
  | told {world next : World} (built : Built world) (same : next.classes = world.classes) :
      Built next

theorem built_linear {world : World} (built : world.Built) : world.Linear := by
  induction built with
  | empty => exact empty_linear
  | declared built decl based ih =>
      refine linear_of_extended ih ?_ rfl (hierarchy_declare decl)
      intro base among
      cases List.mem_append.mp among with
      | inl written => exact based base written
      | inr parametric =>
          split at parametric
          · cases parametric
          · rw [List.mem_singleton.mp parametric]
            exact .builtin .generic
  | enumerated built store decl ih =>
      refine linear_of_extended ih ?_ rfl (hierarchy_enumerate store decl)
      intro base among
      rw [List.mem_singleton.mp among]
      exact .builtin decl.base
  | defined built done ih => exact linear_of_same ih (hierarchy_define done)
  | undefined built done ih => exact linear_of_same ih (hierarchy_undefine done)
  | told built same ih => exact linear_of_same ih (hierarchy_of_classes same)

end World

end MemberThunks
