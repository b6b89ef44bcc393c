import MemberThunks.Proofs.ArgumentOrder
import MemberThunks.Proofs.CheckedWrites
import MemberThunks.Proofs.EqualConversions

set_option autoImplicit false

/- Members that are found equal. They are of one kind and agree in all but how their types are
   written, and a property in its accessors; so the code for them differs in nothing but the
   conversions that it applies, and those are alike. -/
namespace MemberThunks

namespace Writing

-- The members that can be written.
def isWritable : Member → Bool
  | .field _ => true
  | .property details => details.setter.isSome
  | .method _ | .bare _ _ => false

end Writing

namespace World

-- Two parameters that differ only in how their types are written.
structure SameParameter (world : World) (left right : Parameter) : Prop where
  named : right.name = left.name
  placed : right.keywordOnly = left.keywordOnly
  typed : world.Counterparts left.type right.type

inductive SameParameters (world : World) : List Parameter → List Parameter → Prop where
  | done : SameParameters world [] []
  | next {left right : Parameter} {lefts rights : List Parameter}
      (first : world.SameParameter left right) (rest : SameParameters world lefts rights) :
      SameParameters world (left :: lefts) (right :: rights)

-- Two members that differ only in how their types are written, and in accessors.
inductive SameMember (world : World) : Member → Member → Prop where
  | method {left right : MethodMember} (declared : right.declaring = left.declaring)
      (named : right.name = left.name)
      (taken : world.SameParameters left.parameters right.parameters)
      (given : right.isVoid = left.isVoid) : SameMember world (.method left) (.method right)
  | property {left right : PropertyMember} (declared : right.declaring = left.declaring)
      (named : right.name = left.name) (typed : world.Counterparts left.type right.type) :
      SameMember world (.property left) (.property right)
  | field {left right : FieldMember} (declared : right.declaring = left.declaring)
      (named : right.name = left.name) (typed : world.Counterparts left.type right.type) :
      SameMember world (.field left) (.field right)
  | bare (declaring : ClassRef) (name : String) :
      SameMember world (.bare declaring name) (.bare declaring name)

theorem same_parameters_symm {world : World} {lefts rights : List Parameter}
    (same : world.SameParameters lefts rights) : world.SameParameters rights lefts := by
  induction same with
  | done => exact .done
  | next first _ ih =>
      exact .next ⟨first.named.symm, first.placed.symm, counterparts_symm first.typed⟩ ih

theorem same_member_symm {world : World} {left right : Member}
    (same : world.SameMember left right) : world.SameMember right left := by
  cases same with
  | method declared named taken given =>
      exact .method declared.symm named.symm (same_parameters_symm taken) given.symm
  | property declared named typed =>
      exact .property declared.symm named.symm (counterparts_symm typed)
  | field declared named typed => exact .field declared.symm named.symm (counterparts_symm typed)
  | bare declaring name => exact .bare declaring name

theorem same_member_agrees {world : World} {left right : Member}
    (same : world.SameMember left right) :
    right.declaring = left.declaring ∧ right.name = left.name := by
  cases same with
  | method declared named => exact ⟨declared, named⟩
  | property declared named => exact ⟨declared, named⟩
  | field declared named => exact ⟨declared, named⟩
  | bare declaring name => exact ⟨rfl, rfl⟩

-- Members are compared without their accessors, though a property is read only if it has a getter,
-- and written by its setter.
def SharesAccessors : Member → Member → Prop
  | .property left, .property right =>
    right.getter.isSome = left.getter.isSome ∧ right.setter = left.setter
  | _, _ => True

theorem shares_accessors_symm {left right : Member} (shares : SharesAccessors left right) :
    SharesAccessors right left := by
  cases left with
  | property details =>
      cases right with
      | property others => exact ⟨shares.1.symm, shares.2.symm⟩
      | _ => trivial
  | _ => cases right <;> trivial

theorem same_member_declared {world : World} {left right : Member}
    (same : world.SameMember left right)
    {type : TypeForm} (declared : Writing.declaredType? left = some type) :
    ∃ other, Writing.declaredType? right = some other ∧ world.Counterparts type other := by
  cases same with
  | method => cases declared
  | property _ _ typed =>
      cases declared
      exact ⟨_, rfl, typed⟩
  | field _ _ typed =>
      cases declared
      exact ⟨_, rfl, typed⟩
  | bare declaring name => cases declared

theorem same_member_writable {world : World} {left right : Member}
    (same : world.SameMember left right) (shares : SharesAccessors left right)
    (writable : Writing.isWritable left = true) :
    Writing.isWritable right = true := by
  cases same with
  | method => cases writable
  | property =>
      rw [Writing.isWritable, shares.2]
      exact writable
  | field => rfl
  | bare declaring name => cases writable

-- A member of which each type that is converted is plain, and no object is asked what the type
-- equals that a method returns.
structure PlainMember (world : World) (member : Member) : Prop where
  accepted : ∀ method, member = .method method →
    ∀ parameter ∈ method.parameters, world.Plain parameter.type
  returned : ∀ method, member = .method method →
    Written method.returns ∧ world.holdsJudgeInForm method.returns = false
  held : ∀ type, Writing.declaredType? member = some type → world.Plain type

section Equal

variable {world : World} {caller : Caller} {store after : Store}

theorem first_of_all {α : Type} {check : α → α → Run Bool} {left right : α} {lefts rights : List α}
    (found : (allOf check (left :: lefts) (right :: rights)).execute store = (.ok true, after)) :
    ∃ between, (check left right).execute store = (.ok true, between) ∧
      (allOf check lefts rights).execute between = (.ok true, after) := by
  rw [allOf] at found
  obtain ⟨first, between, checked, rest⟩ := Run.ok_of_execute_bind found
  cases first with
  | false => cases rest
  | true => exact ⟨between, checked, rest⟩

theorem plain_counterparts {left right : TypeForm} {depth : Nat} (plain : world.Plain left)
    (alsoPlain : world.Plain right)
    (found : (world.sameForms caller depth left right).execute store = (.ok true, after)) :
    world.Counterparts left right := by
  rcases same_forms_counterparts plain.written alsoPlain.written plain.unjudged
      alsoPlain.unjudged found with same | ⟨content, other, rfl, _, object⟩
  · exact same
  · rw [plain.tidy.unasked content (.here _)] at object
    cases object

-- Types that are found equal make a method void both or neither.
theorem void_of_same {left right : MethodMember} {depth : Nat}
    (told : Written left.returns ∧ world.holdsJudgeInForm left.returns = false)
    (alsoTold : Written right.returns ∧ world.holdsJudgeInForm right.returns = false)
    (found : (world.sameForms caller depth left.returns right.returns).execute store =
      (.ok true, after)) : right.isVoid = left.isVoid := by
  have void : ∀ method : MethodMember, method.isVoid = true ↔
      method.returns = .none ∨ method.returns.isNoneType = true := by
    intro method
    unfold MethodMember.isVoid
    split
    · rename_i absent
      simp [absent]
    · rename_i present
      exact ⟨.inr, fun given => given.resolve_left fun absent => present absent⟩
  apply Bool.eq_iff_iff.mpr
  rw [void right, void left]
  rcases same_forms_counterparts told.1 alsoTold.1 told.2 alsoTold.2 found with
    same | ⟨content, other, first, second, _⟩
  · rw [none_type_counterpart same]
    refine or_congr_left ⟨?_, ?_⟩
    · intro absent
      rw [absent] at same
      exact none_counterpart (counterparts_symm same)
    · intro absent
      rw [absent] at same
      exact none_counterpart same
  · simp [first, second, TypeForm.isNoneType]

theorem word_of_agree {left right : String}
    (agreed : (Member.Facet.agree world caller (.word left) (.word right)).execute store =
      (.ok true, after)) : left = right :=
  eq_of_beq (Except.ok.inj (congrArg Prod.fst agreed))

theorem flag_of_agree {left right : Bool}
    (agreed : (Member.Facet.agree world caller (.flag left) (.flag right)).execute store =
      (.ok true, after)) : left = right :=
  eq_of_beq (Except.ok.inj (congrArg Prod.fst agreed))

theorem owner_of_agree {left right : ClassRef}
    (agreed : (Member.Facet.agree world caller (.owner left) (.owner right)).execute store =
      (.ok true, after)) : left = right :=
  eq_of_beq (Except.ok.inj (congrArg Prod.fst agreed))

-- The facets of methods agree only if their parameters do, one by one.
theorem facets_agree {lefts rights : List Parameter} {left right : TypeForm} {one other : String}
    (plain : ∀ parameter ∈ lefts, world.Plain parameter.type)
    (alsoPlain : ∀ parameter ∈ rights, world.Plain parameter.type)
    (found : (allOf (Member.Facet.agree world caller)
      (lefts.flatMap Member.parameterFacets ++ [.type left, .word one])
      (rights.flatMap Member.parameterFacets ++ [.type right, .word other])).execute store =
        (.ok true, after)) :
    world.SameParameters lefts rights ∧ ∃ before final,
      (world.sameForms caller nestingDepth left right).execute before = (.ok true, final) := by
  induction lefts generalizing rights store with
  | nil =>
      cases rights with
      | nil =>
          obtain ⟨between, agreed, _⟩ := first_of_all found
          exact ⟨.done, store, between, agreed⟩
      | cons partner rights =>
          obtain ⟨between, agreed, _⟩ := first_of_all found
          cases agreed
  | cons parameter lefts ih =>
      cases rights with
      | nil =>
          obtain ⟨between, agreed, _⟩ := first_of_all found
          cases agreed
      | cons partner rights =>
          obtain ⟨afterName, names, found⟩ := first_of_all found
          obtain ⟨afterType, types, found⟩ := first_of_all found
          obtain ⟨afterFlag, flags, found⟩ := first_of_all found
          obtain ⟨plainType, plainRest⟩ := List.forall_mem_cons.mp plain
          obtain ⟨alsoPlainType, alsoPlainRest⟩ := List.forall_mem_cons.mp alsoPlain
          obtain ⟨rest, returned⟩ := ih plainRest alsoPlainRest found
          refine ⟨.next ⟨?_, ?_, plain_counterparts plainType alsoPlainType types⟩ rest, returned⟩
          · exact (word_of_agree names).symm
          · exact (flag_of_agree flags).symm

-- Members that are found equal differ only in how their types are written, and in accessors.
theorem same_of_equal {left right : Member} (plain : world.PlainMember left)
    (alsoPlain : world.PlainMember right)
    (found : (Member.equals world caller left right).execute store = (.ok true, after)) :
    world.SameMember left right := by
  unfold Member.equals at found
  split at found
  · rename_i kinds
    obtain ⟨afterOwner, owners, found⟩ := first_of_all found
    obtain ⟨afterName, names, found⟩ := first_of_all found
    have declared := (owner_of_agree owners).symm
    have named := (word_of_agree names).symm
    cases left with
    | method details =>
        cases right with
        | method others =>
            obtain ⟨taken, before, final, returned⟩ :=
              facets_agree (plain.accepted details rfl) (alsoPlain.accepted others rfl) found
            exact .method declared named taken (void_of_same (plain.returned details rfl)
              (alsoPlain.returned others rfl) returned)
        | _ => simp [Member.kindName] at kinds
    | property details =>
        cases right with
        | property others =>
            obtain ⟨afterType, types, _⟩ := first_of_all found
            exact .property declared named
              (plain_counterparts (plain.held _ rfl) (alsoPlain.held _ rfl) types)
        | _ => simp [Member.kindName] at kinds
    | field details =>
        cases right with
        | field others =>
            obtain ⟨afterType, types, _⟩ := first_of_all found
            exact .field declared named
              (plain_counterparts (plain.held _ rfl) (alsoPlain.held _ rfl) types)
        | _ => simp [Member.kindName] at kinds
    | bare declaring name =>
        cases right with
        | bare owner label =>
            cases declared
            cases named
            exact .bare declaring name
        | _ => simp [Member.kindName] at kinds
  · cases found

end Equal

end World

end MemberThunks
