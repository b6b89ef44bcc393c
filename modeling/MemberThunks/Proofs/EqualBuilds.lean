import MemberThunks.Proofs.EqualMembers
import MemberThunks.Proofs.FieldThunks
import MemberThunks.Proofs.MethodBuild
import MemberThunks.Proofs.PropertyReads

set_option autoImplicit false

/- The code for members that count as one. The text of the code is the same, since the names of
   constants tell the kind of a conversion and nothing else; so it is loaded for both or neither,
   and all that can be found in the one and not in the other is how a check is made. -/
namespace MemberThunks

namespace World

-- Two parameters that count as one, with the conversions of their types.
structure Pairing (world : World) where
  left : Parameter
  right : Parameter
  first : Option Conversion
  second : Option Conversion
  same : world.SameParameter left right
  tidy : world.Tidy left.type
  alsoTidy : world.Tidy right.type
  converted : world.conversionFor left.type false = .ok first
  alsoConverted : world.conversionFor right.type false = .ok second
  alike : Alike first second

theorem paired_parameters {world : World} {lefts rights : List Parameter}
    {conversions : List (Option Conversion)} (same : world.SameParameters lefts rights)
    (plain : ∀ parameter ∈ lefts, world.Plain parameter.type)
    (alsoPlain : ∀ parameter ∈ rights, world.Plain parameter.type)
    (found : Reading.conversionsOf world lefts = .ok conversions) :
    ∃ pairs : List (Pairing world), pairs.map Pairing.left = lefts ∧
      pairs.map Pairing.right = rights ∧ pairs.map Pairing.first = conversions ∧
      Reading.conversionsOf world rights = .ok (pairs.map Pairing.second) := by
  induction same generalizing conversions with
  | done =>
      cases found
      exact ⟨[], rfl, rfl, rfl, rfl⟩
  | @next left right lefts rights first rest ih =>
      obtain ⟨plainType, plainRest⟩ := List.forall_mem_cons.mp plain
      obtain ⟨alsoPlainType, alsoPlainRest⟩ := List.forall_mem_cons.mp alsoPlain
      rw [Reading.conversionsOf, List.mapM_cons] at found
      obtain ⟨conversion, converted, found⟩ := ok_of_bind found
      obtain ⟨later, tail, made⟩ := ok_of_bind found
      cases made
      obtain ⟨other, alsoConverted, alike⟩ :=
        counterpart_converted converted first.typed plainType alsoPlainType
      obtain ⟨pairs, rfl, rfl, rfl, others⟩ := ih plainRest alsoPlainRest tail
      refine ⟨⟨left, right, conversion, other, first, plainType.tidy, alsoPlainType.tidy,
        converted, alsoConverted, alike⟩ :: pairs, rfl, rfl, rfl, ?_⟩
      rw [Reading.conversionsOf] at others ⊢
      rw [List.mapM_cons, alsoConverted, others]
      rfl

end World

namespace Reading

section Parameters

variable {world known : World}

theorem conversions_told (informed : world.Informed known) {parameters : List Parameter}
    {conversions : List (Option Conversion)}
    (tidy : ∀ parameter ∈ parameters, world.Tidy parameter.type)
    (found : conversionsOf known parameters = .ok conversions) :
    conversionsOf world parameters = .ok conversions := by
  induction parameters generalizing conversions with
  | nil =>
      cases found
      rfl
  | cons parameter rest ih =>
      obtain ⟨tidyType, tidyRest⟩ := List.forall_mem_cons.mp tidy
      rw [conversionsOf, List.mapM_cons] at found
      obtain ⟨conversion, converted, found⟩ := ok_of_bind found
      obtain ⟨later, tail, made⟩ := ok_of_bind found
      have told : world.conversionFor parameter.type false = .ok conversion :=
        World.conversion_told informed tidyType converted
      have others := ih tidyRest tail
      rw [conversionsOf] at others ⊢
      rw [List.mapM_cons, told, others]
      exact made

-- Parameters that count as one are given alike, by position or under one name.
theorem placed_of_pairs {α : Type} (pairs : List (World.Pairing world)) (items : List α) :
    placed (pairs.map World.Pairing.right) items = placed (pairs.map World.Pairing.left) items := by
  induction pairs generalizing items with
  | nil => rfl
  | cons pair rest ih =>
      cases items with
      | nil => rfl
      | cons item items =>
          have tail := ih items
          have flags := pair.same.placed
          cases kind : pair.left.keywordOnly <;> simpa [placed, kind, flags] using tail

theorem keyed_of_pairs {α : Type} (pairs : List (World.Pairing world)) (items : List α) :
    keyed (pairs.map World.Pairing.right) items = keyed (pairs.map World.Pairing.left) items := by
  induction pairs generalizing items with
  | nil => rfl
  | cons pair rest ih =>
      cases items with
      | nil => rfl
      | cons item items =>
          have tail := ih items
          have flags := pair.same.placed
          have named := pair.same.named
          cases kind : pair.left.keywordOnly <;> simpa [keyed, kind, flags, named] using tail

theorem ordered_by_pairs {α : Type} (pairs : List (World.Pairing world)) (items : List α) :
    ordered (pairs.map World.Pairing.right) items =
      ordered (pairs.map World.Pairing.left) items := by
  rw [ordered, ordered, placed_of_pairs, keyed_of_pairs]

theorem names_of_pairs (pairs : List (World.Pairing world)) :
    names (pairs.map World.Pairing.right) = names (pairs.map World.Pairing.left) := by
  induction pairs with
  | nil => rfl
  | cons pair rest ih =>
      have flags := pair.same.placed
      have named := pair.same.named
      cases kind : pair.left.keywordOnly <;> simpa [names, kind, flags, named] using ih

theorem places_of_pairs (pairs : List (World.Pairing world)) :
    places (pairs.map World.Pairing.right) = places (pairs.map World.Pairing.left) := by
  induction pairs with
  | nil => rfl
  | cons pair rest ih =>
      have flags := pair.same.placed
      cases kind : pair.left.keywordOnly <;> simpa [places, kind, flags] using ih

end Parameters

section Written

variable {world : World}

-- What is written for an argument hangs on its conversion by the kind of that alone.
theorem argument_alike {before other : Constants} (level : other.length = before.length)
    (numbered : before.Numbered) (alsoNumbered : other.Numbered)
    {first second : Option Conversion} (alike : World.Alike first second) (position : Nat) :
    (argument position second other).1 = (argument position first before).1 ∧
      (argument position second other).2.length = (argument position first before).2.length := by
  cases alike with
  | unasked => exact ⟨rfl, level⟩
  | @asked conversion twin kind =>
      have hints : Constant.conversionHint twin = Constant.conversionHint conversion := by
        rw [Constant.conversionHint, Constant.conversionHint, kind.unboxing]
      have names : other.nextName (Constant.conversionHint twin) =
          before.nextName (Constant.conversionHint conversion) := by
        rw [hints, Constants.nextName, Constants.nextName, level]
      rw [argument, argument, Builder.convert_named, Builder.convert_named, names]
      refine ⟨rfl, ?_⟩
      rw [Constants.add_appends alsoNumbered, Constants.add_appends numbered, List.length_append,
        List.length_append, level]
      rfl

theorem arguments_alike (pairs : List (World.Pairing world)) (position : Nat)
    {before other : Constants} (level : other.length = before.length)
    (numbered : before.Numbered) (alsoNumbered : other.Numbered) :
    (argumentsFrom position (pairs.map World.Pairing.second) other).1 =
      (argumentsFrom position (pairs.map World.Pairing.first) before).1 := by
  induction pairs generalizing position before other with
  | nil => rfl
  | cons pair rest ih =>
      -- what is made does not hang on the world it is evaluated in
      have first := argument_makes .empty (fun _ _ _ => pure .none) numbered position pair.first
      have second := argument_makes .empty (fun _ _ _ => pure .none) alsoNumbered position
        pair.second
      obtain ⟨written, leveled⟩ := argument_alike level numbered alsoNumbered pair.alike position
      have tail := ih (position + 1) leveled first.numbered second.numbered
      have both := congr (congrArg List.cons written) tail
      exact both

variable {left right : MethodMember} {pairs : List (World.Pairing world)}

-- The functions for methods that count as one are written alike.
theorem function_alike (declared : right.declaring = left.declaring) (named : right.name = left.name)
    (lefts : left.parameters = pairs.map World.Pairing.left)
    (rights : right.parameters = pairs.map World.Pairing.right) :
    (function right (pairs.map World.Pairing.second)).name =
        (function left (pairs.map World.Pairing.first)).name ∧
      (function right (pairs.map World.Pairing.second)).parameters =
        (function left (pairs.map World.Pairing.first)).parameters ∧
      (function right (pairs.map World.Pairing.second)).body =
        (function left (pairs.map World.Pairing.first)).body := by
  refine ⟨?_, rfl, ?_⟩
  · exact congrArg (fun name => Identifier.squash ("Invoke" ++ name)) named
  · have numbered := (target_narrows .empty (fun _ _ _ => pure .none) left.declaring).numbered
    have written := arguments_alike pairs 0 rfl numbered numbered
    change ((methodBody right _).run []).1 = ((methodBody left _).run []).1
    rw [method_body_divides (by rw [rights, List.length_map, List.length_map]),
      method_body_divides (by rw [lefts, List.length_map, List.length_map])]
    dsimp only
    rw [declared, named, rights, lefts, written, placed_of_pairs, keyed_of_pairs]

end Written

end Reading

namespace Reading

section Counterpart

variable {world known : World} {left right : Member} {lambda : Lambda}

theorem property_made {property : PropertyMember} (held : property.getter.isSome = true) :
    Reading.property known property = .ok (getting property) := by
  obtain ⟨getter, found⟩ := Option.isSome_iff_exists.mp held
  rw [Reading.property, found]
  rfl

-- What reads a member has a counterpart of the same text for each member that counts as one.
theorem counterpart_written (same : world.SameMember left right) (plain : world.PlainMember left)
    (alsoPlain : world.PlainMember right) (shares : World.SharesAccessors left right)
    (informed : world.Informed known) (tried : Reading.member known left = .ok lambda) :
    ∃ other, Reading.member world right = .ok other ∧ other.name = lambda.name ∧
      other.parameters = lambda.parameters ∧ other.body = lambda.body := by
  cases same with
  | @method left right declared named taken given =>
      obtain ⟨conversions, found, rfl⟩ := method_gives tried
      have told := conversions_told informed
        (fun parameter listed => (plain.accepted left rfl parameter listed).tidy) found
      obtain ⟨pairs, lefts, rights, rfl, others⟩ := World.paired_parameters taken
        (plain.accepted left rfl) (alsoPlain.accepted right rfl) told
      exact ⟨_, method_of_conversions others,
        function_alike declared named lefts.symm rights.symm⟩
  | @property left right declared named typed =>
      obtain ⟨held, rfl⟩ := property_gives tried
      refine ⟨_, property_made (shares.1.trans held), ?_, rfl, ?_⟩
      · exact congrArg (fun name => Identifier.squash ("Get" ++ name)) named
      · change ((propertyBody right).run []).1 = ((propertyBody left).run []).1
        rw [propertyBody, propertyBody, declared, named]
  | @field left right declared named typed =>
      cases tried
      refine ⟨_, rfl, ?_, rfl, ?_⟩
      · exact congrArg (fun name => Identifier.squash ("Get" ++ name)) named
      · change ((fieldBody right).run []).1 = ((fieldBody left).run []).1
        rw [fieldBody, fieldBody, declared, named]
  | bare declaring name => cases tried

end Counterpart

end Reading

namespace Writing

section Counterpart

variable {world known : World} {member : Member} {type : TypeForm}
  {conversion : Option Conversion} {program : Program}

theorem writable_of_program (composed : Writing.member known member = .ok program) :
    isWritable member = true := by
  cases member with
  | field details => rfl
  | property details =>
      rw [Writing.member, property] at composed
      cases held : details.setter with
      | none => simp [held] at composed
      | some setter => simp [isWritable, held]
  | method details => cases composed
  | bare declaring name => cases composed

theorem program_lowered (declaring : ClassRef) (name : String) {store : Instruction}
    (stores : (∃ member, store = .storeField member) ∨
      ∃ details, store = .callSetter (.property details))
    (converted : world.conversionFor type false = .ok conversion) :
    ∃ lowered, (Writing.program declaring name type store).lower world = .ok lowered := by
  rcases stores with ⟨member, rfl⟩ | ⟨details, rfl⟩ <;> cases conversion <;>
    exact ⟨_, by
      simp only [Program.lower, Writing.program, Lowering.steps, Lowering.step, converted,
        Lowering.State.pop, Lowering.State.push, Lowering.State.write, Lowering.State.check,
        Lowering.State.addConstant, Lowering.State.empty, Instruction.isReturn, bind, Except.bind,
        pure, Except.pure]
      rfl⟩

-- A member that can be written and whose type has a conversion has a listing.
theorem listing_made (writable : isWritable member = true)
    (declared : declaredType? member = some type)
    (converted : world.conversionFor type false = .ok conversion) :
    ∃ program lowered, Writing.member world member = .ok program ∧
      program.lower world = .ok lowered ∧ program.name = "Set" ++ member.name := by
  have checked : ∀ about, checkType world type about = .ok () := by
    intro about
    rw [checkType, converted]
  cases member with
  | field details =>
      cases declared
      obtain ⟨lowered, done⟩ := program_lowered details.declaring details.name
        (.inl ⟨.field details, rfl⟩) converted
      refine ⟨_, lowered, ?_, done, rfl⟩
      rw [Writing.member, field, checked]
      rfl
  | property details =>
      cases declared
      obtain ⟨setter, held⟩ := Option.isSome_iff_exists.mp writable
      obtain ⟨lowered, done⟩ := program_lowered details.declaring details.name
        (.inr ⟨details, rfl⟩) converted
      refine ⟨_, lowered, ?_, done, rfl⟩
      rw [Writing.member, property, held, checked]
      rfl
  | method details => cases declared
  | bare declaring name => cases declared

end Counterpart

end Writing

namespace Loading

-- What is checked of a function is how it is written.
theorem check_of_text {first second : Lambda} (named : second.name = first.name)
    (taken : second.parameters = first.parameters) (written : second.body = first.body)
    (fileName : String) : check (.tree second) fileName = check (.tree first) fileName := by
  simp only [check, checkTree, checkNames, named, taken, written]

theorem check_of_name {first second : Listing} (named : second.name = first.name)
    (fileName : String) : check (.listing second) fileName = check (.listing first) fileName := by
  simp only [check, checkListing, named]

end Loading

namespace Strategy

section Builds

variable {world : World} {caller : Caller} {registry : Registry} {options : Options}
  {label : Option String} {store : Store} {member : Member}

theorem read_gives {thunk : Thunk}
    (made : built world caller registry options .read label (.member member) store = .ok thunk) :
    ∃ known lambda, world.Informed known ∧ Reading.member known member = .ok lambda ∧
      thunk.code = .tree lambda := by
  obtain ⟨⟨after, ran⟩, _⟩ := code_of_built made
  have written : (tree world caller (.member member)).run.run store = (.ok thunk.code, after) := by
    cases member with
    | bare declaring name => cases ran
    | _ => exact ran
  obtain ⟨lambda, settled, same⟩ := ok_of_run_map written
  obtain ⟨known, informed, tried⟩ := Making.made_of_settling settled
  exact ⟨known, lambda, informed, tried, same⟩

theorem read_made {lambda : Lambda} (tried : Reading.member world member = .ok lambda)
    (checked : Loading.check (.tree lambda)
      (options.fileName (Code.tree lambda).name registry.serial) = .ok ()) :
    built world caller registry options .read label (.member member) store =
      .ok ⟨.tree lambda, options.fileName (Code.tree lambda).name registry.serial⟩ := by
  have written : (tree world caller (.member member)).run.run store =
      (.ok (.tree lambda), store) := by
    rw [tree, run_map, Strategy.lambda, Making.settling_first tried]
    rfl
  have ran : (code world caller .read (.member member)).run.run store =
      (.ok (.tree lambda), store) := by
    cases member with
    | bare declaring name => cases tried
    | _ => exact written
  exact built_of_checked ran checked

theorem write_made {program : Program} {lowered : Listing}
    (composed : Writing.member world member = .ok program)
    (done : program.lower world = .ok lowered)
    (checked : Loading.check (.listing lowered)
      (options.fileName (Code.listing lowered).name registry.serial) = .ok ()) :
    built world caller registry options .write label (.member member) store =
      .ok ⟨.listing lowered, options.fileName (Code.listing lowered).name registry.serial⟩ := by
  have written : (listing world caller (.member member)).run.run store =
      (.ok (.listing lowered), store) := by
    rw [listing, run_bind, Strategy.program, Making.settling_first composed]
    change (Strategy.lowered world caller program).run.run store = _
    rw [Strategy.lowered, run_map, Making.settling_first done]
    rfl
  have ran : (code world caller .write (.member member)).run.run store =
      (.ok (.listing lowered), store) := by
    cases member with
    | field details => exact written
    | property details => exact written
    | method details => cases composed
    | bare declaring name => cases composed
  exact built_of_checked ran checked

variable {left right : Member} {thunk : Thunk}

theorem counterpart_read (same : world.SameMember left right) (plain : world.PlainMember left)
    (alsoPlain : world.PlainMember right) (shares : World.SharesAccessors left right)
    (made : built world caller registry options .read label (.member left) store = .ok thunk) :
    ∃ other, built world caller registry options .read label (.member right) store =
      .ok other := by
  obtain ⟨known, lambda, informed, tried, shape⟩ := read_gives made
  obtain ⟨_, checked, file⟩ := code_of_built made
  obtain ⟨other, written, named, taken, body⟩ :=
    Reading.counterpart_written same plain alsoPlain shares informed tried
  rw [file, shape] at checked
  refine ⟨_, read_made written ?_⟩
  rw [Loading.check_of_text named taken body]
  simpa only [Code.name, named] using checked

theorem counterpart_write (same : world.SameMember left right) (plain : world.PlainMember left)
    (alsoPlain : world.PlainMember right) (shares : World.SharesAccessors left right)
    (made : built world caller registry options .write label (.member left) store = .ok thunk) :
    ∃ other, built world caller registry options .write label (.member right) store =
      .ok other := by
  obtain ⟨informed, program, known, lowered, composed, heard, done, shape⟩ :=
    built_by_listing rfl made
  obtain ⟨_, checked, file⟩ := code_of_built made
  obtain ⟨type, instruction, declared, rfl, _⟩ := Writing.program_of_member composed
  obtain ⟨conversion, found⟩ := Writing.conversion_of_lowered done
  have told := World.conversion_told heard (plain.held type declared).tidy found
  obtain ⟨partner, alsoDeclared, typed⟩ := World.same_member_declared same declared
  obtain ⟨twin, converted, _⟩ := World.counterpart_converted told typed (plain.held type declared)
    (alsoPlain.held partner alsoDeclared)
  have writable := World.same_member_writable same shares (Writing.writable_of_program composed)
  obtain ⟨other, emitted, written, made, label⟩ :=
    Writing.listing_made writable alsoDeclared converted
  have named : emitted.name = lowered.name := by
    obtain ⟨_, _, rfl⟩ := Program.lower_gives done
    obtain ⟨_, _, rfl⟩ := Program.lower_gives made
    rw [label, (World.same_member_agrees same).2]
    rfl
  rw [file, shape] at checked
  refine ⟨_, write_made written made ?_⟩
  rw [Loading.check_of_name named]
  simpa only [Code.name, named] using checked

end Builds

end Strategy

end MemberThunks
