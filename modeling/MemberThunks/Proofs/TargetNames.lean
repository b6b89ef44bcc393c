import MemberThunks.CommandLine
import MemberThunks.Proofs.Effects

set_option autoImplicit false

/- Targets by name. A target is cut at its first colon, then at its last dot, and the path between
   the two at every dot. These cuts undo the putting together of a module, a path and a member; so
   a target stands for a class and a name if it is written so and the path leads to the class, and
   otherwise for nothing. -/
namespace MemberThunks

namespace CommandLine

section Cuts

variable {separator : Char} {text front back : List Char}

theorem split_first_iff : splitFirst separator text = some (front, back) ↔
    text = front ++ separator :: back ∧ separator ∉ front := by
  induction text generalizing front with
  | nil => simp [splitFirst]
  | cons c rest ih =>
      by_cases here : c = separator
      · subst here
        rw [splitFirst, if_pos rfl]
        constructor
        · intro cut
          cases cut
          exact ⟨rfl, List.not_mem_nil⟩
        · rintro ⟨whole, clean⟩
          cases front with
          | nil => exact congrArg _ (congrArg _ (List.cons.inj whole).2)
          | cons first others =>
              exact absurd ((List.cons.inj whole).1 ▸ List.mem_cons_self) clean
      · rw [splitFirst, if_neg here]
        constructor
        · intro cut
          obtain ⟨⟨before, after⟩, found, made⟩ := Option.map_eq_some_iff.mp cut
          cases made
          obtain ⟨whole, clean⟩ := ih.mp found
          refine ⟨congrArg (c :: ·) whole, fun among => ?_⟩
          rcases List.mem_cons.mp among with same | among
          · exact here same.symm
          · exact clean among
        · rintro ⟨whole, clean⟩
          cases front with
          | nil => exact absurd (List.cons.inj whole).1 here
          | cons first others =>
              obtain ⟨same, tail⟩ := List.cons.inj whole
              have found := ih.mpr ⟨tail, fun among => clean (List.mem_cons_of_mem first among)⟩
              rw [found, same]
              rfl

theorem split_last_iff : splitLast separator text = some (front, back) ↔
    text = front ++ separator :: back ∧ separator ∉ back := by
  rw [splitLast, Option.map_eq_some_iff]
  constructor
  · rintro ⟨⟨reversed, rest⟩, cut, made⟩
    cases made
    obtain ⟨whole, clean⟩ := split_first_iff.mp cut
    refine ⟨?_, fun among => clean (List.mem_reverse.mp among)⟩
    have forwards := congrArg List.reverse whole
    simpa using forwards
  · rintro ⟨rfl, clean⟩
    refine ⟨(back.reverse, front.reverse), split_first_iff.mpr ⟨by simp, ?_⟩, by simp⟩
    exact fun among => clean (List.mem_reverse.mp among)

theorem split_all_eq (separator : Char) (text : List Char) :
    splitAll separator text = text.splitOn separator := by
  induction text with
  | nil => rfl
  | cons c rest ih =>
      rw [splitAll, ih, List.splitOn, List.splitOn, List.splitOnP_cons_eq_if_modifyHead]
      cases parts : rest.splitOnP (· == separator) with
      | nil => exact absurd parts (List.splitOnP_ne_nil _ _)
      | cons part parts =>
          by_cases here : c = separator <;> simp [here]

end Cuts

-- A target is read off a text if the text is its module, its path and its member, put together.
theorem parse_target_iff {text : String} {target : Target} :
    parseTarget text = some target ↔
      ∃ path : String, text = target.moduleName ++ ":" ++ path ++ "." ++ target.member ∧
        target.moduleName ≠ "" ∧ ':' ∉ target.moduleName.toList ∧ '.' ∉ target.member.toList ∧
        target.owner = Parts.split '.' path := by
  obtain ⟨moduleName, owner, member⟩ := target
  constructor
  · intro parsed
    obtain ⟨⟨front, back⟩, cut, parsed⟩ := Option.bind_eq_some_iff.mp parsed
    obtain ⟨⟨path, last⟩, cutPath, parsed⟩ := Option.bind_eq_some_iff.mp parsed
    obtain ⟨whole, clean⟩ := split_first_iff.mp cut
    obtain ⟨rest, cleanLast⟩ := split_last_iff.mp cutPath
    dsimp only at parsed
    split at parsed
    · cases parsed
    · rename_i named
      cases parsed
      refine ⟨String.ofList path, ?_, ?_, by simpa using clean, by simpa using cleanLast, ?_⟩
      · apply String.toList_inj.mp
        simp [whole, rest]
      · simpa using named
      · rw [split_all_eq, Parts.split, String.toList_ofList]
  · rintro ⟨path, rfl, named, clean, cleanMember, parts⟩
    have cut : splitFirst ':' (moduleName ++ ":" ++ path ++ "." ++ member).toList =
        some (moduleName.toList, path.toList ++ '.' :: member.toList) :=
      split_first_iff.mpr ⟨by simp, clean⟩
    have cutPath : splitLast '.' (path.toList ++ '.' :: member.toList) =
        some (path.toList, member.toList) := split_last_iff.mpr ⟨rfl, cleanMember⟩
    have some : moduleName.toList.isEmpty = false := by simpa using named
    simp only [parseTarget, cut, Option.bind_eq_bind, Option.bind_some, cutPath, some,
      Bool.false_eq_true, if_false, String.ofList_toList, split_all_eq]
    exact congrArg (fun owner => Option.some (Target.mk moduleName owner member)) parts.symm

-- A path of attributes leads from a value to another one, and from a store to another one.
inductive Leads (world : World) (caller : Caller) :
    Value → Store → List String → Value → Store → Prop where
  | here (value : Value) (store : Store) : Leads world caller value store [] value store
  | step {value next final : Value} {store between after : Store} {name : String}
      {rest : List String}
      (read : (world.normalGet caller value name).run.run store = (.ok next, between))
      (onward : Leads world caller next between rest final after) :
      Leads world caller value store (name :: rest) final after

-- A dotted path leads from the module to a value: the first part is an attribute of the module.
def Reaches (world : World) (caller : Caller) (store : Store) (path : String) (final : Value)
    (after : Store) : Prop :=
  ∃ name rest first between, Parts.split '.' path = name :: rest ∧
    (moduleAttribute world caller name).run.run store = (.ok first, between) ∧
    Leads world caller first between rest final after

section Walks

variable {world : World} {caller : Caller} {store after : Store} {value final : Value}

theorem walk_iff {path : List String} :
    (walk world caller value path).run.run store = (.ok final, after) ↔
      Leads world caller value store path final after := by
  induction path generalizing value store with
  | nil =>
      constructor
      · intro walked
        cases walked
        exact .here _ _
      · intro leads
        cases leads
        rfl
  | cons name rest ih =>
      constructor
      · intro walked
        obtain ⟨next, between, read, onward⟩ := ok_of_run_bind walked
        exact .step read (ih.mp onward)
      · intro leads
        cases leads with
        | step read onward =>
            rw [walk, run_bind, read]
            exact ih.mpr onward

theorem walk_module_iff {path : String} :
    (walkModule world caller (Parts.split '.' path)).run.run store = (.ok final, after) ↔
      Reaches world caller store path final after := by
  cases parts : Parts.split '.' path with
  | nil =>
      constructor
      · intro walked
        cases walked
      · rintro ⟨name, rest, first, between, split, _⟩
        cases parts.symm.trans split
  | cons name rest =>
      rw [walkModule]
      constructor
      · intro walked
        obtain ⟨first, between, read, onward⟩ := ok_of_run_bind walked
        rw [run_adapt] at onward
        cases led : (walk world caller first rest).run.run between with
        | mk outcome last =>
            rw [led] at onward
            cases outcome with
            | error raised => cases onward
            | ok reached =>
                cases onward
                exact ⟨name, rest, first, between, parts, read, walk_iff.mp led⟩
      · rintro ⟨other, others, first, between, split, read, leads⟩
        cases parts.symm.trans split
        rw [run_bind, read]
        have led := walk_iff.mpr leads
        change (ExceptT.adapt _ (walk world caller first rest)).run.run between = _
        rw [run_adapt, led]
        rfl

theorem resolve_iff {text name : String} {found : ClassRef} :
    (resolve world caller text).run.run store = (.ok (found, name), after) ↔
      ∃ target, parseTarget text = some target ∧ target.member = name ∧
        importModule target.moduleName = .ok () ∧
        (walkModule world caller target.owner).run.run store = (.ok (.cls found), after) := by
  rw [resolve]
  cases parsed : parseTarget text with
  | none =>
      constructor
      · intro resolved
        cases resolved
      · rintro ⟨target, same, _⟩
        cases same
  | some target =>
      dsimp only
      rw [run_bind]
      constructor
      · intro resolved
        cases imported : importModule target.moduleName with
        | error fault =>
            rw [imported] at resolved
            cases resolved
        | ok done =>
            rw [imported] at resolved
            obtain ⟨value, between, walked, ended⟩ := ok_of_run_bind resolved
            cases value <;> cases ended
            exact ⟨target, rfl, rfl, imported, walked⟩
      · rintro ⟨other, same, rfl, imported, walked⟩
        cases same
        rw [imported]
        change (walkModule world caller target.owner >>= _).run.run store = _
        rw [run_bind, walked]
        rfl

end Walks

-- A class in a class in a class.
def nest : World :=
  ((World.empty.declare (.ofMembers "Outer" [])).declare
    { ClassDecl.ofMembers "Middle" [] with outer := some (.declared 0) }).declare
      { ClassDecl.ofMembers "Inner" [] with outer := some (.declared 1) }

end CommandLine

end MemberThunks
