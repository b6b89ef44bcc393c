import MemberThunks.Proofs.CallingConvention
import MemberThunks.Proofs.Settling

set_option autoImplicit false

/- The thunk that reads a field narrows the target to the class that declares the field, and then
   reads the name of the field directly, past every hook of the class. -/
namespace MemberThunks

namespace Builder

theorem load_makes (world : World) (caller : Caller) {before : Constants}
    (numbered : before.Numbered) {expression : Expression} (sound : expression.Sound)
    (label : String) : Makes world caller before (load expression label before)
      fun itself scope => expression.evaluate world caller itself scope >>= fun target =>
        world.directGet caller target label := by
  have kind : "load" ∈ Constants.hints := by simp [Constants.hints]
  have made : load expression label before =
      (.call (.name (before.nextName "load")) [expression, .literal (.text label)] [],
        (before.add "load" .directGet).2) :=
    congrArg (fun named : Expression × Constants =>
      (named.1.call [expression, .literal (.text label)] [], named.2))
        (constant_named kind .directGet before)
  have known := Constants.add_numbered numbered kind .directGet
  have found := Constants.lookup_added before "load" .directGet
  rw [made]
  refine ⟨known, Constants.add_extends numbered _ _, ?_, ?_⟩
  · have mark := Constants.underscore_in_key known (Entries.mem_keys_of_lookup found)
    refine Expression.sound_call
      (Expression.sound_name (Constants.not_constant_of_underscore mark)) ?_
      (by simp) List.nodup_nil (by simp)
    intro given listed
    simp only [List.mem_cons, List.not_mem_nil, or_false] at listed
    rcases listed with rfl | rfl
    · exact sound
    · exact Expression.sound_literal _
  · intro itself scope serves
    simp only [Expression.evaluate, Expression.evaluateCallee, Expression.evaluateAll,
      Expression.evaluateKeywords, Expression.meaningOf,
      Scope.meaning_of_constant serves found, pure_bind, bind_assoc]
    rfl

end Builder

namespace Reading

-- The read of a field in its order.
def fetch (world : World) (caller : Caller) (field : FieldMember) (target : Value) : Run Value := do
  let narrowed ← (Conversion.cast (.cls field.declaring) false).apply world caller target
  world.directGet caller narrowed field.name

theorem field_body_makes (world : World) (caller : Caller) (field : FieldMember) :
    Builder.Makes world caller [] ((fieldBody field).run []) fun itself scope =>
      (Expression.name targetName).evaluate world caller itself scope >>= fun target =>
        fetch world caller field target := by
  have narrows := target_narrows world caller field.declaring
  have loads := Builder.load_makes world caller narrows.numbered narrows.sound field.name
  refine ⟨loads.numbered, Constants.extends_trans loads.grows narrows.grows, loads.sound, ?_⟩
  intro itself scope serves
  have narrowed := narrows.evaluates itself scope (scope.serves_earlier serves loads.grows)
  refine (loads.evaluates itself scope serves).trans ?_
  rw [narrowed, bind_assoc]
  rfl

theorem get_name (name : String) :
    ∃ rest, (Identifier.squash ("Get" ++ name)).toList = 'G' :: rest := by
  have starts : ("Get" ++ name).toList = 'G' :: ("et".toList ++ name.toList) := by
    simp
  exact ⟨_, Identifier.squash_starts starts (by decide) (by decide)⟩

-- The scope in which the body of a function that reads is evaluated.
theorem reader_scope_serves (name : String) {table : Constants} (numbered : table.Numbered)
    (target : Value) :
    Scope.Serves ⟨[(targetName, target)], Identifier.squash ("Get" ++ name), table⟩ table := by
  obtain ⟨rest, named⟩ := get_name name
  refine Scope.serves_own numbered ?_ (Constants.capital_not_key numbered named rfl)
  intro label listed
  simp only [Entries.keys, List.map_cons, List.map_nil, List.mem_cons, List.not_mem_nil,
    or_false] at listed
  rcases listed with rfl
  decide

-- A function that reads does what its body is evaluated to.
theorem reader_calls (name : String) (body : Builder Expression) (world : World) (target : Value)
    {reads : Run Value} (evaluated : ∀ itself, (body.run []).1.evaluate world
      (world.call World.callLimit) itself
      ⟨[(targetName, target)], Identifier.squash ("Get" ++ name), (body.run []).2⟩ = reads) :
    (Lambda.make ("Get" ++ name) [targetName] false body).call world [target] =
      LocatedRun.onLine (some Lambda.bodyLine) reads := by
  obtain ⟨itself, called⟩ := Lambda.call_evaluates
    (Lambda.make ("Get" ++ name) [targetName] false body) [target]
    (by decide : [targetName].Nodup) rfl world
  have finished : (fun result => pure
      ((Lambda.make ("Get" ++ name) [targetName] false body).finish result)) =
        (pure : Value → Run Value) := rfl
  rw [called, finished, bind_pure]
  exact congrArg (LocatedRun.onLine (some Lambda.bodyLine)) (evaluated itself)

theorem field_calls (field : FieldMember) (world : World) (target : Value) :
    (Reading.field field).call world [target] = LocatedRun.onLine (some Lambda.bodyLine)
      (fetch world (world.call World.callLimit) field target) := by
  have makes := field_body_makes world (world.call World.callLimit) field
  refine reader_calls field.name (fieldBody field) world target fun itself => ?_
  have evaluated := makes.evaluates itself _ (reader_scope_serves field.name makes.numbered target)
  rwa [Expression.evaluate_parameter rfl, pure_bind] at evaluated

end Reading

namespace Strategy

-- The requests that a field is built for as what is read.
def readsField : Request → Bool
  | .read | .readKind .field | .byExpression => true
  | _ => false

theorem field_lambda (world : World) (caller : Caller) (field : FieldMember) (store : Store) :
    (lambda world caller (.member (.field field))).run.run store =
      (.ok (Reading.field field), store) := rfl

theorem code_of_field {request : Request} (reads : readsField request = true) (world : World)
    (caller : Caller) (field : FieldMember) :
    code world caller request (.member (.field field)) =
      tree world caller (.member (.field field)) := by
  unfold readsField at reads
  split at reads
  · rfl
  · rfl
  · rfl
  · cases reads

theorem field_thunk_fetches {request : Request} (reads : readsField request = true)
    {world : World} {caller : Caller} {registry : Registry} {options : Options}
    {label : Option String} {field : FieldMember} {store : Store} {thunk : Thunk}
    (made : built world caller registry options request label (.member (.field field)) store =
      .ok thunk) (later : World) (target : Value) :
    (thunk.call later [target]).plain =
      Reading.fetch later (later.call World.callLimit) field target := by
  obtain ⟨⟨after, ran⟩, _⟩ := code_of_built made
  rw [code_of_field reads, tree, run_map, field_lambda] at ran
  have shape : thunk.code = .tree (Reading.field field) :=
    (Except.ok.inj (congrArg Prod.fst ran)).symm
  rw [Thunk.call, shape]
  dsimp only
  rw [Reading.field_calls, LocatedRun.plain_on_line]

end Strategy

end MemberThunks
