import MemberThunks.Proofs.CommandArguments
import MemberThunks.Proofs.DescribingFaults
import MemberThunks.Proofs.WriteBuilds

set_option autoImplicit false

/- How the command ends. It prints the source of its target, complains in a message of its own, or
   lets a failure out: the command and the stages it goes through catch the failures of their own
   kinds, and none besides. What asking in the course of making raises is not of these kinds, nor is
   what a thunk raises that cannot be loaded, which only a run with a log builds. -/
namespace MemberThunks

namespace CompileFault

-- What is found by asking: an object that is asked raises, or declared types lead on without end.
def Asked (fault : CompileFault) : Prop :=
  (∃ raised, fault = .escaped raised) ∨ fault.failure = Raised.tooDeep.failure

end CompileFault

namespace Strategy

section Foreign

variable {world known : World} {caller : Caller} {member : Member} {fault : CompileFault}

theorem unsupported_foreign {refusal : UnsupportedType} {about : Option String}
    (foreign : (refusal.failure about).kind.isOwn = false) :
    refusal.failure about = Raised.tooDeep.failure := by
  cases refusal <;> first | rfl | cases foreign

theorem reading_foreign {found : BuildFault} (tried : Reading.member known member = .error found)
    (foreign : found.failure.kind.isOwn = false) : found.failure = Raised.tooDeep.failure := by
  cases member with
  | method details =>
      rw [Reading.member, Reading.method] at tried
      rcases error_of_bind tried with failed | ⟨_, _, done⟩
      · obtain ⟨parameter, _, refused⟩ := error_of_each failed
        split at refused
        · cases refused
        · cases refused
          exact unsupported_foreign foreign
      · cases done
  | property details =>
      rw [Reading.member, Reading.property] at tried
      split at tried <;> cases tried
      cases foreign
  | field details => cases tried
  | bare declaring name =>
      cases tried
      cases foreign

theorem writing_foreign {found : BuildFault} (tried : Writing.member known member = .error found)
    (foreign : found.failure.kind.isOwn = false) : found.failure = Raised.tooDeep.failure := by
  cases declared : Writing.declaredType? member with
  | none =>
      cases member with
      | field details => cases declared
      | property details => cases declared
      | method details =>
          cases tried
          cases foreign
      | bare declaring name =>
          cases tried
          cases foreign
  | some type =>
      cases writable : Writing.isWritable member with
      | false =>
          rw [Writing.member_without_setter writable declared] at tried
          cases tried
          cases foreign
      | true =>
          obtain ⟨_, _, composed⟩ := Writing.member_by_conversion writable declared
          rw [composed] at tried
          split at tried
          · cases tried
          · cases tried
            exact unsupported_foreign foreign

theorem lowering_foreign {other : World} {program : Program} {found : LowerFault}
    (composed : Writing.member other member = .ok program)
    (tried : program.lower known = .error found) (foreign : found.failure.kind.isOwn = false) :
    found.failure = Raised.tooDeep.failure := by
  have writable := Writing.writable_of_program composed
  obtain ⟨type, declared⟩ : ∃ type, Writing.declaredType? member = some type := by
    cases member <;> first | exact ⟨_, rfl⟩ | cases writable
  obtain ⟨instruction, stores, same⟩ := Writing.member_by_conversion writable declared
  rw [same] at composed
  split at composed
  · cases composed
    cases converts : known.conversionFor type false with
    | ok conversion =>
        obtain ⟨lowered, done⟩ :=
          Writing.program_lowered member.declaring member.name stores converts
        cases tried.symm.trans done
    | error refusal =>
        have refused :=
          Writing.program_refused member.declaring member.name instruction converts
        cases tried.symm.trans refused
        exact unsupported_foreign foreign
  · cases composed

-- What making raises that is not of the library's own kinds.
theorem settling_foreign {ε α : Type} {question? : ε → Option Question} {blame : ε → CompileFault}
    {attempt : World → Except ε α}
    (deep : ∀ known found, attempt known = .error found →
      (blame found).failure.kind.isOwn = false → (blame found).failure = Raised.tooDeep.failure)
    (raises : Raises (Making.settling world caller question? blame attempt) fault)
    (foreign : fault.failure.kind.isOwn = false) : fault.Asked := by
  obtain ⟨before, after, ran⟩ := raises
  have settled := Making.settling_settled world caller question? blame attempt before
  rw [ran] at settled
  cases settled with
  | escaped raised => exact .inl ⟨raised, rfl⟩
  | refused known found informed tried decided => exact .inr (deep known found tried foreign)

theorem tree_foreign (raises : Raises (tree world caller (.member member)) fault)
    (foreign : fault.failure.kind.isOwn = false) : fault.Asked :=
  settling_foreign (fun _ _ => reading_foreign) (raises_map raises) foreign

theorem settable_foreign (raises : Raises (settable world caller (.member member)) fault)
    (foreign : fault.failure.kind.isOwn = false) : fault.Asked := by
  unfold settable at raises
  split at raises
  · rcases raises_bind raises with uncomposed | ⟨program, ⟨before, after, composed⟩, unlowered⟩
    · exact settling_foreign (fun _ _ => writing_foreign) uncomposed foreign
    · obtain ⟨other, _, made⟩ := Making.made_of_settling composed
      exact settling_foreign (fun _ _ => lowering_foreign made) (raises_map unlowered) foreign
  · rw [raises_throw raises] at foreign
    cases foreign

theorem source_foreign {writes : Bool}
    (raises : Raises (source world caller writes (.member member)) fault)
    (foreign : fault.failure.kind.isOwn = false) : fault.Asked := by
  have made := raises_map raises
  cases writes with
  | true => exact settable_foreign made foreign
  | false => exact tree_foreign made foreign

-- The code of a thunk for whatever a member is, to read or to write.
theorem code_foreign {writes : Bool}
    (raises : Raises (code world caller (if writes then .write else .read) (.member member)) fault)
    (foreign : fault.failure.kind.isOwn = false) : fault.Asked := by
  cases writes with
  | true => exact settable_foreign raises foreign
  | false =>
      cases member with
      | bare declaring name =>
          rw [raises_throw raises] at foreign
          cases foreign
      | method details => exact tree_foreign raises foreign
      | property details => exact tree_foreign raises foreign
      | field details => exact tree_foreign raises foreign

theorem built_foreign {writes : Bool} {registry : Registry} {options : Options} {store : Store}
    (failed : built world caller registry options (if writes then .write else .read) none
      (.member member) store = .error fault) (foreign : fault.failure.kind.isOwn = false) :
    fault.Asked ∨ ∃ found, fault = .load found := by
  cases ran : (code world caller (if writes then .write else .read) (.member member)).run.run
      store with
  | mk outcome after =>
      rw [built_of_code ran] at failed
      cases outcome with
      | error found =>
          cases failed
          exact .inl (code_foreign ⟨store, after, ran⟩ foreign)
      | ok made =>
          change (made.load _).mapError CompileFault.load = _ at failed
          cases loaded : made.load (options.fileName made.name registry.serial) with
          | ok thunk => rw [loaded] at failed; cases failed
          | error found =>
              rw [loaded] at failed
              cases failed
              exact .inr ⟨found, rfl⟩

end Foreign

end Strategy

namespace CommandLine

section Stages

abbrev calling (world : World) : Caller := world.call World.callLimit

variable (world : World) (registry : Registry) (options : Options) (arguments : Arguments)
  (store : Store)

-- The target resolves to a class, what the class has under the name is described, and the source
-- that is asked for is generated.
inductive Sourced : Member → String → Store → Prop where
  | generated {owner : ClassRef} {name source : String} {member : Member}
      {resolved described after : Store}
      (resolves : (resolve world (calling world) arguments.target).run.run store =
        (.ok (owner, name), resolved))
      (describes : (Describe.member world (calling world) owner name).run.run resolved =
        (.ok member, described))
      (generates : (Strategy.source world (calling world) arguments.writes
        (.member member)).run.run described = (.ok source, after)) : Sourced member source after

-- The thunk that a verbose run builds besides.
def compiled (member : Member) (after : Store) : Except CompileFault Thunk :=
  Strategy.built world (calling world) registry options
    (if arguments.writes then .write else .read) none (.member member) after

-- What a run for a target ends with.
def ended : Except Failure Outcome :=
  ((runWith world registry options arguments).run store).1.1

-- What it ends with once there is a source.
def concluded (member : Member) (source : String) (after : Store) : Except Failure Outcome :=
  if arguments.verbose then
    match compiled world registry options arguments member after with
    | .error fault => failed fault.failure
    | .ok thunk => .ok ⟨0, source ++ "\n", logText (LogRecord.ofBuild world thunk.code member)⟩
  else .ok ⟨0, source ++ "\n", ""⟩

-- What it ends with where there is none.
inductive Stopped : Except Failure Outcome → Prop where
  | unresolved {fault : ResolveFault} {after : Store}
      (resolves : (resolve world (calling world) arguments.target).run.run store =
        (.error fault, after)) : Stopped (unresolved arguments.target fault)
  | undescribed {owner : ClassRef} {name : String} {fault : DescribeFault}
      {resolved after : Store}
      (resolves : (resolve world (calling world) arguments.target).run.run store =
        (.ok (owner, name), resolved))
      (describes : (Describe.member world (calling world) owner name).run.run resolved =
        (.error fault, after)) : Stopped (failed fault.failure)
  | ungenerated {owner : ClassRef} {name : String} {member : Member} {fault : CompileFault}
      {resolved described after : Store}
      (resolves : (resolve world (calling world) arguments.target).run.run store =
        (.ok (owner, name), resolved))
      (describes : (Describe.member world (calling world) owner name).run.run resolved =
        (.ok member, described))
      (generates : (Strategy.source world (calling world) arguments.writes
        (.member member)).run.run described = (.error fault, after)) :
      Stopped (failed fault.failure)

-- What comes out of a run for a target in the place of an exit: a module that is named by where it
-- stands in no package, what an attribute on the way raises that is neither of values nor of
-- attributes nor of imports, what escapes describing, what is raised in asking for the code, and,
-- for a thunk that is built for its log, what is raised in asking again or in loading it. What is
-- of the library's own kinds does not come out once there is a class.
inductive Escapes : Failure → Prop where
  | relative {name : String} {after : Store}
      (resolves : (resolve world (calling world) arguments.target).run.run store =
        (.error (.relative name), after)) : Escapes (ResolveFault.relative name).failure
  | reading {raised : Raised} {after : Store}
      (resolves : (resolve world (calling world) arguments.target).run.run store =
        (.error (.unreadable raised), after))
      (valued : raised.failure.kind.isValueFailure = false)
      (imported : raised.failure.kind.isImportFailure = false)
      (attributed : raised.failure.kind ≠ .attributeFault) : Escapes raised.failure
  | describing {owner : ClassRef} {name : String} {fault : DescribeFault} {resolved after : Store}
      (resolves : (resolve world (calling world) arguments.target).run.run store =
        (.ok (owner, name), resolved))
      (describes : (Describe.member world (calling world) owner name).run.run resolved =
        (.error fault, after))
      (foreign : fault.failure.kind.isOwn = false)
      (source : Describe.Escapes world (calling world) owner name
        (Describe.kindOf world (world.lookup owner name)) fault) : Escapes fault.failure
  | generating {owner : ClassRef} {name : String} {member : Member} {fault : CompileFault}
      {resolved described after : Store}
      (resolves : (resolve world (calling world) arguments.target).run.run store =
        (.ok (owner, name), resolved))
      (describes : (Describe.member world (calling world) owner name).run.run resolved =
        (.ok member, described))
      (generates : (Strategy.source world (calling world) arguments.writes
        (.member member)).run.run described = (.error fault, after))
      (foreign : fault.failure.kind.isOwn = false) (asked : fault.Asked) : Escapes fault.failure
  | compiling {member : Member} {source : String} {after : Store} {fault : CompileFault}
      (sourced : Sourced world arguments store member source after)
      (verbose : arguments.verbose = true)
      (fails : compiled world registry options arguments member after = .error fault)
      (foreign : fault.failure.kind.isOwn = false)
      (cause : fault.Asked ∨ ∃ found, fault = .load found) : Escapes fault.failure

end Stages

section Ends

variable {world : World} {registry : Registry} {options : Options} {arguments : Arguments}
  {store : Store}

theorem printed_of_source {member : Member} {source : String} {described after : Store}
    (generates : (Strategy.source world (calling world) arguments.writes
      (.member member)).run.run described = (.ok source, after)) :
    ((printSource world (calling world) registry options arguments member).run described).1.1 =
      concluded world registry options arguments member source after := by
  rw [ExceptT.run, StateT.run] at generates
  unfold printSource concluded compiled Strategy.built
  simp only [bind, StateT.run, StateT.bind, generates]
  cases arguments.verbose with
  | false => rfl
  | true =>
      simp only [if_true, StateT.bind, bind]
      rcases Strategy.build world (calling world) registry options
        (if arguments.writes = true then Request.write else Request.read) none
        (Candidate.member member) after with ⟨⟨outcome, next⟩, last⟩
      cases outcome <;> rfl

theorem ended_of_sourced {member : Member} {source : String} {after : Store}
    (sourced : Sourced world arguments store member source after) :
    ended world registry options arguments store =
      concluded world registry options arguments member source after := by
  cases sourced with
  | generated resolves describes generates =>
      rw [← printed_of_source generates]
      rw [ExceptT.run, StateT.run] at resolves describes
      unfold ended runWith
      simp only [bind, StateT.run, StateT.bind, resolves, describes]

theorem ended_of_stopped {outcome : Except Failure Outcome}
    (stopped : Stopped world arguments store outcome) :
    ended world registry options arguments store = outcome := by
  cases stopped with
  | unresolved resolves =>
      rw [ExceptT.run, StateT.run] at resolves
      unfold ended runWith
      simp only [bind, StateT.run, StateT.bind, resolves]
      rfl
  | undescribed resolves describes =>
      rw [ExceptT.run, StateT.run] at resolves describes
      unfold ended runWith
      simp only [bind, StateT.run, StateT.bind, resolves, describes]
      rfl
  | ungenerated resolves describes generates =>
      rw [ExceptT.run, StateT.run] at resolves describes generates
      unfold ended runWith printSource
      simp only [bind, StateT.run, StateT.bind, resolves, describes, generates]
      rfl

theorem sourced_or_stopped (world : World) (arguments : Arguments) (store : Store) :
    (∃ member source after, Sourced world arguments store member source after) ∨
      ∃ outcome, Stopped world arguments store outcome := by
  cases resolves : (resolve world (calling world) arguments.target).run.run store with
  | mk outcome resolved =>
      cases outcome with
      | error fault => exact .inr ⟨_, .unresolved resolves⟩
      | ok found =>
          cases describes : (Describe.member world (calling world) found.1 found.2).run.run
              resolved with
          | mk outcome described =>
              cases outcome with
              | error fault => exact .inr ⟨_, .undescribed resolves describes⟩
              | ok member =>
                  cases generates : (Strategy.source world (calling world) arguments.writes
                      (.member member)).run.run described with
                  | mk outcome after =>
                      cases outcome with
                      | error fault => exact .inr ⟨_, .ungenerated resolves describes generates⟩
                      | ok source => exact .inl ⟨_, _, _, .generated resolves describes generates⟩

-- An exit with a message and nothing printed.
inductive Complained : Except Failure Outcome → Prop where
  | complained {exit : Nat} (code : exit = 1 ∨ exit = 2) (message : String) :
      Complained (.ok ⟨exit, "", "latebound: " ++ message ++ "\n"⟩)

theorem failed_ends (failure : Failure) :
    Complained (failed failure) ∨
      (failure.kind.isOwn = false ∧ failed failure = .error failure) := by
  rw [failed]
  cases own : failure.kind.isOwn with
  | true => exact .inl (.complained (.inl rfl) _)
  | false => exact .inr ⟨rfl, rfl⟩

theorem unresolved_ends {fault : ResolveFault} {after : Store}
    (resolves : (resolve world (calling world) arguments.target).run.run store =
      (.error fault, after)) :
    Complained (unresolved arguments.target fault) ∨
      ∃ failure, unresolved arguments.target fault = .error failure ∧
        Escapes world registry options arguments store failure := by
  cases fault with
  | malformedTarget text => exact .inl (.complained (.inr rfl) _)
  | notClass moduleName owner => exact .inl (.complained (.inr rfl) _)
  | noModule name => exact .inl (.complained (.inl rfl) _)
  | notPackage name parent => exact .inl (.complained (.inl rfl) _)
  | noModuleAttribute name => exact .inl (.complained (.inl rfl) _)
  | relative name => exact .inr ⟨_, rfl, .relative resolves⟩
  | unreadable raised =>
      simp only [unresolved, ResolveFault.blame]
      cases valued : raised.failure.kind.isValueFailure with
      | true => exact .inl (.complained (.inr rfl) _)
      | false =>
          by_cases found : raised.failure.kind.isImportFailure ||
              raised.failure.kind = .attributeFault
          · simp only [Bool.false_eq_true, if_false, found, if_true]
            exact .inl (.complained (.inl rfl) _)
          · simp only [Bool.false_eq_true, if_false, found]
            simp only [Bool.or_eq_true, decide_eq_true_eq, not_or, Bool.not_eq_true] at found
            exact .inr ⟨_, rfl, .reading resolves valued found.1 found.2⟩

-- What blames a member is of the library's own kinds.
theorem own_of_blames {fault : DescribeFault} (blames : fault.Blames) :
    fault.failure.kind.isOwn = true := by
  unfold DescribeFault.Blames FailureKind.blamesMember at blames
  cases kind : fault.failure.kind <;> rw [kind] at blames <;> first | rfl | cases blames

theorem stopped_ends {outcome : Except Failure Outcome}
    (stopped : Stopped world arguments store outcome) :
    Complained outcome ∨ ∃ failure, outcome = .error failure ∧
      Escapes world registry options arguments store failure := by
  cases stopped with
  | unresolved resolves => exact unresolved_ends resolves
  | undescribed resolves describes =>
      rename_i owner name fault resolved after
      refine (failed_ends fault.failure).imp_right fun ⟨foreign, same⟩ => ⟨_, same, ?_⟩
      rcases Describe.member_raises ⟨resolved, after, describes⟩ with blames | escapes
      · cases foreign.symm.trans (own_of_blames blames)
      · exact .describing resolves describes foreign escapes
  | ungenerated resolves describes generates =>
      rename_i owner name member fault resolved described after
      refine (failed_ends fault.failure).imp_right fun ⟨foreign, same⟩ => ⟨_, same, ?_⟩
      exact .generating resolves describes generates foreign
        (Strategy.source_foreign ⟨described, after, generates⟩ foreign)

-- What a run ends with once there is a source: the source is printed, or the thunk that is built
-- for its log is not built.
theorem concluded_ends (world : World) (registry : Registry) (options : Options)
    (arguments : Arguments) (member : Member) (source : String) (after : Store) :
    (∃ errors, concluded world registry options arguments member source after =
        .ok ⟨0, source ++ "\n", errors⟩ ∧
      (arguments.verbose = true →
        ∃ thunk, compiled world registry options arguments member after = .ok thunk)) ∨
    ∃ fault, arguments.verbose = true ∧
      compiled world registry options arguments member after = .error fault ∧
      concluded world registry options arguments member source after = failed fault.failure := by
  rw [concluded]
  cases verbose : arguments.verbose with
  | false => exact .inl ⟨"", rfl, fun loud => by cases loud⟩
  | true =>
      cases built : compiled world registry options arguments member after with
      | ok thunk => exact .inl ⟨_, rfl, fun _ => ⟨thunk, rfl⟩⟩
      | error fault => exact .inr ⟨fault, rfl, rfl, rfl⟩

theorem failed_foreign {failure : Failure} (foreign : failure.kind.isOwn = false) :
    failed failure = .error failure := by
  rw [failed, foreign]
  rfl

theorem ended_of_escapes {failure : Failure}
    (escapes : Escapes world registry options arguments store failure) :
    ended world registry options arguments store = .error failure := by
  cases escapes with
  | relative resolves => exact ended_of_stopped (.unresolved resolves)
  | reading resolves valued imported attributed =>
      rw [ended_of_stopped (.unresolved resolves)]
      simp [unresolved, ResolveFault.blame, ResolveFault.failure, valued, imported, attributed]
  | describing resolves describes foreign source =>
      rw [ended_of_stopped (.undescribed resolves describes), failed_foreign foreign]
  | generating resolves describes generates foreign asked =>
      rw [ended_of_stopped (.ungenerated resolves describes generates), failed_foreign foreign]
  | compiling sourced verbose fails foreign cause =>
      rw [ended_of_sourced sourced, concluded, if_pos verbose, fails]
      exact failed_foreign foreign

-- A run for a target prints a source, complains, or lets a failure out.
theorem ended_cases (world : World) (registry : Registry) (options : Options)
    (arguments : Arguments) (store : Store) :
    (∃ member source after errors, Sourced world arguments store member source after ∧
      (arguments.verbose = true →
        ∃ thunk, compiled world registry options arguments member after = .ok thunk) ∧
      ended world registry options arguments store = .ok ⟨0, source ++ "\n", errors⟩) ∨
    Complained (ended world registry options arguments store) ∨
    ∃ failure, ended world registry options arguments store = .error failure ∧
      Escapes world registry options arguments store failure := by
  rcases sourced_or_stopped world arguments store with
    ⟨member, source, after, sourced⟩ | ⟨outcome, stopped⟩
  · rw [ended_of_sourced sourced]
    rcases concluded_ends world registry options arguments member source after with
      ⟨errors, printed, builds⟩ | ⟨fault, verbose, fails, same⟩
    · exact .inl ⟨member, source, after, errors, sourced, builds, printed⟩
    · rw [same]
      refine .inr ((failed_ends fault.failure).imp_right fun ⟨foreign, same⟩ => ⟨_, same, ?_⟩)
      exact .compiling sourced verbose fails foreign (Strategy.built_foreign fails foreign)
  · rw [ended_of_stopped stopped]
    exact .inr (stopped_ends stopped)

theorem printed_iff {text : String} :
    (∃ errors, ended world registry options arguments store = .ok ⟨0, text, errors⟩) ↔
      ∃ member source after, Sourced world arguments store member source after ∧
        text = source ++ "\n" ∧ (arguments.verbose = true →
          ∃ thunk, compiled world registry options arguments member after = .ok thunk) := by
  constructor
  · rintro ⟨errors, printed⟩
    rcases ended_cases world registry options arguments store with
      ⟨member, source, after, others, sourced, builds, same⟩ | complained | ⟨failure, same, _⟩
    · cases printed.symm.trans same
      exact ⟨member, source, after, sourced, rfl, builds⟩
    · rw [printed] at complained
      cases complained with
      | complained code => omega
    · cases printed.symm.trans same
  · rintro ⟨member, source, after, sourced, rfl, builds⟩
    rw [ended_of_sourced sourced]
    rcases concluded_ends world registry options arguments member source after with
      ⟨errors, printed, _⟩ | ⟨fault, verbose, fails, _⟩
    · exact ⟨errors, printed⟩
    · obtain ⟨thunk, built⟩ := builds verbose
      cases fails.symm.trans built

theorem escapes_iff {failure : Failure} :
    ended world registry options arguments store = .error failure ↔
      Escapes world registry options arguments store failure := by
  refine ⟨fun failed => ?_, ended_of_escapes⟩
  rcases ended_cases world registry options arguments store with
    ⟨_, _, _, _, _, _, same⟩ | complained | ⟨other, same, escapes⟩
  · cases failed.symm.trans same
  · rw [failed] at complained
    cases complained
  · cases failed.symm.trans same
    exact escapes

-- What is seen of an end beside its log: the exit code and what is printed.
def seen (ending : Except Failure Outcome) : Except Failure (Nat × String) :=
  ending.map fun outcome => (outcome.exit, outcome.output)

theorem sourced_aloud {member : Member} {source : String} {after : Store}
    (sourced : Sourced world arguments store member source after) :
    Sourced world arguments.aloud store member source after := by
  cases sourced with
  | generated resolves describes generates => exact .generated resolves describes generates

theorem stopped_aloud {outcome : Except Failure Outcome}
    (stopped : Stopped world arguments store outcome) :
    Stopped world arguments.aloud store outcome := by
  cases stopped with
  | unresolved resolves => exact .unresolved resolves
  | undescribed resolves describes => exact .undescribed resolves describes
  | ungenerated resolves describes generates => exact .ungenerated resolves describes generates

-- A run that logs is seen to end as the one that does not, unless only the thunk of its log fails.
theorem aloud_cases (world : World) (registry : Registry) (options : Options)
    (arguments : Arguments) (store : Store) :
    seen (ended world registry options arguments.aloud store) =
      seen (ended world registry options arguments store) ∨
    ∃ member source after fault, arguments.verbose = false ∧
      Sourced world arguments store member source after ∧
      compiled world registry options arguments member after = .error fault ∧
      ended world registry options arguments store = .ok ⟨0, source ++ "\n", ""⟩ ∧
      ended world registry options arguments.aloud store = failed fault.failure := by
  rcases sourced_or_stopped world arguments store with
    ⟨member, source, after, sourced⟩ | ⟨outcome, stopped⟩
  · rw [ended_of_sourced sourced, ended_of_sourced (sourced_aloud sourced), concluded, concluded,
      show arguments.aloud.verbose = true from rfl, if_pos rfl,
      show compiled world registry options arguments.aloud member after =
        compiled world registry options arguments member after from rfl]
    cases verbose : arguments.verbose with
    | true => exact .inl rfl
    | false =>
        cases built : compiled world registry options arguments member after with
        | ok thunk => exact .inl rfl
        | error fault => exact .inr ⟨member, source, after, fault, rfl, sourced, built, rfl, rfl⟩
  · rw [ended_of_stopped stopped, ended_of_stopped (stopped_aloud stopped)]
    exact .inl rfl

end Ends

-- What the command ends with.
def finish (world : World) (registry : Registry) (environment : Entries String String)
    (store : Store) (arguments : List String) : Except Failure Outcome :=
  ((run world registry environment arguments).run store).1.1

section Command

variable {world : World} {registry : Registry} {environment : Entries String String}
  {store : Store} {arguments : List String}

theorem finish_of_asks {parsed : Arguments} (asks : Asks arguments parsed) :
    finish world registry environment store arguments =
      ended world registry (Options.ofEnvironment environment) parsed store := by
  rw [finish, run, parse_iff.mpr asks]
  rfl

theorem finish_of_help (helps : parse arguments = .help) :
    finish world registry environment store arguments = .ok ⟨0, usage, ""⟩ := by
  rw [finish, run, helps]
  rfl

theorem finish_of_fault {fault : ArgumentFault} (faulty : parse arguments = .fault fault) :
    finish world registry environment store arguments = .ok (complain 2 fault.message) := by
  rw [finish, run, faulty]
  rfl

theorem finish_ends : (∃ text errors, finish world registry environment store arguments =
      .ok ⟨0, text, errors⟩) ∨
    Complained (finish world registry environment store arguments) ∨
    ∃ failure, finish world registry environment store arguments = .error failure := by
  cases parses : parse arguments with
  | help => exact .inl ⟨_, _, finish_of_help parses⟩
  | fault fault =>
      rw [finish_of_fault parses]
      exact .inr (.inl (.complained (.inr rfl) _))
  | arguments parsed =>
      rw [finish_of_asks (parse_iff.mp parses)]
      rcases ended_cases world registry (Options.ofEnvironment environment) parsed store with
        ⟨_, _, _, _, _, _, printed⟩ | complained | ⟨failure, same, _⟩
      · exact .inl ⟨_, _, printed⟩
      · exact .inr (.inl complained)
      · exact .inr (.inr ⟨failure, same⟩)

end Command

-- A class with a field whose name cannot stand in code, and a method that is said to give what its
-- class does not have.
def crates : World :=
  World.empty.declare (.ofMembers "Crate" [.field "x²" (.cls (.builtin .int)) none,
    .method "a" .toTarget (.routine ⟨some (Formal.named "self"), [], some (.text "Crate.Missing"),
      [.give (.constant .none)]⟩)])

def outcome? (arguments : List String) : Option Outcome :=
  (finish crates .empty [] .empty arguments).toOption

def escaping? (arguments : List String) : Option FailureKind :=
  match finish crates .empty [] .empty arguments with
  | .ok _ => none
  | .error failure => some failure.kind

end CommandLine

end MemberThunks
