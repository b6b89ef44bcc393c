import Std.Data.String.ToNat
import MemberThunks.Proofs.Settling

set_option autoImplicit false

/- Sources of live thunks. A client builds thunks, calls them, and holds them under labels
   until it lets them go. Whatever it does, the sources that the registry can display are those
   of the thunks that it holds and that were to be displayed, and no file name is used twice:
   each ends in the serial number of its load, which can be read back from it. -/
namespace MemberThunks

namespace Options

-- A serial number has no separator, so the last one of a file name stands before it.
theorem serial_of_file_name {left right : Options} {first second : String} {earlier later : Nat}
    (same : left.fileName first earlier = right.fileName second later) : earlier = later := by
  have clean (serial : Nat) : '#' ∉ (toString serial).toList ++ ['>'] := by
    intro listed
    have digit : '#' ∈ Nat.toDigits 10 serial := by simpa using listed
    exact absurd (Nat.isDigit_of_mem_toDigits (by decide) (by decide) digit) (by decide)
  have shown (serial : Nat) : toString (serial : Int) = toString serial := rfl
  have chars : ('<' :: left.namePrefix.toList ++ ' ' :: first.toList) ++
      '#' :: ((toString earlier).toList ++ ['>']) =
        ('<' :: right.namePrefix.toList ++ ' ' :: second.toList) ++
          '#' :: ((toString later).toList ++ ['>']) := by
    simpa [fileName, shown] using congrArg String.toList same
  have digits := Parts.last_part_unique '#' (clean earlier) (clean later) chars
  exact Nat.repr_injective (String.toList_inj.mp (List.append_cancel_right digits))

end Options

namespace Registry

theorem join_lines_of (source : String) : String.join (linesOf source) = source ++ "\n" :=
  Parts.join_split '\n' source

-- The source that a thunk adds to those that can be displayed, if it is to be.
def shownBy (options : Options) (thunk : Thunk) (sources : Entries String String) :
    Entries String String :=
  if options.registersSource then sources.put thunk.fileName thunk.code.source else sources

theorem lookup_shown (options : Options) (thunk : Thunk) (sources : Entries String String)
    (fileName : String) : (shownBy options thunk sources).lookup fileName =
      if options.registersSource = true ∧ fileName = thunk.fileName then some thunk.code.source
      else sources.lookup fileName := by
  cases shows : options.registersSource <;> simp [shownBy, shows, Entries.lookup_put]

-- A thunk in a client's hands, with the options it was built with.
structure Held where
  options : Options
  thunk : Thunk

-- What has to hold between a registry, the thunks that a client holds by their labels, and all
-- that were ever made.
structure Tracks (registry : Registry) (held : String → Option Held) (made : List Thunk) :
    Prop where
  numbered : ∀ thunk ∈ made, ∃ options : Options, ∃ name, ∃ serial < registry.serial,
    thunk.fileName = options.fileName name serial
  distinct : (made.map (·.fileName)).Nodup
  live : ∀ label, registry.live.lookup label = (held label).map (·.thunk)
  known : ∀ label kept, held label = some kept → kept.thunk ∈ made
  alone : ∀ left right one other, held left = some one → held right = some other →
    one.thunk.fileName = other.thunk.fileName → left = right
  shown : ∀ fileName source, registry.sources.lookup fileName = some source ↔
    ∃ label kept, held label = some kept ∧ kept.options.registersSource = true ∧
      kept.thunk.fileName = fileName ∧ kept.thunk.code.source = source

namespace Tracks

variable {registry : Registry} {held : String → Option Held} {made : List Thunk}

theorem empty : Tracks .empty (fun _ => none) [] where
  numbered := by simp
  distinct := by simp
  live := fun _ => rfl
  known := by simp
  alone := by simp
  shown := by simp [Registry.empty]

-- A load takes a serial number, whatever becomes of it.
theorem counted (tracks : Tracks registry held made) :
    Tracks { registry with serial := registry.serial + 1 } held made :=
  { tracks with
    numbered := by
      intro thunk listed
      obtain ⟨options, name, serial, before, same⟩ := tracks.numbered thunk listed
      exact ⟨options, name, serial, Nat.lt_succ_of_lt before, same⟩ }

theorem fresh (tracks : Tracks registry held made) {thunk : Thunk} {options : Options}
    {name : String} (named : thunk.fileName = options.fileName name registry.serial) :
    thunk.fileName ∉ made.map (·.fileName) := by
  intro listed
  obtain ⟨other, earlier, same⟩ := List.mem_map.mp listed
  obtain ⟨_, _, serial, before, also⟩ := tracks.numbered other earlier
  have equal : registry.serial = serial :=
    Options.serial_of_file_name (named.symm.trans (same.symm.trans also))
  omega

theorem loaded (tracks : Tracks registry held made) {thunk : Thunk} {options : Options}
    {name : String} (named : thunk.fileName = options.fileName name registry.serial) :
    Tracks { registry with serial := registry.serial + 1 } held (made ++ [thunk]) :=
  { tracks.counted with
    numbered := by
      intro found listed
      rcases List.mem_append.mp listed with earlier | latest
      · exact tracks.counted.numbered found earlier
      · obtain rfl := List.mem_singleton.mp latest
        exact ⟨options, name, registry.serial, Nat.lt_succ_self _, named⟩
    distinct := by
      rw [List.map_append, List.nodup_append]
      refine ⟨tracks.distinct, by simp, ?_⟩
      intro earlier listed latest last same
      obtain rfl : latest = thunk.fileName := by simpa using last
      exact tracks.fresh named (same ▸ listed)
    known := fun label kept holds => List.mem_append_left _ (tracks.known label kept holds) }

-- Dropping a label lets one thunk go, and its source alone.
theorem dropped (tracks : Tracks registry held made) (label : String) :
    Tracks (registry.drop label) (fun query => if query = label then none else held query)
      made := by
  have left {query : String} {kept : Held}
      (holds : (if query = label then none else held query) = some kept) :
      query ≠ label ∧ held query = some kept := by
    split at holds
    · cases holds
    · exact ⟨‹_›, holds⟩
  have live := tracks.live label
  unfold drop
  cases found : registry.live.lookup label with
  | none =>
      have free : held label = none := by
        rw [found] at live
        exact Option.map_eq_none_iff.mp live.symm
      have same : (fun query => if query = label then none else held query) = held := by
        funext query
        split
        · simp [*]
        · rfl
      rw [same]
      exact tracks
  | some thunk =>
      obtain ⟨gone, holds, rfl⟩ : ∃ gone, held label = some gone ∧ gone.thunk = thunk := by
        rw [found] at live
        exact Option.map_eq_some_iff.mp live.symm
      refine ⟨tracks.numbered, tracks.distinct, ?_, ?_, ?_, ?_⟩
      · intro query
        change (registry.live.remove label).lookup query = _
        rw [Entries.lookup_remove]
        by_cases same : query = label
        · simp [same]
        · simp [same, tracks.live query]
      · intro query kept stays
        exact tracks.known query kept (left stays).2
      · intro first second one other stays also
        exact tracks.alone first second one other (left stays).2 (left also).2
      · intro fileName source
        change (registry.sources.remove gone.thunk.fileName).lookup fileName = some source ↔ _
        rw [Entries.lookup_remove]
        by_cases same : fileName = gone.thunk.fileName
        · subst same
          simp only [beq_self_eq_true, if_true, reduceCtorEq, false_iff]
          rintro ⟨query, kept, stays, _, also, _⟩
          exact (left stays).1 (tracks.alone query label kept gone (left stays).2 holds also)
        · simp only [beq_iff_eq, same, if_false, tracks.shown]
          constructor
          · rintro ⟨query, kept, stays, shows⟩
            refine ⟨query, kept, ?_, shows⟩
            rw [if_neg, stays]
            rintro rfl
            rw [holds] at stays
            cases stays
            exact same shows.2.1.symm
          · rintro ⟨query, kept, stays, shows⟩
            exact ⟨query, kept, (left stays).2, shows⟩

-- A label that is free takes a thunk that nothing else holds.
theorem taken (tracks : Tracks registry held made) {label : String} (kept : Held)
    (free : held label = none) (listed : kept.thunk ∈ made)
    (apart : ∀ query other, held query = some other →
      other.thunk.fileName ≠ kept.thunk.fileName) :
    Tracks
      { registry with
        live := registry.live.put label kept.thunk
        sources := shownBy kept.options kept.thunk registry.sources }
      (fun query => if query = label then some kept else held query) made := by
  have holder {query : String} {other : Held}
      (holds : (if query = label then some kept else held query) = some other) :
      query = label ∧ other = kept ∨ query ≠ label ∧ held query = some other := by
    split at holds
    · exact .inl ⟨‹_›, (Option.some.inj holds).symm⟩
    · exact .inr ⟨‹_›, holds⟩
  have unheld {query : String} {other : Held} (holds : held query = some other) :
      query ≠ label := by
    rintro rfl
    rw [free] at holds
    cases holds
  refine ⟨tracks.numbered, tracks.distinct, ?_, ?_, ?_, ?_⟩
  · intro query
    change (registry.live.put label kept.thunk).lookup query = _
    by_cases same : query = label
    · subst same
      simp [Entries.lookup_put_self]
    · rw [Entries.lookup_put_of_ne same, if_neg same, tracks.live]
  · intro query other holds
    rcases holder holds with ⟨_, rfl⟩ | ⟨_, holds⟩
    · exact listed
    · exact tracks.known query other holds
  · intro left right one other holdsOne holdsOther same
    rcases holder holdsOne with ⟨leftSame, oneSame⟩ | ⟨_, one'⟩ <;>
      rcases holder holdsOther with ⟨rightSame, otherSame⟩ | ⟨_, other'⟩
    · exact leftSame.trans rightSame.symm
    · exact absurd (oneSame ▸ same.symm) (apart right other other')
    · exact absurd (otherSame ▸ same) (apart left one one')
    · exact tracks.alone left right one other one' other' same
  · intro fileName source
    rw [lookup_shown]
    constructor
    · intro given
      split at given
      · rename_i latest
        exact ⟨label, kept, if_pos rfl, latest.1, latest.2.symm, Option.some.inj given⟩
      · obtain ⟨query, other, holds, shown⟩ := (tracks.shown fileName source).mp given
        exact ⟨query, other, by rw [if_neg (unheld holds), holds], shown⟩
    · rintro ⟨query, other, holds, shows, rfl, rfl⟩
      rcases holder holds with ⟨_, rfl⟩ | ⟨_, holds⟩
      · rw [if_pos ⟨shows, rfl⟩]
      · rw [if_neg (fun latest => apart query other holds latest.2), tracks.shown]
        exact ⟨query, other, holds, shows, rfl, rfl⟩

theorem kept (tracks : Tracks registry held made) (label : String) (options : Options)
    {thunk : Thunk} (listed : thunk ∈ made)
    (apart : ∀ query other, held query = some other → other.thunk.fileName ≠ thunk.fileName) :
    Tracks (registry.keep options label thunk)
      (fun query => if query = label then some ⟨options, thunk⟩ else held query) made := by
  let kept : Held := ⟨options, thunk⟩
  have same : (fun query => if query = label then some kept
      else if query = label then none else held query) =
        fun query => if query = label then some kept else held query := by
    funext query
    split <;> rfl
  change Tracks _ (fun query => if query = label then some kept else held query) made
  rw [← same]
  refine (tracks.dropped label).taken kept (if_pos rfl) listed fun query other holds => ?_
  split at holds
  · cases holds
  · exact apart query other holds

end Tracks

end Registry

-- The registry and the store that a client's acts go through, with what the client itself can
-- tell: the thunks it holds under labels and all that were ever made for it.
structure Session where
  registry : Registry
  store : Store
  held : Entries String Registry.Held
  made : List Thunk

-- Building a thunk, putting together a listing or a tree by hand, calling a thunk that is held,
-- and letting one go. Each act may find the classes of the world changed. What is built
-- without a label is let go at once, and so is what held the label before.
inductive Act where
  | build (world : World) (options : Options) (request : Request) (label : Option String)
    (candidate : Candidate)
  | assemble (world : World) (options : Options) (label : Option String) (program : Program)
  | compose (options : Options) (label : Option String) (lambda : Lambda)
  | call (world : World) (label : String) (arguments : List Value)
  | drop (label : String)

namespace Session

def opening (store : Store) : Session := ⟨.empty, store, [], []⟩

def receive (session : Session) (options : Options) (label : Option String) :
    Option Thunk × Registry → Session
  | (none, registry) => { session with registry := registry }
  | (some thunk, registry) =>
    { session with
      registry := registry
      held :=
        match label with
        | none => session.held
        | some label => session.held.put label ⟨options, thunk⟩
      made := session.made ++ [thunk] }

def install (session : Session) (options : Options) (label : Option String) (code : Code) :
    Session :=
  let (outcome, registry) := Strategy.install session.registry options label code
  session.receive options label (outcome.toOption, registry)

def drop (session : Session) (label : String) : Session :=
  { session with registry := session.registry.drop label, held := session.held.remove label }

def step (session : Session) : Act → Session
  | .build world options request label candidate =>
    let ((outcome, registry), store) :=
      (Strategy.build world (world.call World.callLimit) session.registry options request label
        candidate).run session.store
    { session.receive options label (outcome.toOption, registry) with store := store }
  | .assemble world options label program =>
    match (Strategy.lowered world (world.call World.callLimit) program).run.run session.store with
    | (.error _, store) => { session with store := store }
    | (.ok code, store) => { session.install options label code with store := store }
  | .compose options label lambda => session.install options label (.tree lambda)
  | .call world label arguments =>
    match session.held.lookup label with
    | none => session
    | some kept =>
      { session with store := ((kept.thunk.call world arguments).execute session.store).2 }
  | .drop label => session.drop label

def run (session : Session) (acts : List Act) : Session := acts.foldl step session

-- An act loads some code, lets a thunk go, or does nothing that the registry is told of.
inductive Stepped (session : Session) : Session → Prop where
  | ran (store : Store) : Stepped session { session with store := store }
  | loaded (options : Options) (label : Option String) (code : Code) (store : Store) :
      Stepped session { session.install options label code with store := store }
  | dropped (label : String) : Stepped session (session.drop label)

theorem built_stepped (session : Session) (world : World) (options : Options) (request : Request)
    (label : Option String) (candidate : Candidate) :
    Stepped session (session.step (.build world options request label candidate)) := by
  unfold step Strategy.build
  simp only [bind, StateT.run, StateT.bind]
  cases made : Strategy.code world (world.call World.callLimit) request candidate
      session.store with
  | mk outcome store =>
      cases outcome with
      | error fault => exact .ran store
      | ok code =>
          have loaded : Stepped session
              { session.install options label code with store := store } :=
            .loaded options label code store
          unfold install at loaded
          cases installed : Strategy.install session.registry options label code with
          | mk outcome registry =>
              rw [installed] at loaded
              simp only [installed]
              cases outcome <;> exact loaded

theorem stepped (session : Session) (act : Act) : Stepped session (session.step act) := by
  cases act with
  | build world options request label candidate =>
      exact built_stepped session world options request label candidate
  | assemble world options label program =>
      rw [step]
      split
      · exact .ran _
      · exact .loaded options label _ _
  | compose options label lambda =>
      exact Stepped.loaded options label (.tree lambda) (session.install options label _).store
  | call world label arguments =>
      rw [step]
      split
      · exact .ran session.store
      · exact .ran _
  | drop label => exact .dropped label

def Sound (session : Session) : Prop :=
  session.registry.Tracks (fun label => session.held.lookup label) session.made

theorem opening_sound (store : Store) : (opening store).Sound := .empty

theorem install_sound {session : Session} (sound : session.Sound) (options : Options)
    (label : Option String) (code : Code) : (session.install options label code).Sound := by
  unfold install Strategy.install Registry.load
  cases loaded : code.load (options.fileName code.name session.registry.serial) with
  | error fault => exact sound.counted
  | ok thunk =>
      obtain ⟨_, _, same⟩ := ok_of_bind loaded
      have named : thunk.fileName = options.fileName code.name session.registry.serial := by
        cases same
        rfl
      cases label with
      | none => exact sound.loaded named
      | some label =>
          have listed : thunk ∈ session.made ++ [thunk] := by simp
          have kept := (sound.loaded named).kept label options listed
            fun query other holds same =>
              sound.fresh named (same ▸ List.mem_map_of_mem (sound.known query other holds))
          have same : (fun query => (session.held.put label ⟨options, thunk⟩).lookup query) =
              fun query => if query = label then some ⟨options, thunk⟩
                else session.held.lookup query := by
            funext query
            simpa using Entries.lookup_put label query _ session.held
          change Registry.Tracks _ (fun query => (session.held.put label _).lookup query) _
          rw [same]
          exact kept

theorem drop_sound {session : Session} (sound : session.Sound) (label : String) :
    (session.drop label).Sound := by
  have same : (fun query => (session.held.remove label).lookup query) =
      fun query => if query = label then none else session.held.lookup query := by
    funext query
    simpa using Entries.lookup_remove label query session.held
  change Registry.Tracks _ (fun query => (session.held.remove label).lookup query) _
  rw [same]
  exact sound.dropped label

theorem step_sound {session : Session} (sound : session.Sound) (act : Act) :
    (session.step act).Sound := by
  have stepped := session.stepped act
  generalize session.step act = next at stepped ⊢
  cases stepped with
  | ran store => exact sound
  | loaded options label code store => exact install_sound sound options label code
  | dropped label => exact drop_sound sound label

theorem run_sound {session : Session} (sound : session.Sound) (acts : List Act) :
    (session.run acts).Sound := by
  induction acts generalizing session with
  | nil => exact sound
  | cons act rest ih => exact ih (step_sound sound act)

-- What a client can count on: the file names with a source are those of the thunks that it holds
-- and asked to have displayed, each shows the source of its thunk, and no name is used again.
structure Faithful (session : Session) : Prop where
  registered : ∀ fileName, session.registry.isRegistered fileName = true ↔
    ∃ label kept, session.held.lookup label = some kept ∧
      kept.options.registersSource = true ∧ kept.thunk.fileName = fileName
  displayed : ∀ label kept, session.held.lookup label = some kept →
    kept.options.registersSource = true →
      String.join (session.registry.lines kept.thunk.fileName) = kept.thunk.code.source ++ "\n"
  distinct : (session.made.map (·.fileName)).Nodup

theorem faithful_of_sound {session : Session} (sound : session.Sound) : session.Faithful where
  registered := by
    intro fileName
    rw [Registry.isRegistered, Option.isSome_iff_exists]
    constructor
    · rintro ⟨source, found⟩
      obtain ⟨label, kept, holds, shows, named, _⟩ := (sound.shown fileName source).mp found
      exact ⟨label, kept, holds, shows, named⟩
    · rintro ⟨label, kept, holds, shows, named⟩
      exact ⟨_, (sound.shown fileName _).mpr ⟨label, kept, holds, shows, named, rfl⟩⟩
  displayed := by
    intro label kept holds shows
    have found := (sound.shown kept.thunk.fileName kept.thunk.code.source).mpr
      ⟨label, kept, holds, shows, rfl, rfl⟩
    rw [Registry.lines, found]
    exact Registry.join_lines_of _
  distinct := sound.distinct

theorem registry_tracks_live_sources (store : Store) (acts : List Act) :
    ((opening store).run acts).Faithful :=
  faithful_of_sound (run_sound (opening_sound store) acts)

-- A label that is taken again shows the later source alone.
example : ((opening .empty).run
    [.compose .standard (some "kept") ⟨"first", ["items"], .name "items", false, []⟩,
      .compose ⟨true, "later"⟩ (some "kept") ⟨"first", ["items"], .name "items", false, []⟩]
    ).registry.sources.keys = ["<later first#2>"] := by
  decide +kernel

end Session

end MemberThunks
