import MemberThunks.Proofs.EqualBuilds
import MemberThunks.Proofs.SquashedNames

set_option autoImplicit false

/- Building the thunk of a write. The type of the member is asked for twice, before the program
   is written and when it is lowered, and what comes of it each time is what comes of asking for
   its conversion alone; so all that a build adds is the name. A name that squashing leaves with a
   character that stands in no name, or that is not itself once it is read, has no write. -/
namespace MemberThunks

namespace Member

theorem qualname_informed {world known : World} (informed : world.Informed known)
    (member : Member) : member.qualname known = member.qualname world := by
  have same : ∀ target : ClassRef, known.qualname target = world.qualname target := by
    intro target
    cases target <;> simp only [World.qualname, World.find?, informed.classes]
  rw [qualname, qualname, same]

end Member

namespace Writing

-- The program of a member that can be written, which hangs on the type alone.
theorem member_by_conversion {member : Member} {type : TypeForm}
    (writable : isWritable member = true) (declared : declaredType? member = some type) :
    ∃ instruction, ((∃ stored, instruction = .storeField stored) ∨
        ∃ details, instruction = .callSetter (.property details)) ∧
      ∀ known : World, Writing.member known member =
        match known.conversionFor type false with
        | .ok _ => .ok (program member.declaring member.name type instruction)
        | .error fault => .error (.unsupported fault (member.qualname known)) := by
  cases member with
  | field details =>
      cases declared
      refine ⟨.storeField (.field details), .inl ⟨_, rfl⟩, fun known => ?_⟩
      rw [Writing.member, field, checkType]
      cases known.conversionFor details.type false <;> rfl
  | property details =>
      cases declared
      obtain ⟨setter, held⟩ := Option.isSome_iff_exists.mp writable
      refine ⟨.callSetter (.property details), .inr ⟨_, rfl⟩, fun known => ?_⟩
      rw [Writing.member, property, held, checkType]
      cases known.conversionFor details.type false <;> rfl
  | method details => cases declared
  | bare declaring name => cases declared

theorem member_without_setter {member : Member} {type : TypeForm}
    (missing : isWritable member = false) (declared : declaredType? member = some type)
    (world : World) :
    Writing.member world member = .error (.noSetter (member.qualname world)) := by
  cases member with
  | field details => cases missing
  | property details =>
      have none_held : details.setter = none := by
        cases held : details.setter with
        | none => rfl
        | some setter => simp [isWritable, held] at missing
      rw [Writing.member, property, none_held]
  | method details => cases declared
  | bare declaring name => cases declared

theorem program_refused {world : World} {type : TypeForm} {fault : UnsupportedType}
    (declaring : ClassRef) (name : String) (store : Instruction)
    (refused : world.conversionFor type false = .error fault) :
    (program declaring name type store).lower world =
      .error (.step (.unsupported fault) 3 ((Instruction.unboxAny type).display world)
        ("Set" ++ name)) := by
  simp only [Program.lower, program, Lowering.steps, Lowering.step, refused, Lowering.faultAt,
    Lowering.State.pop, Lowering.State.push, Lowering.State.write, Lowering.State.check,
    Lowering.State.addConstant, Lowering.State.empty, Instruction.isReturn, bind, Except.bind,
    pure, Except.pure]
  rfl

end Writing

namespace Loading

-- What is wrong with the name of a write, for the file that it is loaded under.
def writeFault? (options : Options) (serial : Nat) (name : String) : Option LoadFault :=
  let squashed := Identifier.squash ("Set" ++ name)
  if Char.ofNat 0 ∈ options.namePrefix.toList then some .nulInFileName
  else
    match name.toList.find? Identifier.isMisplaced with
    | some c => some (.foreignCharacter c (options.fileName squashed serial))
    | none => if NormalForm.isNormal squashed then none else some (.renamed squashed)

theorem check_write (options : Options) (serial : Nat) {lowered : Listing} {name : String}
    (named : lowered.name = Identifier.squash ("Set" ++ name)) :
    check (.listing lowered) (options.fileName lowered.name serial) =
      (match writeFault? options serial name with
        | none => .ok ()
        | some fault => .error fault) := by
  obtain ⟨free, unreserved⟩ := Identifier.set_name_free name
  have foreign := Identifier.foreign_set_name name
  rw [← named] at free unreserved foreign
  have marks := options.nul_in_file_name ("Set" ++ name) serial
  rw [← named] at marks
  rw [writeFault?, ← named, check]
  by_cases marked : Char.ofNat 0 ∈ options.namePrefix.toList
  · rw [if_pos marked, if_pos (by simpa using marks.mpr marked)]
  · rw [if_neg marked, if_neg (by simpa using fun inside => marked (marks.mp inside))]
    simp only [checkListing, free, foreign, if_neg unreserved, Bool.false_eq_true, if_false]
    cases name.toList.find? Identifier.isMisplaced with
    | some c => rfl
    | none => cases NormalForm.isNormal lowered.name <;> rfl

theorem write_fault_none (options : Options) (serial : Nat) (name : String) :
    writeFault? options serial name = none ↔
      Char.ofNat 0 ∉ options.namePrefix.toList ∧
        name.toList.find? Identifier.isMisplaced = none ∧
        NormalForm.isNormal (Identifier.squash ("Set" ++ name)) = true := by
  rw [writeFault?]
  by_cases marked : Char.ofNat 0 ∈ options.namePrefix.toList
  · simp [marked]
  · cases name.toList.find? Identifier.isMisplaced with
    | some c => simp [marked]
    | none => simp [marked]

end Loading

namespace Strategy

-- How a fault of a conversion that is asked for alone shows in what asks for the conversion on
-- behalf of something that goes by a name.
inductive Shown (about : String) : CompileFault → CompileFault → Prop where
  | escaped (raised : Raised) : Shown about (.escaped raised) (.escaped raised)
  | build (fault : UnsupportedType) :
      Shown about (.unsupported fault) (.build (.unsupported fault about))
  | lower (fault : UnsupportedType) (offset : Nat) (found : String) :
      Shown about (.unsupported fault) (.lower (.step (.unsupported fault) offset found about))

theorem shown_alike {about : String} {found fault : CompileFault}
    (shown : Shown about found fault) : fault.failure.kind = found.failure.kind ∧
      fault.failure.message = found.failure.message := by
  cases shown with
  | escaped raised => exact ⟨rfl, rfl⟩
  | build fault => cases fault <;> exact ⟨rfl, rfl⟩
  | lower fault offset found => cases fault <;> exact ⟨rfl, rfl⟩

section Builds

variable (world : World) (caller : Caller) (type : TypeForm) (store : Store)

-- A type that has a conversion each of the two times that a build asks for it.
def Accepted : Prop :=
  ∃ first between second after,
    (conversion world caller type false).run.run store = (.ok first, between) ∧
      (conversion world caller type false).run.run between = (.ok second, after)

variable (options : Options) (serial : Nat) (member : Member)

-- What a build of a write ends with: there is no setter, the type is refused when it is asked for
-- first or when it is asked for again, the name cannot be loaded, or there is a thunk.
inductive WriteBuilt : Except CompileFault Thunk → Prop where
  | noSetter (missing : Writing.isWritable member = false) :
      WriteBuilt (.error (.build (.noSetter (member.qualname world))))
  | refused (writable : Writing.isWritable member = true) (found fault : CompileFault)
      (after : Store)
      (refuses : (conversion world caller type false).run.run store = (.error found, after))
      (shown : Shown (member.qualname world) found fault) : WriteBuilt (.error fault)
  | refusedAgain (writable : Writing.isWritable member = true) (first : Option Conversion)
      (found fault : CompileFault) (between after : Store)
      (accepts : (conversion world caller type false).run.run store = (.ok first, between))
      (refuses : (conversion world caller type false).run.run between = (.error found, after))
      (shown : Shown ("Set" ++ member.name) found fault) : WriteBuilt (.error fault)
  | unloaded (writable : Writing.isWritable member = true)
      (accepted : Accepted world caller type store) (fault : LoadFault)
      (found : Loading.writeFault? options serial member.name = some fault) :
      WriteBuilt (.error (.load fault))
  | made (writable : Writing.isWritable member = true)
      (accepted : Accepted world caller type store) (thunk : Thunk)
      (sound : Loading.writeFault? options serial member.name = none) : WriteBuilt (.ok thunk)

end Builds

section Stages

variable {world : World} {caller : Caller} {member : Member} {type : TypeForm} {store : Store}

-- The ends of asking for a conversion alone, and of making something that asks for nothing else
-- and goes by a name.
inductive Follows {α : Type} (about : String) (fits : α → Prop) :
    Except CompileFault (Option Conversion) × Store → Except CompileFault α × Store → Prop where
  | refused (found fault : CompileFault) (after : Store) (shown : Shown about found fault) :
      Follows about fits (.error found, after) (.error fault, after)
  | made (result : Option Conversion) (made : α) (after : Store) (fit : fits made) :
      Follows about fits (.ok result, after) (.ok made, after)

theorem settling_follows {ε α : Type} {about : String} {fits : α → Prop}
    {question? : ε → Option Question} {blame : ε → CompileFault} {attempt : World → Except ε α}
    (makes : ∀ (known : World) (conversion : Option Conversion),
      known.conversionFor type false = .ok conversion → ∃ made, attempt known = .ok made ∧ fits made)
    (refuses : ∀ known : World, world.Informed known → ∀ fault : UnsupportedType,
      known.conversionFor type false = .error fault →
      ∃ partner, attempt known = .error partner ∧ question? partner = fault.question? ∧
        Shown about (.unsupported fault) (blame partner))
    (caller : Caller) (store : Store) :
    Follows about fits ((conversion world caller type false).run.run store)
      ((Making.settling world caller question? blame attempt).run.run store) := by
  have abreast : Making.Abreast world .unsupported blame
      (fun known => known.conversionFor type false) attempt _ _ :=
    Making.settling_abreast world caller UnsupportedType.question? question? .unsupported blame
      (fun known _ conversion found => (makes known conversion found).imp fun _ made => made.1)
      (fun known informed fault found =>
        (refuses known informed fault found).imp fun _ refused => ⟨refused.1, refused.2.1⟩) store
  rw [conversion]
  generalize (Making.settling world caller UnsupportedType.question? .unsupported
    fun known => known.conversionFor type false).run.run store = ended at abreast ⊢
  generalize (Making.settling world caller question? blame attempt).run.run store = followed
    at abreast ⊢
  cases abreast with
  | stopped raised after => exact .refused _ _ after (.escaped raised)
  | @made known informed conversion partner tried followed after =>
      obtain ⟨made, same, fit⟩ := makes known conversion tried
      cases followed.symm.trans same
      exact .made conversion partner after fit
  | @refused known informed fault partner tried followed after =>
      obtain ⟨other, same, _, shown⟩ := refuses known informed fault tried
      cases followed.symm.trans same
      exact .refused _ _ after shown

-- The program of a write, beside the conversion of its type.
theorem program_follows (writable : Writing.isWritable member = true)
    (declared : Writing.declaredType? member = some type) (world : World) (caller : Caller)
    (store : Store) :
    ∃ instruction, ((∃ stored, instruction = .storeField stored) ∨
        ∃ details, instruction = .callSetter (.property details)) ∧
      Follows (member.qualname world)
        (fun made => made = Writing.program member.declaring member.name type instruction)
        ((conversion world caller type false).run.run store)
        ((program world caller (.member member)).run.run store) := by
  obtain ⟨instruction, stores, composed⟩ := Writing.member_by_conversion writable declared
  refine ⟨instruction, stores, settling_follows ?_ ?_ caller store⟩
  · intro known conversion found
    exact ⟨_, by rw [composed, found], rfl⟩
  · intro known informed fault found
    refine ⟨_, by rw [composed, found], rfl, ?_⟩
    rw [Member.qualname_informed informed]
    exact .build fault

-- The listing of the program of a write, beside the conversion of its type.
theorem lowered_follows {declaring : ClassRef} {name : String} {instruction : Instruction}
    (stores : (∃ stored, instruction = .storeField stored) ∨
      ∃ details, instruction = .callSetter (.property details)) (caller : Caller) (store : Store) :
    Follows ("Set" ++ name)
      (fun made => ∃ lowered : Listing, made = Code.listing lowered ∧
        lowered.name = Identifier.squash ("Set" ++ name))
      ((conversion world caller type false).run.run store)
      ((lowered world caller (Writing.program declaring name type instruction)).run.run store) := by
  rw [lowered, run_map]
  have follows : Follows ("Set" ++ name)
      (fun listing : Listing => listing.name = Identifier.squash ("Set" ++ name))
      ((conversion world caller type false).run.run store)
      ((Making.settling world caller LowerFault.question? .lower fun known =>
        (Writing.program declaring name type instruction).lower known).run.run store) := by
    apply settling_follows
    · intro known conversion found
      obtain ⟨listing, done⟩ := Writing.program_lowered declaring name stores found
      obtain ⟨_, _, rfl⟩ := Program.lower_gives done
      exact ⟨_, done, rfl⟩
    · intro known _ fault found
      exact ⟨_, Writing.program_refused declaring name instruction found, rfl, .lower fault 3 _⟩
  generalize (conversion world caller type false).run.run store = ended at follows ⊢
  generalize (Making.settling world caller LowerFault.question? .lower fun known =>
    (Writing.program declaring name type instruction).lower known).run.run store = followed
    at follows ⊢
  cases follows with
  | refused found fault after shown => exact .refused found fault after shown
  | made result listing after named => exact .made result _ after ⟨listing, rfl, named⟩

theorem code_of_write (declared : Writing.declaredType? member = some type) (world : World)
    (caller : Caller) :
    code world caller .write (.member member) = listing world caller (.member member) := by
  cases member with
  | field details => rfl
  | property details => rfl
  | method details => cases declared
  | bare declaring name => cases declared

theorem accepted_not_refused {found : CompileFault} {after : Store}
    (accepted : Accepted world caller type store) :
    (conversion world caller type false).run.run store ≠ (.error found, after) := by
  obtain ⟨first, between, _, _, started, _⟩ := accepted
  rw [started]
  intro same
  cases same

theorem accepted_not_refused_again {first : Option Conversion} {between after : Store}
    {found : CompileFault} (accepted : Accepted world caller type store)
    (accepts : (conversion world caller type false).run.run store = (.ok first, between)) :
    (conversion world caller type false).run.run between ≠ (.error found, after) := by
  obtain ⟨_, middle, second, _, started, ended⟩ := accepted
  rw [accepts] at started
  cases started
  rw [ended]
  intro same
  cases same

-- A type that is decided without a question is accepted twice if it is once.
theorem accepted_of_decided
    (decided : World.asked UnsupportedType.question? (world.conversionFor type false) = none) :
    Accepted world caller type store ↔
      ∃ conversion, world.conversionFor type false = .ok conversion := by
  have ran : ∀ before, (conversion world caller type false).run.run before =
      ((world.conversionFor type false).mapError .unsupported, before) := by
    intro before
    refine Making.settling_decided world caller _ _ _ ?_ before
    intro fault refused
    rw [refused] at decided
    exact decided
  simp only [Accepted, ran]
  cases found : world.conversionFor type false with
  | ok result =>
      exact ⟨fun _ => ⟨result, rfl⟩, fun _ => ⟨result, store, result, store, rfl, rfl⟩⟩
  | error fault =>
      constructor
      · rintro ⟨_, _, _, _, refused, _⟩
        cases refused
      · rintro ⟨_, refused⟩
        cases refused

theorem write_ends (declared : Writing.declaredType? member = some type) (world : World)
    (caller : Caller) (registry : Registry) (options : Options) (label : Option String)
    (store : Store) :
    WriteBuilt world caller type store options registry.serial member
      (built world caller registry options .write label (.member member) store) := by
  have written := run_bind (program world caller (.member member)) (lowered world caller) store
  rw [show (program world caller (.member member) >>= lowered world caller) =
    code world caller .write (.member member) from (code_of_write declared world caller).symm]
    at written
  cases writable : Writing.isWritable member with
  | false =>
      have ran : (program world caller (.member member)).run.run store =
          (.error (.build (.noSetter (member.qualname world))), store) := by
        have refused := Writing.member_without_setter writable declared world
        rw [program, Making.settling_decided _ _ _ _ _ _ store, refused]
        · rfl
        · intro fault tried
          cases refused.symm.trans tried
          rfl
      rw [ran] at written
      rw [built_of_code written]
      exact .noSetter writable
  | true =>
      obtain ⟨instruction, stores, follows⟩ :=
        program_follows writable declared world caller store
      generalize first : (conversion world caller type false).run.run store = ended at follows
      generalize (program world caller (.member member)).run.run store = followed
        at follows written
      cases follows with
      | refused found fault after shown =>
          rw [built_of_code written]
          exact .refused writable found fault after first shown
      | made result made between same =>
          subst same
          have next : Follows ("Set" ++ member.name)
              (fun made => ∃ lowered : Listing, made = Code.listing lowered ∧
                lowered.name = Identifier.squash ("Set" ++ member.name))
              ((conversion world caller type false).run.run between)
              ((code world caller .write (.member member)).run.run store) := by
            rw [written]
            exact lowered_follows stores caller between
          generalize second : (conversion world caller type false).run.run between = ended at next
          generalize ran : (code world caller .write (.member member)).run.run store = followed
            at next
          cases next with
          | refused found fault after shown =>
              rw [built_of_code ran]
              exact .refusedAgain writable result found fault between after first second shown
          | made again code after named =>
              obtain ⟨listing, rfl, named⟩ := named
              have accepted : Accepted world caller type store :=
                ⟨result, between, again, after, first, second⟩
              have checks := Loading.check_write options registry.serial named
              rw [built_of_code ran]
              change WriteBuilt world caller type store options registry.serial member
                (((Code.listing listing).load
                  (options.fileName listing.name registry.serial)).mapError CompileFault.load)
              rw [Code.load, checks]
              cases found : Loading.writeFault? options registry.serial member.name with
              | some fault => exact .unloaded writable accepted fault found
              | none => exact .made writable accepted _ found

theorem write_built_iff (declared : Writing.declaredType? member = some type) (world : World)
    (caller : Caller) (registry : Registry) (options : Options) (label : Option String)
    (store : Store) :
    (∃ thunk, built world caller registry options .write label (.member member) store =
        .ok thunk) ↔
      Writing.isWritable member = true ∧ Accepted world caller type store ∧
        Loading.writeFault? options registry.serial member.name = none := by
  have ends := write_ends declared world caller registry options label store
  generalize built world caller registry options .write label (.member member) store = ended
    at ends ⊢
  constructor
  · rintro ⟨thunk, rfl⟩
    cases ends with
    | made writable accepted _ sound => exact ⟨writable, accepted, sound⟩
  · rintro ⟨writable, accepted, sound⟩
    cases ends with
    | noSetter missing => cases missing.symm.trans writable
    | refused _ found fault after refuses => exact absurd refuses (accepted_not_refused accepted)
    | refusedAgain _ first found fault between after accepts refuses =>
        exact absurd refuses (accepted_not_refused_again accepted accepts)
    | unloaded _ _ fault found => cases found.symm.trans sound
    | made _ _ thunk _ => exact ⟨thunk, rfl⟩

theorem unsupported_kind {about : String} {fault : UnsupportedType} {found : CompileFault}
    (shown : Shown about (.unsupported fault) found) :
    fault = .tooDeep ∨ found.failure.kind = .unsupportedMember := by
  rw [(shown_alike shown).1]
  cases fault with
  | tooDeep => exact .inl rfl
  | _ => exact .inr rfl

-- A write has a thunk if there is a setter, the type is accepted, and the name can be loaded, as
-- any plain name can; otherwise the build tells which it was.
theorem write_built_by_name (declared : Writing.declaredType? member = some type) (world : World)
    (caller : Caller) (registry : Registry) (options : Options) (label : Option String)
    (store : Store) :
    WriteBuilt world caller type store options registry.serial member
      (built world caller registry options .write label (.member member) store) ∧
    ((∃ thunk, built world caller registry options .write label (.member member) store =
        .ok thunk) ↔
      Writing.isWritable member = true ∧ Accepted world caller type store ∧
        Char.ofNat 0 ∉ options.namePrefix.toList ∧
        member.name.toList.find? Identifier.isMisplaced = none ∧
        NormalForm.isNormal (Identifier.squash ("Set" ++ member.name)) = true) ∧
    (World.asked UnsupportedType.question? (world.conversionFor type false) = none →
      (Accepted world caller type store ↔
        ∃ conversion, world.conversionFor type false = .ok conversion)) ∧
    (∀ (about : String) (fault : UnsupportedType) (found : CompileFault),
      Shown about (.unsupported fault) found →
        fault = .tooDeep ∨ found.failure.kind = .unsupportedMember) ∧
    ((∀ c ∈ member.name.toList, c.toNat < 128) →
      member.name.toList.find? Identifier.isMisplaced = none ∧
        NormalForm.isNormal (Identifier.squash ("Set" ++ member.name)) = true) := by
  refine ⟨write_ends declared world caller registry options label store, ?_, accepted_of_decided,
    fun _ _ _ => unsupported_kind, Identifier.set_name_plain⟩
  rw [write_built_iff declared world caller registry options label store,
    Loading.write_fault_none]

end Stages

-- A field of every object that goes by a name, and takes numbers.
def amount (name : String) : Member :=
  .field ⟨.builtin .object, name, .cls (.builtin .int)⟩

def amountBuild (request : Request) (name : String) : Except CompileFault Thunk :=
  built .empty (World.empty.call World.callLimit) .empty .standard request none
    (.member (amount name)) .empty

theorem odd_name_written :
    Writing.declaredType? (amount "first name!") = some (.cls (.builtin .int)) ∧
      World.asked UnsupportedType.question?
        (World.empty.conversionFor (.cls (.builtin .int)) false) = none ∧
      (∀ c ∈ (amount "first name!").name.toList, c.toNat < 128) ∧
      ∃ thunk, amountBuild .write "first name!" = .ok thunk := by
  have declared : Writing.declaredType? (amount "first name!") =
      some (.cls (.builtin .int)) := rfl
  have decided : World.asked UnsupportedType.question?
      (World.empty.conversionFor (.cls (.builtin .int)) false) = none := rfl
  have plain : ∀ c ∈ (amount "first name!").name.toList, c.toNat < 128 :=
    Identifier.plain_of_all (by decide)
  obtain ⟨_, builds, accepts, _, loads⟩ := write_built_by_name declared .empty
    (World.empty.call World.callLimit) .empty .standard none .empty
  exact ⟨declared, decided, plain,
    builds.mpr ⟨rfl, (accepts decided).mpr ⟨_, rfl⟩, by decide, loads plain⟩⟩

def buildFailure (request : Request) (name : String) : Option FailureKind :=
  match amountBuild request name with
  | .ok _ => none
  | .error fault => some fault.failure.kind

-- A digit that is set high counts as a letter or a digit, but stands in no name; and a letter that
-- is set high is read as a plain one. A read of either field is built, and no write.
theorem squashed_names_without_write :
    (∃ conversion, World.empty.conversionFor (.cls (.builtin .int)) false = .ok conversion) ∧
    buildFailure .read "x²" = none ∧ buildFailure .write "x²" = some .malformed ∧
    buildFailure .read "nº" = none ∧ buildFailure .write "nº" = some .keyFault :=
  ⟨⟨_, rfl⟩, by decide +kernel, by decide +kernel, by decide +kernel, by decide +kernel⟩

end Strategy

end MemberThunks
