import MemberThunks.CommandLine

set_option autoImplicit false

/- What the arguments of the command ask for. They are taken from left to right: an option that is
   known adds to what is asked for, one argument that is no option is the target, and help is given
   where it is asked for first. To ask for a log, at any place, changes nothing else. -/
namespace MemberThunks

namespace CommandLine

section Parsing

-- Arguments that are no options.
def isPlain (argument : String) : Bool := !argument.startsWith "-"

def asksWrite (argument : String) : Bool := argument = "--set"

def asksAloud (argument : String) : Bool := argument = "--verbose" || argument = "-v"

-- A list of words that ends in its first one that is not empty.
def LedTo (words : List String) (target : String) : Prop :=
  target ≠ "" ∧ ∃ count, words = List.replicate count "" ++ [target]

theorem led_past_empty {words : List String} {target : String} :
    LedTo ("" :: words) target ↔ LedTo words target := by
  constructor
  · rintro ⟨named, count, led⟩
    cases count with
    | zero => exact absurd (List.cons.inj led).1.symm named
    | succ count => exact ⟨named, count, (List.cons.inj led).2⟩
  · rintro ⟨named, count, rfl⟩
    exact ⟨named, count + 1, rfl⟩

theorem led_by_named {words : List String} {word target : String} (named : word ≠ "") :
    LedTo (word :: words) target ↔ words = [] ∧ word = target := by
  constructor
  · rintro ⟨_, count, led⟩
    cases count with
    | zero => exact ⟨(List.cons.inj led).2, (List.cons.inj led).1⟩
    | succ count => exact absurd (List.cons.inj led).1 named
  · rintro ⟨rfl, rfl⟩
    exact ⟨named, 0, rfl⟩

-- What arguments ask for beyond what is known so far: options that there are, none of them for
-- help, and one target.
structure AsksFrom (sofar : Arguments) (arguments : List String) (parsed : Arguments) : Prop where
  options : ∀ argument ∈ arguments,
    isPlain argument = true ∨ asksWrite argument = true ∨ asksAloud argument = true
  target : LedTo (sofar.target :: arguments.filter isPlain) parsed.target
  writes : parsed.writes = (sofar.writes || arguments.any asksWrite)
  verbose : parsed.verbose = (sofar.verbose || arguments.any asksAloud)

variable {sofar parsed : Arguments} {argument : String} {rest : List String}

-- The options that go on, with what they add to what is known.
def Arguments.adding (sofar : Arguments) (argument : String) : Arguments :=
  ⟨sofar.target, sofar.writes || asksWrite argument, sofar.verbose || asksAloud argument⟩

theorem option_not_plain (option : asksWrite argument = true ∨ asksAloud argument = true) :
    isPlain argument = false ∧ ¬(argument = "--help" ∨ argument = "-h") := by
  simp only [asksWrite, asksAloud, Bool.or_eq_true, decide_eq_true_eq] at option
  rcases option with rfl | rfl | rfl <;> exact ⟨by decide +kernel, by decide⟩

theorem help_not_plain (help : argument = "--help" ∨ argument = "-h") :
    isPlain argument = false := by
  rcases help with rfl | rfl <;> decide +kernel

theorem parse_option (option : asksWrite argument = true ∨ asksAloud argument = true) :
    parseFrom sofar (argument :: rest) = parseFrom (sofar.adding argument) rest := by
  rw [parseFrom, if_neg (option_not_plain option).2]
  simp only [asksWrite, asksAloud, Bool.or_eq_true, decide_eq_true_eq] at option
  rcases option with rfl | rfl | rfl <;> simp [Arguments.adding, asksWrite, asksAloud]

theorem parse_plain (plain : isPlain argument = true) :
    parseFrom sofar (argument :: rest) =
      if sofar.target = "" then parseFrom { sofar with target := argument } rest
      else .fault (.unexpected argument) := by
  have unhelpful : ¬(argument = "--help" ∨ argument = "-h") := fun help => by
    rw [help_not_plain help] at plain
    cases plain
  have unasked : ¬(asksWrite argument = true ∨ asksAloud argument = true) := fun option => by
    rw [(option_not_plain option).1] at plain
    cases plain
  have dashed : argument.startsWith "-" = false := by simpa [isPlain] using plain
  simp only [asksWrite, asksAloud, Bool.or_eq_true, decide_eq_true_eq, not_or] at unasked
  rw [parseFrom, if_neg unhelpful, if_neg unasked.1, if_neg (not_or.mpr unasked.2), dashed]
  rfl

theorem asks_option (option : asksWrite argument = true ∨ asksAloud argument = true) :
    AsksFrom sofar (argument :: rest) parsed ↔ AsksFrom (sofar.adding argument) rest parsed := by
  have plain := (option_not_plain option).1
  constructor
  · rintro ⟨options, target, writes, verbose⟩
    rw [List.filter_cons_of_neg (by simp [plain])] at target
    rw [List.any_cons, ← Bool.or_assoc] at writes verbose
    exact ⟨fun other among => options other (List.mem_cons_of_mem _ among), target, writes, verbose⟩
  · rintro ⟨options, target, writes, verbose⟩
    refine ⟨List.forall_mem_cons.mpr ⟨.inr option, options⟩, ?_, ?_, ?_⟩
    · rwa [List.filter_cons_of_neg (by simp [plain])]
    · rwa [List.any_cons, ← Bool.or_assoc]
    · rwa [List.any_cons, ← Bool.or_assoc]

theorem asks_plain (plain : isPlain argument = true) (first : sofar.target = "") :
    AsksFrom sofar (argument :: rest) parsed ↔
      AsksFrom { sofar with target := argument } rest parsed := by
  have silent : asksWrite argument = false ∧ asksAloud argument = false := by
    cases writes : asksWrite argument <;> cases aloud : asksAloud argument <;>
      first
      | exact ⟨rfl, rfl⟩
      | rw [(option_not_plain (by simp [writes, aloud])).1] at plain; cases plain
  constructor
  · rintro ⟨options, target, writes, verbose⟩
    rw [List.filter_cons_of_pos plain, first, led_past_empty] at target
    rw [List.any_cons, silent.1, Bool.false_or] at writes
    rw [List.any_cons, silent.2, Bool.false_or] at verbose
    exact ⟨fun other among => options other (List.mem_cons_of_mem _ among), target, writes, verbose⟩
  · rintro ⟨options, target, writes, verbose⟩
    refine ⟨List.forall_mem_cons.mpr ⟨.inl plain, options⟩, ?_, ?_, ?_⟩
    · rwa [List.filter_cons_of_pos plain, first, led_past_empty]
    · rwa [List.any_cons, silent.1, Bool.false_or]
    · rwa [List.any_cons, silent.2, Bool.false_or]

theorem parse_other (decorated : isPlain argument = false)
    (unasked : ¬(asksWrite argument = true ∨ asksAloud argument = true)) :
    parseFrom sofar (argument :: rest) =
      if argument = "--help" ∨ argument = "-h" then .help
      else .fault (.unknownFlag argument) := by
  have dashed : argument.startsWith "-" = true := by simpa [isPlain] using decorated
  simp only [asksWrite, asksAloud, Bool.or_eq_true, decide_eq_true_eq, not_or] at unasked
  rw [parseFrom, if_neg unasked.1, if_neg (not_or.mpr unasked.2), if_pos dashed]

theorem parse_from_iff {arguments : List String} :
    parseFrom sofar arguments = .arguments parsed ↔ AsksFrom sofar arguments parsed := by
  induction arguments generalizing sofar with
  | nil =>
      rw [parseFrom]
      by_cases missing : sofar.target = ""
      · rw [if_pos missing]
        refine ⟨fun parses => (by cases parses), fun asks => ?_⟩
        have led := asks.target
        rw [missing, List.filter_nil, led_past_empty] at led
        obtain ⟨_, count, led⟩ := led
        cases count <;> cases led
      · rw [if_neg missing]
        constructor
        · intro parses
          cases parses
          exact ⟨fun _ among => absurd among List.not_mem_nil,
            (led_by_named missing).mpr ⟨rfl, rfl⟩, by simp, by simp⟩
        · rintro ⟨_, target, writes, verbose⟩
          obtain ⟨_, same⟩ := (led_by_named missing).mp target
          simp only [List.any_nil, Bool.or_false] at writes verbose
          cases parsed
          cases sofar
          simp_all
  | cons argument rest ih =>
      by_cases option : asksWrite argument = true ∨ asksAloud argument = true
      · rw [parse_option option, asks_option option]
        exact ih
      · cases plain : isPlain argument with
        | true =>
            rw [parse_plain plain]
            by_cases first : sofar.target = ""
            · rw [if_pos first, asks_plain plain first]
              exact ih
            · rw [if_neg first]
              refine ⟨fun parses => (by cases parses), fun asks => ?_⟩
              have led := asks.target
              rw [led_by_named first, List.filter_cons_of_pos plain] at led
              exact absurd led.1 (List.cons_ne_nil _ _)
        | false =>
            rw [parse_other plain option]
            refine ⟨fun parses => (by split at parses <;> cases parses), fun asks => ?_⟩
            rcases asks.options argument List.mem_cons_self with decorated | known
            · cases plain.symm.trans decorated
            · exact absurd known option

def Arguments.aloud (arguments : Arguments) : Arguments := { arguments with verbose := true }

def Parsed.aloud : Parsed → Parsed
  | .arguments parsed => .arguments parsed.aloud
  | other => other

theorem adding_aloud : sofar.aloud.adding argument = (sofar.adding argument).aloud := by
  rw [Arguments.aloud, Arguments.aloud, Arguments.adding, Bool.true_or]
  rfl

theorem parse_aloud (sofar : Arguments) (arguments : List String) :
    parseFrom sofar.aloud arguments = (parseFrom sofar arguments).aloud := by
  induction arguments generalizing sofar with
  | nil =>
      rw [parseFrom, parseFrom]
      change (if sofar.target = "" then _ else _) = _
      split <;> rfl
  | cons argument rest ih =>
      by_cases option : asksWrite argument = true ∨ asksAloud argument = true
      · rw [parse_option option, parse_option option, adding_aloud]
        exact ih _
      · cases plain : isPlain argument with
        | true =>
            rw [parse_plain plain, parse_plain plain]
            change (if sofar.target = "" then _ else _) = _
            split
            · exact ih { sofar with target := argument }
            · rfl
        | false =>
            rw [parse_other plain option, parse_other plain option]
            split <;> rfl

-- To ask for a log at any place changes nothing else of what is asked for.
theorem parse_inserted {flag : String} (aloud : asksAloud flag = true) (front back : List String)
    (sofar : Arguments) :
    parseFrom sofar (front ++ flag :: back) = (parseFrom sofar (front ++ back)).aloud := by
  induction front generalizing sofar with
  | nil =>
      have added : sofar.adding flag = sofar.aloud := by
        have unwritten : asksWrite flag = false := by
          simp only [asksAloud, Bool.or_eq_true, decide_eq_true_eq] at aloud
          rcases aloud with rfl | rfl <;> rfl
        rw [Arguments.adding, Arguments.aloud, aloud, unwritten, Bool.or_true, Bool.or_false]
      rw [List.nil_append, parse_option (.inr aloud), added]
      exact parse_aloud sofar back
  | cons argument front ih =>
      rw [List.cons_append, List.cons_append]
      by_cases option : asksWrite argument = true ∨ asksAloud argument = true
      · rw [parse_option option, parse_option option]
        exact ih _
      · cases plain : isPlain argument with
        | true =>
            rw [parse_plain plain, parse_plain plain]
            split
            · exact ih _
            · rfl
        | false =>
            rw [parse_other plain option, parse_other plain option]
            split <;> rfl

-- What arguments ask for: options that there are, none of them for help, and one target.
def Asks (arguments : List String) (parsed : Arguments) : Prop :=
  AsksFrom ⟨"", false, false⟩ arguments parsed

theorem parse_iff {arguments : List String} :
    parse arguments = .arguments parsed ↔ Asks arguments parsed := parse_from_iff

theorem help_among {arguments : List String} (helps : parseFrom sofar arguments = .help) :
    "--help" ∈ arguments ∨ "-h" ∈ arguments := by
  induction arguments generalizing sofar with
  | nil =>
      rw [parseFrom] at helps
      split at helps <;> cases helps
  | cons argument rest ih =>
      have later : "--help" ∈ rest ∨ "-h" ∈ rest →
          "--help" ∈ argument :: rest ∨ "-h" ∈ argument :: rest :=
        Or.imp (List.mem_cons_of_mem _) (List.mem_cons_of_mem _)
      by_cases option : asksWrite argument = true ∨ asksAloud argument = true
      · rw [parse_option option] at helps
        exact later (ih helps)
      · cases plain : isPlain argument with
        | true =>
            rw [parse_plain plain] at helps
            split at helps
            · exact later (ih helps)
            · cases helps
        | false =>
            rw [parse_other plain option] at helps
            split at helps
            · rename_i help
              rcases help with rfl | rfl
              · exact .inl List.mem_cons_self
              · exact .inr List.mem_cons_self
            · cases helps

end Parsing

end CommandLine

end MemberThunks
