import MemberThunks.World.Binding

set_option autoImplicit false

/- Calls that give every formal its argument. Where the positional formals come first, one
   positional argument stands for each of them, and each keyword-only formal has its keyword,
   binding succeeds and gives every formal its own argument; no default is looked at. With any
   other number of arguments for plain names it fails. -/
namespace MemberThunks

namespace Binding

-- The formals of a routine without variadic ones: those with places, then those that only
-- keywords fill, all under names of their own.
structure Plain (places options : List Formal) : Prop where
  placed : ∀ formal ∈ places, formal.kind.isPositional = true
  optional : ∀ formal ∈ options, formal.kind = .keywordOnly
  distinct : ((places ++ options).map (·.name)).Nodup

-- Each formal with the value in its place.
def paired (formals : List Formal) (values : List Value) : Entries String Value :=
  (formals.map (·.name)).zip values

theorem paired_append {places options : List Formal} {arguments : List Value}
    (filled : arguments.length = places.length) (values : List Value) :
    paired (places ++ options) (arguments ++ values) =
      paired places arguments ++ paired options values := by
  rw [paired, List.map_append, List.zip_append (by simp [filled])]
  rfl

theorem keys_paired {formals : List Formal} {values : List Value}
    (filled : values.length = formals.length) :
    (paired formals values).keys = formals.map (·.name) := by
  rw [Entries.keys, paired, List.map_fst_zip (by simp [filled])]

theorem lookup_paired {formals : List Formal} {values : List Value}
    (distinct : (formals.map (·.name)).Nodup) (filled : values.length = formals.length)
    (spare : Formal → Value) :
    formals.map (fun formal =>
      (formal.name, ((paired formals values).lookup formal.name).getD (spare formal))) =
        paired formals values := by
  induction formals generalizing values with
  | nil => rfl
  | cons formal rest ih =>
      cases values with
      | nil => simp at filled
      | cons value values =>
          obtain ⟨absent, apart⟩ := List.nodup_cons.mp distinct
          have tail := ih apart (by simpa using filled)
          have unaffected : rest.map (fun other =>
              (other.name, ((paired (formal :: rest) (value :: values)).lookup other.name).getD
                (spare other))) = paired rest values := by
            rw [← tail]
            apply List.map_congr_left
            intro other listed
            have differs : (other.name == formal.name) = false := by
              apply beq_eq_false_iff_ne.mpr
              intro same
              exact absent (List.mem_map.mpr ⟨other, listed, same⟩)
            simp only [paired, List.map_cons, List.zip_cons_cons, List.lookup_cons, differs]
          rw [List.map_cons, unaffected]
          simp [paired]

theorem lookup_isSome_of_mem {ν : Type} {name : String} {entries : Entries String ν}
    (listed : name ∈ entries.keys) : (entries.lookup name).isSome = true := by
  obtain ⟨entry, held, same⟩ := List.mem_map.mp listed
  exact List.lookup_isSome_iff.mpr ⟨entry, held, by simp [same]⟩

section Plain

variable {places options : List Formal} {arguments values : List Value}

theorem positional_of_plain (plain : Plain places options) :
    positional (places ++ options) = places := by
  have kept : places.filter (·.kind.isPositional) = places :=
    List.filter_eq_self.mpr plain.placed
  have dropped : options.filter (·.kind.isPositional) = [] := by
    apply List.filter_eq_nil_iff.mpr
    intro formal listed
    simp [plain.optional formal listed, FormalKind.isPositional]
  rw [positional, List.filter_append, kept, dropped, List.append_nil]

theorem named_option (plain : Plain places options) {name : String}
    (listed : name ∈ options.map (·.name)) : named (places ++ options) .keywordOnly name = true := by
  obtain ⟨formal, held, same⟩ := List.mem_map.mp listed
  apply List.any_eq_true.mpr
  exact ⟨formal, List.mem_append_right _ held, by simp [plain.optional formal held, same]⟩

theorem take_keywords_appends (plain : Plain places options) (all : Entries String Value)
    (keywords : Entries String Value) (taken : Taken)
    (known : ∀ name ∈ keywords.keys, name ∈ options.map (·.name))
    (distinct : (taken.named.keys ++ keywords.keys).Nodup) :
    keywords.foldlM (takeKeyword (places ++ options) all) taken =
      .ok { taken with named := taken.named ++ keywords } := by
  -- a keyword that is still to come fills an option that nothing has filled yet
  induction keywords generalizing taken with
  | nil => simp [pure, Except.pure]
  | cons keyword rest ih =>
      have accepted := named_option plain (known keyword.1 (by simp [Entries.keys]))
      have absent : keyword.1 ∉ taken.named.keys := by
        intro present
        have apart := (List.nodup_append.mp distinct).2.2
        exact apart keyword.1 present keyword.1 (by simp [Entries.keys]) rfl
      have unseen : (taken.named.lookup keyword.1).isSome = false := by
        cases found : taken.named.lookup keyword.1 with
        | none => rfl
        | some value => exact absurd (Entries.mem_keys_of_lookup found) absent
      have step : takeKeyword (places ++ options) all taken keyword =
          .ok { taken with named := taken.named ++ [keyword] } := by
        simp [takeKeyword, accepted, unseen]
      have onward := ih { taken with named := taken.named ++ [keyword] }
        (fun name listed => known name (by
          simp only [Entries.keys, List.map_cons, List.mem_cons]
          exact Or.inr listed))
        (by simpa [Entries.keys, List.append_assoc] using distinct)
      rw [List.foldlM_cons, step]
      change rest.foldlM (takeKeyword (places ++ options) all)
        { taken with named := taken.named ++ [keyword] } = _
      rw [onward, List.append_assoc, List.singleton_append]

theorem unfilled_of_present (formals : List Formal) (taken : Taken) (among : FormalKind → Bool)
    (present : ∀ formal ∈ formals, formal.name ∈ taken.named.keys) :
    unfilled formals taken among = [] := by
  rw [unfilled, List.map_eq_nil_iff]
  apply List.filter_eq_nil_iff.mpr
  intro formal listed
  have found := lookup_isSome_of_mem (present formal listed)
  simp [Option.isNone_eq_false_iff.mpr found]

theorem fill_of_plain (plain : Plain places options) (taken : Taken) {formal : Formal}
    (listed : formal ∈ places ++ options) : fill (places ++ options) arguments taken formal =
      (taken.named.lookup formal.name).getD (formal.default?.getD .none) := by
  have kind : formal.kind.isPositional = true ∨ formal.kind = .keywordOnly := by
    cases List.mem_append.mp listed with
    | inl place => exact Or.inl (plain.placed formal place)
    | inr option => exact Or.inr (plain.optional formal option)
  cases shape : formal.kind <;> simp_all [fill, FormalKind.isPositional]

theorem bind_plain (plain : Plain places options) (filled : arguments.length = places.length)
    (given : values.length = options.length) :
    Binding.bind (places ++ options) arguments (paired options values) =
      .ok (paired (places ++ options) (arguments ++ values)) := by
  have whole : (arguments ++ values).length = (places ++ options).length := by
    simp [filled, given]
  have keysOf := keys_paired whole
  have taken : takeKeywords (places ++ options) (paired options values)
      ⟨byPlace (places ++ options) arguments, []⟩ =
        .ok ⟨paired (places ++ options) (arguments ++ values), []⟩ := by
    rw [takeKeywords, byPlace, positional_of_plain plain, paired_append filled]
    apply take_keywords_appends plain
    · intro name listed
      rwa [keys_paired given] at listed
    · have apart := plain.distinct
      rwa [← keysOf, paired_append filled, Entries.keys, List.map_append] at apart
  have present : ∀ formal ∈ places ++ options,
      formal.name ∈ (paired (places ++ options) (arguments ++ values)).keys := by
    intro formal listed
    rw [keysOf]
    exact List.mem_map_of_mem listed
  have counted : checkCount (places ++ options) arguments
      ⟨paired (places ++ options) (arguments ++ values), []⟩ = .ok () := by
    simp [checkCount, positional_of_plain plain, filled]
  have complete : checkMissing (places ++ options)
      ⟨paired (places ++ options) (arguments ++ values), []⟩ = .ok () := by
    have noneLeft := unfilled_of_present (places ++ options)
      ⟨paired (places ++ options) (arguments ++ values), []⟩
    simp only [checkMissing, noneLeft _ present]
  have filling : (places ++ options).map (fun formal => (formal.name,
      fill (places ++ options) arguments
        ⟨paired (places ++ options) (arguments ++ values), []⟩ formal)) =
      paired (places ++ options) (arguments ++ values) := by
    rw [← lookup_paired plain.distinct whole (fun formal => formal.default?.getD .none)]
    apply List.map_congr_left
    intro formal listed
    rw [fill_of_plain plain _ listed, lookup_paired plain.distinct whole]
  unfold Binding.bind
  rw [taken]
  change (checkCount _ _ _ >>= fun _ => checkMissing _ _ >>= fun _ => pure _) = _
  rw [counted]
  change (checkMissing _ _ >>= fun _ => pure _) = _
  rw [complete]
  exact congrArg Except.ok filling

end Plain

theorem plain_named {names : List String} (distinct : names.Nodup) :
    Plain (names.map Formal.named) [] where
  placed := by
    intro formal listed
    obtain ⟨name, _, rfl⟩ := List.mem_map.mp listed
    rfl
  optional := by simp
  distinct := by simpa [Function.comp_def, Formal.named] using distinct

theorem bind_named {names : List String} {arguments : List Value} (distinct : names.Nodup)
    (filled : arguments.length = names.length) :
    Binding.bind (names.map Formal.named) arguments [] = .ok (names.zip arguments) := by
  have noneLeft : ([] : List Value).length = ([] : List Formal).length := rfl
  have bound := bind_plain (plain_named distinct) (by simpa using filled) noneLeft
  simpa [paired, Function.comp_def, Formal.named] using bound

-- The first formal behind the arguments is not among those that are filled.
theorem place_unfilled {names : List String} {arguments : List Value} (distinct : names.Nodup)
    (short : arguments.length < names.length) :
    ∃ first, first ∈ unfilled (names.map Formal.named) ⟨names.zip arguments, []⟩
      FormalKind.isPositional := by
  obtain ⟨first, rest, behind⟩ := List.exists_cons_of_length_pos
    (show 0 < (names.drop arguments.length).length by rw [List.length_drop]; omega)
  have split : names = names.take arguments.length ++ first :: rest := by
    rw [← behind, List.take_append_drop]
  have filled : names.zip arguments = (names.take arguments.length).zip arguments := by
    rw [List.zip_eq_zip_take_min, Nat.min_eq_right (Nat.le_of_lt short), List.take_length]
  have empty : (names.zip arguments).lookup first = none := by
    cases found : (names.zip arguments).lookup first with
    | none => rfl
    | some value =>
        have key := Entries.mem_keys_of_lookup found
        rw [filled, Entries.keys, List.map_fst_zip (by rw [List.length_take]; omega)] at key
        rw [split] at distinct
        exact absurd rfl ((List.nodup_append.mp distinct).2.2 first key first List.mem_cons_self)
  have listed : Formal.named first ∈ names.map Formal.named :=
    List.mem_map_of_mem (split ▸ List.mem_append_right _ List.mem_cons_self)
  refine ⟨first, List.mem_map.mpr ⟨Formal.named first, List.mem_filter.mpr ⟨listed, ?_⟩, rfl⟩⟩
  simp only [Formal.named, FormalKind.isPositional, empty]
  rfl

-- With more positional arguments than formals, or fewer, nothing is bound.
theorem bind_miscounted {names : List String} {arguments : List Value} (distinct : names.Nodup)
    (missed : arguments.length ≠ names.length) :
    ∃ fault, Binding.bind (names.map Formal.named) arguments [] = .error fault := by
  have places : positional (names.map Formal.named) = names.map Formal.named := by
    simpa using positional_of_plain (plain_named distinct)
  have labels : (names.map Formal.named).map (·.name) = names := by
    simp [Function.comp_def, Formal.named]
  have fixed : has (names.map Formal.named) .variadic = false := by
    simp [has, Formal.named]
  rw [Binding.bind, byPlace, places, labels]
  change ∃ fault, (checkCount (names.map Formal.named) arguments ⟨names.zip arguments, []⟩ >>=
    fun _ => checkMissing (names.map Formal.named) ⟨names.zip arguments, []⟩ >>= fun _ =>
      pure _) = Except.error fault
  by_cases most : arguments.length ≤ names.length
  · have counted : checkCount (names.map Formal.named) arguments ⟨names.zip arguments, []⟩ =
        .ok () := by
      simp [checkCount, places, most]
    obtain ⟨first, left⟩ := place_unfilled distinct (Nat.lt_of_le_of_ne most missed)
    rw [counted, checkMissing]
    cases missing : unfilled (names.map Formal.named) ⟨names.zip arguments, []⟩
        FormalKind.isPositional with
    | nil => exact absurd (missing ▸ left) List.not_mem_nil
    | cons name others => exact ⟨_, rfl⟩
  · rw [checkCount, places, fixed, if_neg (by simpa using most)]
    exact ⟨_, rfl⟩

end Binding

end MemberThunks
