import DumpFlow.Proofs.Selection.Selector

/-!
What a selector gives for many commands, told by what it gives for each of them alone: the first
fault of a command is that of all, and without one every target goes to the place of its own name,
with its rank behind the name where others have the same.
-/

namespace DumpFlow.Selector

variable {s : Selector} {base : Path} {commands : List String} {ts : List Target}

/-- The directory name that the label of a target stands for. -/
def nameOf (s : Selector) (t : Target) : String :=
  s.normalizer.normalize t.label

/-- The directory name for the target at place `i`, whose own name is `name`, among targets with
the given names. -/
def directoryName (names : List String) (i : Nat) (name : String) : String :=
  if names.count name = 1 then name
  else name ++ "-" ++ toString ((names.take i).count name + 1)

/-- `fault` is that of the first command that fails alone; the commands are numbered from `k`. -/
def FirstFault (s : Selector) (base : Path) (k : Nat) (commands : List String)
    (fault : DumpFault) : Prop :=
  ∃ i command, commands[i]? = some command ∧ s.target base (i + k) command = .error fault ∧
    ∀ j < i, ∀ earlier, commands[j]? = some earlier → ∃ t, s.target base (j + k) earlier = .ok t

/-- What becomes of a target among all of them. -/
structure Sited (s : Selector) (base : Path) (names : List String) (i : Nat) (t u : Target) :
    Prop where
  kind : u.kind = t.kind
  label : u.label = t.label
  subject : u.subject = t.subject
  site : u.destination.Same (base.join (directoryName names i (s.nameOf t)))

/-- Many commands give what each of them gives alone. -/
structure Batch (s : Selector) (base : Path) (commands : List String) : Prop where
  fails_iff : (∃ fault, s.targets base commands = .error fault) ↔
    ∃ (i : Nat) (command : String) (fault : DumpFault), commands[i]? = some command ∧
      s.target base (i + 1) command = .error fault
  fault_iff : ∀ fault, s.targets base commands = .error fault ↔ FirstFault s base 1 commands fault
  length : ∀ ts, s.targets base commands = .ok ts → ts.length = commands.length
  each : ∀ ts, s.targets base commands = .ok ts →
    ∀ (i : Nat) (command : String), commands[i]? = some command →
      ∃ t u, s.target base (i + 1) command = .ok t ∧ ts[i]? = some u ∧
        Sited s base (ts.map s.nameOf) i t u

/-- Every target comes of a command. -/
theorem Batch.origin (batch : Batch s base commands) (found : s.targets base commands = .ok ts)
    {i : Nat} {u : Target} (here : ts[i]? = some u) :
    ∃ command t, commands[i]? = some command ∧ s.target base (i + 1) command = .ok t ∧
      Sited s base (ts.map s.nameOf) i t u := by
  have small : i < commands.length :=
    batch.length ts found ▸ (List.getElem?_eq_some_iff.mp here).1
  have there := List.getElem?_eq_getElem small
  obtain ⟨t, v, given, stands, sited⟩ := batch.each ts found i _ there
  obtain rfl : v = u := Option.some.inj (stands.symm.trans here)
  exact ⟨_, t, there, given, sited⟩

/-! ### Faults -/

theorem FirstFault.later {k : Nat} {command : String} {rest : List String} {fault : DumpFault}
    {t : Target} (first : s.target base k command = .ok t) :
    FirstFault s base k (command :: rest) fault ↔ FirstFault s base (k + 1) rest fault := by
  have shift (i : Nat) : i + (k + 1) = i + 1 + k := by omega
  simp only [FirstFault, shift]
  constructor
  · rintro ⟨i, other, here, failed, before⟩
    cases i with
    | zero =>
        cases here
        rw [Nat.zero_add, first] at failed
        cases failed
    | succ i =>
        exact ⟨i, other, here, failed, fun j less earlier there =>
          before (j + 1) (Nat.succ_lt_succ less) earlier there⟩
  · rintro ⟨i, other, here, failed, before⟩
    refine ⟨i + 1, other, here, failed, fun j less earlier there => ?_⟩
    cases j with
    | zero =>
        cases there
        exact ⟨t, by rw [Nat.zero_add, first]⟩
    | succ j => exact before j (Nat.lt_of_succ_lt_succ less) earlier there

theorem targetsFrom_eq_error {k : Nat} {fault : DumpFault} :
    s.targetsFrom base k commands = .error fault ↔ FirstFault s base k commands fault := by
  induction commands generalizing k with
  | nil => simp [targetsFrom, FirstFault]
  | cons command rest ih =>
      simp only [targetsFrom, bind, Except.bind]
      cases first : s.target base k command with
      | error other =>
          constructor
          · rintro ⟨⟩
            exact ⟨0, command, rfl, by rw [Nat.zero_add, first],
              fun j less => absurd less (Nat.not_lt_zero j)⟩
          · rintro ⟨i, later, here, failed, before⟩
            cases i with
            | zero =>
                cases here
                rw [Nat.zero_add, first] at failed
                cases failed
                rfl
            | succ i =>
                obtain ⟨t, fine⟩ := before 0 (Nat.succ_pos i) command rfl
                rw [Nat.zero_add, first] at fine
                cases fine
      | ok t =>
          rw [FirstFault.later first, ← ih]
          cases s.targetsFrom base (k + 1) rest with
          | error other => rfl
          | ok us => constructor <;> rintro ⟨⟩

/-! ### Places -/

@[simp]
theorem nameOf_placed {delimiter : Char} {all earlier : List Target} (t : Target) :
    s.nameOf (Conflict.placed .text delimiter all earlier t) = s.nameOf t := by
  rw [nameOf, Conflict.placed_label, nameOf]

/-- A rank does not change what a target is called. -/
theorem map_nameOf_renumber {delimiter : Char} {all earlier : List Target} :
    (Conflict.renumber .text delimiter all earlier ts).map s.nameOf = ts.map s.nameOf := by
  induction ts generalizing earlier with
  | nil => rfl
  | cons t rest ih => simp [ih]

theorem directoryName_cases (names : List String) (i : Nat) (name : String) :
    directoryName names i name = name ∨
      ∃ rank, directoryName names i name = Conflict.ranked '-' name rank := by
  unfold directoryName
  split
  · exact .inl rfl
  · exact .inr ⟨_, rfl⟩

theorem isName_directoryName {name : String} (named : Path.IsName name) (names : List String)
    (i : Nat) : Path.IsName (directoryName names i name) := by
  have inner : '-' ≠ '/' := by decide
  rcases directoryName_cases names i name with same | ⟨rank, same⟩
  · rwa [same]
  · rw [same]
    exact Conflict.isName_ranked named inner

/-- The names of a selector contain neither separators nor the delimiter of its ranks. -/
structure Clean (s : Selector) : Prop where
  delimiter : s.normalizer.delimiter = '-'
  no_separator : ∀ name, '/' ∉ (s.normalizer.normalize name).toList
  no_delimiter : ∀ name, '-' ∉ (s.normalizer.normalize name).toList

/-- A target stands where its label says. -/
def Given (s : Selector) (base : Path) (t : Target) : Prop :=
  destination s.normalizer base t.label = .ok t.destination

namespace Clean

variable {t u : Target} {us : List Target} (clean : Clean s)

include clean

theorem isName (given : Given s base t) : Path.IsName (s.nameOf t) := by
  obtain ⟨not_empty, not_current, not_parent⟩ := (destination_eq_ok given).1
  exact ⟨clean.no_separator t.label, not_empty, not_current, not_parent⟩

theorem components (given : Given s base t) :
    t.destination.components = base.components ++ [.name (s.nameOf t)] :=
  components_of_destination given (clean.no_separator t.label)

theorem fileName? (given : Given s base t) : t.destination.fileName? = some (s.nameOf t) :=
  Path.fileName?_eq_some.mpr (by rw [clean.components given, List.getLast?_concat])

theorem takes (given : Given s base t) : Conflict.Takes .text '-' t.destination :=
  ⟨s.nameOf t, clean.fileName? given, clean.no_delimiter t.label⟩

/-- Two targets meet where their names do. -/
theorem same_iff (given : Given s base t) (given' : Given s base u) :
    u.destination.Same t.destination ↔ s.nameOf u = s.nameOf t := by
  rw [Path.Same, clean.components given, clean.components given']
  simp

theorem sharers_eq (given : Given s base t) (all : ∀ u ∈ us, Given s base u) :
    Conflict.sharers us t.destination = (us.map s.nameOf).count (s.nameOf t) := by
  rw [Conflict.sharers, List.count_eq_countP, List.countP_map]
  refine List.countP_congr fun u member => ?_
  simpa using clean.same_iff given (all u member)

/-- A place is a directory name seen from the base, or from the same path after it has been taken
apart. -/
theorem exists_join (given : Given s base t) (all : ∀ u ∈ us, Given s base u) (member : t ∈ us)
    (i : Nat) : ∃ q : Path, q.Same base ∧ (Conflict.placed .text '-' us (us.take i) t).destination =
      q.join (directoryName (us.map s.nameOf) i (s.nameOf t)) := by
  have before : Conflict.sharers (us.take i) t.destination =
      ((us.map s.nameOf).take i).count (s.nameOf t) := by
    rw [← List.map_take]
    exact clean.sharers_eq given fun u taken => all u (List.mem_of_mem_take taken)
  have some_there : 0 < (us.map s.nameOf).count (s.nameOf t) :=
    List.count_pos_iff.mpr (List.mem_map_of_mem member)
  unfold Conflict.placed directoryName
  rw [clean.sharers_eq given all, before]
  split
  · rename_i few
    rw [if_pos (by omega)]
    exact ⟨base, rfl, (destination_eq_ok given).2⟩
  · rename_i several
    rw [if_neg (by omega)]
    have named := clean.fileName? given
    obtain ⟨parent, above, steps⟩ := Path.parent?_of_fileName? named
    refine ⟨parent, ?_, ?_⟩
    · rw [Path.Same, steps, clean.components given, List.dropLast_concat]
    · refine (Conflict.numbered_eq _ named).trans ?_
      rw [Path.withFileName, named, above]
      rfl

theorem site (given : Given s base t) (all : ∀ u ∈ us, Given s base u) (member : t ∈ us)
    (i : Nat) :
    (Conflict.placed .text '-' us (us.take i) t).destination.Same
      (base.join (directoryName (us.map s.nameOf) i (s.nameOf t))) := by
  have usable := isName_directoryName (clean.isName given) (us.map s.nameOf) i
  obtain ⟨q, same, place⟩ := clean.exists_join given all member i
  rw [place, Path.Same, usable.components_join, usable.components_join, same]

/-- No fault comes of moving clean targets apart. -/
theorem targets_eq {own : List Target} (each : s.targetsFrom base 1 commands = .ok own) :
    s.targets base commands = .ok (Conflict.renumber .text '-' own [] own) := by
  refine targets_eq_ok.mpr ⟨own, each, Conflict.resolveIn_eq_ok.mpr ?_⟩
  rw [clean.delimiter]
  exact ⟨fun t member => clean.takes (parts_of_mem each t member).2, rfl⟩

theorem targets_eq_error {fault : DumpFault} :
    s.targets base commands = .error fault ↔ FirstFault s base 1 commands fault := by
  rw [← targetsFrom_eq_error]
  cases each : s.targetsFrom base 1 commands with
  | error other => simp [targets, each, bind, Except.bind]
  | ok own => simp [clean.targets_eq each]

theorem exists_own (found : s.targets base commands = .ok ts) :
    ∃ own, s.targetsFrom base 1 commands = .ok own ∧
      Conflict.renumber .text '-' own [] own = ts := by
  obtain ⟨own, each, -⟩ := targets_eq_ok.mp found
  exact ⟨own, each, Except.ok.inj ((clean.targets_eq each).symm.trans found)⟩

/-- One command that fails alone makes all fail. -/
theorem exists_fault {i : Nat} {command : String} {fault : DumpFault}
    (here : commands[i]? = some command) (fails : s.target base (i + 1) command = .error fault) :
    ∃ other, s.targets base commands = .error other := by
  cases all : s.targets base commands with
  | error other => exact ⟨other, rfl⟩
  | ok ts =>
      obtain ⟨own, each, -⟩ := clean.exists_own all
      obtain ⟨t, -, fine⟩ := (target_of_targetsFrom each).2 i command here
      rw [Nat.add_comm, fails] at fine
      cases fine

theorem sited (found : s.targets base commands = .ok ts) {i : Nat} {command : String}
    (here : commands[i]? = some command) :
    ∃ t u, s.target base (i + 1) command = .ok t ∧ ts[i]? = some u ∧
      Sited s base (ts.map s.nameOf) i t u := by
  obtain ⟨own, each, rfl⟩ := clean.exists_own found
  obtain ⟨t, there, alone⟩ := (target_of_targetsFrom each).2 i command here
  have given := fun u member => (parts_of_mem each u member).2
  have member := List.mem_of_getElem? there
  rw [Nat.add_comm] at alone
  refine ⟨t, Conflict.placed .text '-' own (own.take i) t, alone, ?_, by simp, by simp, by simp, ?_⟩
  · rw [Conflict.getElem?_renumber, there]
    rfl
  · rw [map_nameOf_renumber]
    exact clean.site (given t member) given member i

theorem batch (base : Path) (commands : List String) : Batch s base commands := by
  refine ⟨⟨?_, ?_⟩, fun fault => clean.targets_eq_error, fun ts found => ?_,
    fun ts found i command here => clean.sited found here⟩
  · rintro ⟨fault, failed⟩
    obtain ⟨i, command, here, fails, -⟩ := clean.targets_eq_error.mp failed
    exact ⟨i, command, fault, here, fails⟩
  · rintro ⟨i, command, fault, here, fails⟩
    exact clean.exists_fault here fails
  · obtain ⟨own, each, rfl⟩ := clean.exists_own found
    rw [Conflict.length_renumber, (target_of_targetsFrom each).1]

end Clean

/-! ### Standard selectors -/

/-- The standard configuration but for the length of names and the stem of labels. -/
def sized (maxLength : Nat) (stem : String) : SelectorConfig :=
  { SelectorConfig.standard with maxNameLength := maxLength, queryLabelStem := stem }

theorem clean_of_made {maxLength : Nat} (made : NameNormalizer.Made maxLength
    SelectorConfig.standard.escapeCharacters '_' '-' s.normalizer) : Clean s := by
  have separator : NameNormalizer.Unwanted SelectorConfig.standard.escapeCharacters '-' '/' :=
    .inr (by decide)
  exact ⟨made.delimiter_eq, made.not_mem_normalize separator rfl,
    made.not_mem_normalize (.inl rfl) rfl⟩

theorem clean_of_sized {kind : TargetKind} {maxLength : Nat} {stem : String}
    (made : ofConfig kind (sized maxLength stem) = .ok s) : Clean s := by
  have normal := made_of_ofConfig made
  exact clean_of_made normal

theorem exists_normalizer {maxLength : Nat} (positive : 0 < maxLength) (stem : String) :
    ∃ n, (sized maxLength stem).normalizer = .ok n := by
  have standard : SelectorConfig.standard.escapeCharacters.toList.all Text.isAscii = true := rfl
  have made : NameNormalizer.Made maxLength SelectorConfig.standard.escapeCharacters '_' '-' _ :=
    ⟨positive, fun c unwanted => unwanted.elim (fun same => same ▸ rfl)
      (List.all_eq_true.mp standard c), rfl, rfl⟩
  exact ⟨_, made.make_eq⟩

theorem exists_sized (kind : TargetKind) {maxLength : Nat} (positive : 0 < maxLength)
    (stem : String) : ∃ s, ofConfig kind (sized maxLength stem) = .ok s := by
  obtain ⟨n, normal⟩ := exists_normalizer positive stem
  rw [ofConfig, normal]
  exact ⟨_, rfl⟩

/-- With standard characters many commands give what each gives alone, and ranks. -/
theorem batch_of_sized (kind : TargetKind) {maxLength : Nat} (positive : 0 < maxLength)
    (stem : String) : ∃ s, ofConfig kind (sized maxLength stem) = .ok s ∧
      ∀ base commands, Batch s base commands := by
  obtain ⟨s, made⟩ := exists_sized kind positive stem
  exact ⟨s, made, (clean_of_sized made).batch⟩

/-- Two names become one where they are cut. -/
theorem batch_cut :
    let s := Selector.table ⟨1, NameNormalizer.escapeTable "-\"*/:<>?\\|".toList, '_', '-'⟩
    0 < 1 ∧ (s.targets ⟨"p"⟩ ["ab", "b", "ac"]).toOption =
        some [.table "ab" ⟨"p/a-1"⟩, .table "b" ⟨"p/b"⟩, .table "ac" ⟨"p/a-2"⟩] ∧
      Batch s ⟨"p"⟩ ["ab", "b", "ac"] := by
  obtain ⟨s, made, all⟩ := batch_of_sized .table (show 0 < 1 by decide) "sql"
  obtain rfl : _ = s := Except.ok.inj made
  exact ⟨by decide, by decide +kernel, all _ _⟩

end DumpFlow.Selector
