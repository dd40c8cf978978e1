import DumpFlow.Proofs.Selection.Selector

/-!
Which selectors keep destinations below the base directory. A name of more than one character can
lead out of it, or stand for a place of its own, unless separators are replaced in names; with
separators replaced, a destination is one step below the base, or two where a separator ranks it.
-/

namespace DumpFlow

namespace Path

variable {base p : Path} {name : String}

/-- The path leads to the base and on by names alone. -/
def Inside (base p : Path) : Prop :=
  ∃ names : List String, names ≠ [] ∧ p.components = base.components ++ names.map .name

theorem Inside.step (h : p.components = base.components ++ [.name name]) : Inside base p :=
  ⟨[name], List.cons_ne_nil _ _, h⟩

theorem Inside.below {q : Path} (h : Inside base p)
    (below : q.components = p.components ++ [.name name]) : Inside base q := by
  obtain ⟨names, -, steps⟩ := h
  exact ⟨names ++ [name], by simp, by simp [below, steps]⟩

theorem Inside.beside {q : Path} (h : Inside base p)
    (beside : q.components = p.components.dropLast ++ [.name name]) : Inside base q := by
  obtain ⟨names, some_names, steps⟩ := h
  refine ⟨names.dropLast ++ [name], by simp, ?_⟩
  have some_steps : names.map Component.name ≠ [] := by simpa using some_names
  rw [beside, steps, List.dropLast_append_of_ne_nil some_steps, List.map_append, List.map_dropLast]
  simp

end Path

namespace Conflict

variable {delimiter : Char} {all earlier : List Target} {base : Path} {t : Target}

/-- A rank leads no one out of the base. -/
theorem inside_placed (takes : Takes .text delimiter t.destination)
    (inside : Path.Inside base t.destination) :
    Path.Inside base (placed .text delimiter all earlier t).destination := by
  unfold placed
  split
  · exact inside
  · obtain ⟨name, named, -⟩ := takes
    by_cases separator : delimiter = '/'
    · subst separator
      exact inside.below (components_nested _ named)
    · exact inside.beside (components_numbered _ named separator)

theorem resolve_singleton (takes : Takes .text delimiter t.destination) :
    resolve delimiter [t] = .ok [t] := by
  refine resolveIn_eq_ok.mpr ⟨by simpa using takes, ?_⟩
  have alone : sharers [t] t.destination < 2 := Nat.lt_succ_of_le List.countP_le_length
  rw [renumber_cons, placed, if_pos alone, renumber_nil]

end Conflict

namespace Selector

variable {s : Selector} {base : Path} {commands : List String} {ts : List Target}
  {kind : TargetKind} {config : SelectorConfig}

/-- What keeps separators out of usable names. -/
def Confined (config : SelectorConfig) : Prop :=
  NameNormalizer.Unwanted config.escapeCharacters config.delimiter '/' ∨ config.maxNameLength = 1

/-- A name of one character that is a separator leads to the root, which cannot take a rank. -/
theorem plain_of_confined (made : ofConfig kind config = .ok s) (confined : Confined config)
    {t : Target} (given : destination s.normalizer base t.label = .ok t.destination)
    (takes : Conflict.Takes .text s.normalizer.delimiter t.destination) :
    '/' ∉ (s.normalizer.normalize t.label).toList := by
  have normal := made_of_ofConfig made
  rcases confined with unwanted | one
  · exact normal.not_mem_normalize unwanted rfl t.label
  · intro separator
    have short : (s.normalizer.normalize t.label).toList.length ≤ 1 := by
      rw [String.length_toList, NameNormalizer.length_normalize, normal.maxLength_eq, one]
      exact Nat.min_le_left ..
    obtain ⟨c, only⟩ : ∃ c, (s.normalizer.normalize t.label).toList = [c] :=
      List.length_eq_one_iff.mp (Nat.le_antisymm short (List.length_pos_of_mem separator))
    obtain rfl : '/' = c := by simpa [only] using separator
    have root : t.destination = ⟨"/"⟩ := by
      rw [(destination_eq_ok given).2, Path.join, only]
      exact congrArg Path.mk (String.toList_inj.mp only)
    obtain ⟨name, named, -⟩ := takes
    rw [root] at named
    cases named

theorem inside_of_confined (made : ofConfig kind config = .ok s) (confined : Confined config)
    (found : s.targets base commands = .ok ts) : ∀ t ∈ ts, Path.Inside base t.destination := by
  obtain ⟨own, each, resolved⟩ := targets_eq_ok.mp found
  obtain ⟨takes, moved⟩ := Conflict.resolveIn_eq_ok.mp resolved
  intro u member
  obtain ⟨front, t, back, split, rfl⟩ := Conflict.placed_of_mem (moved ▸ member)
  have t_in : t ∈ own := by simp [split]
  have given := (parts_of_mem each t t_in).2
  have plain := plain_of_confined made confined given (takes t t_in)
  exact Conflict.inside_placed (takes t t_in) (.step (components_of_destination given plain))

/-- A name that every normalizer for two characters keeps as it is if it keeps separators. -/
def wayOut : String := "/é"

theorem normalize_wayOut (made : ofConfig kind config = .ok s) (loose : ¬ Confined config) :
    s.normalizer.normalize wayOut = wayOut := by
  have normal := made_of_ofConfig made
  have separator : ¬ NameNormalizer.Unwanted config.escapeCharacters config.delimiter '/' :=
    fun unwanted => loose (.inl unwanted)
  have foreign : ¬ NameNormalizer.Unwanted config.escapeCharacters config.delimiter 'é' :=
    fun unwanted => nomatch normal.ascii _ unwanted
  refine (NameNormalizer.normalize_eq_self ?_).mpr fun c member => ?_
  · have positive := normal.positive
    have long : config.maxNameLength ≠ 1 := fun one => loose (.inr one)
    rw [normal.maxLength_eq, show wayOut.length = 2 from rfl]
    omega
  · rcases List.mem_pair.mp (show c ∈ ['/', 'é'] from member) with rfl | rfl
    · exact normal.mapChar_self ⟨by decide, by decide, by decide⟩ separator (by decide +kernel)
    · exact normal.mapChar_self ⟨by decide, by decide, by decide⟩ foreign (by decide +kernel)

theorem exists_target_wayOut (base : Path) (made : ofConfig kind config = .ok s)
    (loose : ¬ Confined config) :
    ∃ command t, s.target base 1 command = .ok t ∧ t.destination = ⟨wayOut⟩ := by
  have placed : destination s.normalizer base wayOut = .ok ⟨wayOut⟩ := by
    rw [destination, normalize_wayOut made loose]
    rfl
  cases s with
  | table n =>
      refine ⟨wayOut, .table wayOut ⟨wayOut⟩, ?_, rfl⟩
      have name : Text.trim wayOut = wayOut := rfl
      have some_name : wayOut ≠ "" := by decide
      have placed : destination n base wayOut = .ok ⟨wayOut⟩ := placed
      simp only [target, tableTarget, name, if_neg some_name, placed]
      rfl
  | query n stem =>
      refine ⟨"/é:x", .query wayOut "x" ⟨wayOut⟩, ?_, rfl⟩
      have parsed : LabeledQuery.parse "/é:x" LabeledQuery.standardDelimiter =
          .ok ⟨some wayOut, "x"⟩ := rfl
      have placed : destination n base wayOut = .ok ⟨wayOut⟩ := placed
      simp only [target, queryTarget, parsed, bind, Except.bind, Option.getD_some, placed]
      rfl

theorem not_inside_wayOut : ¬ Path.Inside ⟨"p"⟩ ⟨wayOut⟩ := by
  rintro ⟨names, -, steps⟩
  have start : (⟨wayOut⟩ : Path).components = [.root, .name "é"] := rfl
  have base : (⟨"p"⟩ : Path).components = [.name "p"] := rfl
  rw [start, base] at steps
  cases steps

/-- Destinations stay below the base exactly where separators are replaced, or where a name is one
character long. -/
theorem inside_iff_confined (made : ofConfig kind config = .ok s) :
    (∀ base commands ts, s.targets base commands = .ok ts →
      ∀ t ∈ ts, Path.Inside base t.destination) ↔ Confined config := by
  constructor
  · intro inside
    by_contra loose
    obtain ⟨command, t, alone, there⟩ := exists_target_wayOut ⟨"p"⟩ made loose
    have foreign : s.normalizer.delimiter ∉ ['é'] := by
      have normal := made_of_ofConfig made
      rw [normal.delimiter_eq, List.mem_singleton]
      intro same
      cases normal.ascii _ (.inl same.symm)
    have takes : Conflict.Takes .text s.normalizer.delimiter t.destination := by
      rw [there]
      exact ⟨"é", rfl, foreign⟩
    have each : s.targetsFrom ⟨"p"⟩ 1 [command] = .ok [t] := by
      simp only [targetsFrom, alone, bind, Except.bind]
      rfl
    have found : s.targets ⟨"p"⟩ [command] = .ok [t] :=
      targets_eq_ok.mpr ⟨[t], each, Conflict.resolve_singleton takes⟩
    exact not_inside_wayOut (there ▸ inside _ _ _ found t (List.mem_singleton_self t))
  · exact fun confined base commands ts found => inside_of_confined made confined found

theorem inside_standard :
    let s := Selector.table ⟨100, NameNormalizer.escapeTable "-\"*/:<>?\\|".toList, '_', '-'⟩
    ofConfig .table .standard = .ok s ∧ ∀ base commands ts, s.targets base commands = .ok ts →
      ∀ t ∈ ts, Path.Inside base t.destination := by
  have made : ofConfig .table .standard = .ok (Selector.table
      ⟨100, NameNormalizer.escapeTable "-\"*/:<>?\\|".toList, '_', '-'⟩) := rfl
  exact ⟨made, (inside_iff_confined made).mpr (.inl (.inr (by decide)))⟩

/-- Where separators are not replaced, a table name can lead out of the base. -/
theorem parent_of_base :
    ∃ s, ofConfig .table ⟨100, "", '_', '-', "sql"⟩ = .ok s ∧
      s.targets ⟨"base"⟩ ["../x"] = .ok [.table "../x" ⟨"base/../x"⟩] ∧
      ¬ Path.Inside ⟨"base"⟩ ⟨"base/../x"⟩ := by
  refine ⟨_, rfl, rfl, ?_⟩
  rintro ⟨names, -, steps⟩
  have left : (⟨"base/../x"⟩ : Path).components = [.name "base", .parent, .name "x"] := rfl
  have base : (⟨"base"⟩ : Path).components = [.name "base"] := rfl
  rw [left, base] at steps
  cases names with
  | nil => cases steps
  | cons name rest => cases steps

end Selector

end DumpFlow
