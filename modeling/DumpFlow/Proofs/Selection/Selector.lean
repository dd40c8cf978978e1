import DumpFlow.Engine.Basic
import DumpFlow.Selection.Selector
import DumpFlow.Proofs.Naming
import DumpFlow.Proofs.Selection.Conflict

/-!
What a selector selects can be dumped in one run, whatever its names look like and whichever
delimiter ranks them: every target has all its parts, and no two lead to the same place.
-/

namespace DumpFlow

namespace Engine

variable {targets : List Target} {taken left : List Path}

theorem examine_eq_ok {t : Target} :
    examine taken t = .ok left ↔
      (t.label ≠ "" ∧ t.subject ≠ "") ∧ (∀ p ∈ taken, ¬ p.Same t.destination) ∧
        t.destination :: taken = left := by
  unfold examine
  simp only [String.isEmpty_iff, List.any_eq_true, decide_eq_true_eq]
  split
  · simp_all
  · split
    · simp_all
    · split
      · rename_i met
        obtain ⟨p, member, same⟩ := met
        simp only [reduceCtorEq, false_iff, not_and]
        exact fun _ free => absurd same (free p member)
      · simp_all

/-- Of all targets taken one after the other each has its parts, and none meets a place that is
taken before. -/
theorem foldlM_examine_eq_ok :
    (∃ left, targets.foldlM examine taken = .ok left) ↔
      (∀ t ∈ targets, t.label ≠ "" ∧ t.subject ≠ "") ∧
        (∀ t ∈ targets, ∀ p ∈ taken, ¬ p.Same t.destination) ∧
        targets.Pairwise fun t u => ¬ t.destination.Same u.destination := by
  induction targets generalizing taken with
  | nil => simp [pure, Except.pure]
  | cons t rest ih =>
      have first : (∃ left, (t :: rest).foldlM examine taken = .ok left) ↔
          ((t.label ≠ "" ∧ t.subject ≠ "") ∧ ∀ p ∈ taken, ¬ p.Same t.destination) ∧
            ∃ left, rest.foldlM examine (t.destination :: taken) = .ok left := by
        rw [List.foldlM_cons]
        cases examined : examine taken t with
        | error fault =>
            have never :
                ¬ ((t.label ≠ "" ∧ t.subject ≠ "") ∧ ∀ p ∈ taken, ¬ p.Same t.destination) :=
              fun fine => by simp [examine_eq_ok.mpr ⟨fine.1, fine.2, rfl⟩] at examined
            simp only [never, false_and, iff_false]
            exact fun ⟨_, failed⟩ => nomatch failed
        | ok next =>
            obtain ⟨parts, free, rfl⟩ := examine_eq_ok.mp examined
            exact (and_iff_right ⟨parts, free⟩).symm
      rw [first, ih]
      simp only [List.forall_mem_cons, List.pairwise_cons, forall_and]
      tauto

/-- A run takes targets with all their parts and with a place for each of them. -/
theorem validate_eq_ok :
    validate targets = .ok () ↔
      (∀ t ∈ targets, t.label ≠ "" ∧ t.subject ≠ "") ∧
        targets.Pairwise fun t u => ¬ t.destination.Same u.destination := by
  have all : (∃ left, targets.foldlM examine [] = .ok left) ↔ _ := foldlM_examine_eq_ok
  simp only [List.not_mem_nil, false_implies, implies_true, true_and] at all
  rw [← all]
  unfold validate
  split <;> simp_all

end Engine

namespace LabeledQuery

/-- A label that has begun is not empty. -/
def Search.Begun : Search → Prop
  | .ahead => True
  | .body label | .padding label => label ≠ []

theorem search_label {delimiter : Char} {state : Search} {cs label rest : List Char}
    (begun : state.Begun) (found : search delimiter state cs = .label label rest) : label ≠ [] := by
  fun_induction search delimiter state cs with
  | case1 | case4 | case5 | case9 | case12 | case13 => cases found
  | case2 _ _ _ ih => exact ih trivial found
  | case3 _ _ _ ih | case7 _ _ _ _ ih => exact ih (List.cons_ne_nil _ _) found
  | case6 _ _ _ _ ih | case10 _ _ _ _ ih => exact ih begun found
  | case8 | case11 =>
      cases found
      exact mt List.reverse_eq_nil_iff.mp begun

theorem parse_eq_ok {command : String} {delimiter : Char} {query : LabeledQuery}
    (h : parse command delimiter = .ok query) :
    query.statement ≠ "" ∧ ∀ label, query.label = some label → label ≠ "" := by
  unfold parse at h
  split at h
  · cases h
  · rename_i label rest found
    split at h
    · cases h
    · rename_i some_text
      cases h
      have ahead : Search.Begun .ahead := trivial
      have some_label := search_label ahead found
      simp_all
  · split at h
    · cases h
    · rename_i some_text
      cases h
      simp_all

end LabeledQuery

namespace Selector

variable {s : Selector} {n : NameNormalizer} {base : Path} {commands : List String}
  {ts : List Target}

theorem destination_eq_ok {name : String} {place : Path} (h : destination n base name = .ok place) :
    (n.normalize name ≠ "" ∧ n.normalize name ≠ "." ∧ n.normalize name ≠ "..") ∧
      place = base.join (n.normalize name) := by
  unfold destination at h
  simp only at h
  split at h
  · cases h
  · rename_i usable
    cases h
    exact ⟨by simpa only [not_or] using usable, rfl⟩

/-- A normalized name without a separator is one step below the base. -/
theorem components_of_destination {name : String} {place : Path}
    (h : destination n base name = .ok place) (plain : '/' ∉ (n.normalize name).toList) :
    place.components = base.components ++ [.name (n.normalize name)] := by
  obtain ⟨⟨not_empty, not_current, not_parent⟩, rfl⟩ := destination_eq_ok h
  have usable : Path.IsName (n.normalize name) := ⟨plain, not_empty, not_current, not_parent⟩
  exact usable.components_join base

/-- What one command gives has all its parts, and its label names the place. -/
theorem parts_of_target {position : Nat} {command : String} {t : Target}
    (h : s.target base position command = .ok t) :
    (t.label ≠ "" ∧ t.subject ≠ "") ∧
      destination s.normalizer base t.label = .ok t.destination := by
  cases s with
  | table n =>
      simp only [target, tableTarget] at h
      split at h
      · cases h
      · rename_i some_name
        cases placed : destination n base (Text.trim command) with
        | error fault =>
            rw [placed] at h
            cases h
        | ok place =>
            rw [placed] at h
            cases h
            exact ⟨⟨some_name, some_name⟩, placed⟩
  | query n stem =>
      simp only [target, queryTarget] at h
      cases parsed : LabeledQuery.parse command LabeledQuery.standardDelimiter with
      | error fault =>
          rw [parsed] at h
          cases h
      | ok query =>
          rw [parsed] at h
          obtain ⟨some_statement, some_label⟩ := LabeledQuery.parse_eq_ok parsed
          simp only [bind, Except.bind] at h
          split at h
          · cases h
          · rename_i place placed
            cases h
            refine ⟨⟨?_, some_statement⟩, placed⟩
            cases given : query.label with
            | some label => exact some_label label given
            | none =>
                have some_number := (Conflict.isName_rank position).not_empty
                simp_all [Target.query]

/-- The targets of commands, each at its place. -/
theorem target_of_targetsFrom {k : Nat} (h : s.targetsFrom base k commands = .ok ts) :
    ts.length = commands.length ∧
      ∀ i (command : String), commands[i]? = some command →
        ∃ t, ts[i]? = some t ∧ s.target base (k + i) command = .ok t := by
  induction commands generalizing k ts with
  | nil =>
      cases h
      simp
  | cons command rest ih =>
      simp only [targetsFrom, bind, Except.bind] at h
      split at h
      · cases h
      · rename_i t first
        split at h
        · cases h
        · rename_i us later
          cases h
          obtain ⟨lengths, each⟩ := ih later
          refine ⟨congrArg (· + 1) lengths, fun i other here => ?_⟩
          cases i with
          | zero =>
              cases here
              exact ⟨t, rfl, first⟩
          | succ i =>
              rw [show k + (i + 1) = k + 1 + i by omega]
              exact each i other here

theorem parts_of_mem {k : Nat} (h : s.targetsFrom base k commands = .ok ts) :
    ∀ t ∈ ts, (t.label ≠ "" ∧ t.subject ≠ "") ∧
      destination s.normalizer base t.label = .ok t.destination := by
  obtain ⟨lengths, at_place⟩ := target_of_targetsFrom h
  intro t member
  obtain ⟨i, here⟩ := List.mem_iff_getElem?.mp member
  obtain ⟨command, there⟩ : ∃ command, commands[i]? = some command := by
    have small := (List.getElem?_eq_some_iff.mp here).1
    exact ⟨_, List.getElem?_eq_getElem (lengths ▸ small)⟩
  obtain ⟨u, same_place, made_u⟩ := at_place i command there
  obtain rfl : t = u := Option.some_inj.mp (here.symm.trans same_place)
  exact parts_of_target made_u

/-- The targets of all commands are moved apart once each of them has its own. -/
theorem targets_eq_ok : s.targets base commands = .ok ts ↔
    ∃ own, s.targetsFrom base 1 commands = .ok own ∧
      Conflict.resolve s.normalizer.delimiter own = .ok ts := by
  simp only [targets, bind, Except.bind]
  cases s.targetsFrom base 1 commands with
  | error fault => simp
  | ok own => simp

/-- What a selector gives for its commands. -/
structure Selected (s : Selector) (base : Path) (commands : List String) (ts : List Target) :
    Prop where
  one_each : ts.length = commands.length
  /-- Only the destination may differ from what the command alone gives. -/
  faithful : ∀ i (command : String), commands[i]? = some command →
    ∃ t, s.target base (i + 1) command = .ok t ∧
      ∃ u, ts[i]? = some u ∧ u.kind = t.kind ∧ u.label = t.label ∧ u.subject = t.subject
  complete : ∀ t ∈ ts, t.label ≠ "" ∧ t.subject ≠ ""
  apart : ts.Pairwise fun t u => ¬ t.destination.Same u.destination
  accepted : Engine.validate ts = .ok ()

theorem made_of_ofConfig {kind : TargetKind} {config : SelectorConfig}
    (made : ofConfig kind config = .ok s) :
    NameNormalizer.Made config.maxNameLength config.escapeCharacters config.replacement
      config.delimiter s.normalizer := by
  unfold ofConfig at made
  cases normal : config.normalizer with
  | error fault =>
      rw [normal] at made
      cases made
  | ok n =>
      rw [normal] at made
      cases made
      cases kind <;> exact NameNormalizer.made_of_make normal

/-- The ranks take the destinations below one base apart, whichever the delimiter. -/
theorem apart_of_selected {kind : TargetKind} {config : SelectorConfig}
    (made : ofConfig kind config = .ok s)
    (takes : ∀ t ∈ ts, Conflict.Takes .text s.normalizer.delimiter t.destination)
    (given : ∀ t ∈ ts, destination s.normalizer base t.label = .ok t.destination) :
    Conflict.Apart .text s.normalizer.delimiter ts := by
  have normal := made_of_ofConfig made
  by_cases separator : s.normalizer.delimiter = '/'
  · have unwanted : NameNormalizer.Unwanted config.escapeCharacters config.delimiter '/' :=
      .inl (separator.symm.trans normal.delimiter_eq)
    rw [separator] at takes ⊢
    refine Conflict.apart_of_depth (base.components.length + 1) takes fun t member => ?_
    have plain := normal.not_mem_normalize unwanted rfl t.label
    rw [components_of_destination (given t member) plain, List.length_append,
      List.length_singleton]
  · exact Conflict.apart_of_inner takes separator

/-- Whatever is selected can be dumped in one run. -/
theorem selected {kind : TargetKind} {config : SelectorConfig} (made : ofConfig kind config = .ok s)
    (found : s.targets base commands = .ok ts) : Selected s base commands ts := by
  obtain ⟨own, each, resolved⟩ := targets_eq_ok.mp found
  obtain ⟨lengths, at_place⟩ := target_of_targetsFrom each
  obtain ⟨takes, moved⟩ := Conflict.resolveIn_eq_ok.mp resolved
  have from_command := parts_of_mem each
  have complete : ∀ u ∈ ts, u.label ≠ "" ∧ u.subject ≠ "" := by
    intro u member
    obtain ⟨front, t, back, split, rfl⟩ := Conflict.placed_of_mem (moved ▸ member)
    rw [Conflict.placed_label, Conflict.placed_subject]
    exact (from_command t (by simp [split])).1
  have apart : ts.Pairwise fun t u => ¬ t.destination.Same u.destination := by
    rw [← moved]
    exact (apart_of_selected made takes fun t member => (from_command t member).2).pairwise rfl
  refine ⟨?_, fun i command here => ?_, complete, apart,
    Engine.validate_eq_ok.mpr ⟨complete, apart⟩⟩
  · rw [← moved, Conflict.length_renumber, lengths]
  · obtain ⟨t, there, made_t⟩ := at_place i command here
    rw [Nat.add_comm] at made_t
    refine ⟨t, made_t, Conflict.placed .text s.normalizer.delimiter own (own.take i) t, ?_, ?_⟩
    · rw [← moved, Conflict.getElem?_renumber, there]
      rfl
    · simp

/-- A separator ranks two tables below their common place, next to a third. -/
theorem selected_nested :
    let s := Selector.table ⟨3, NameNormalizer.escapeTable ['/', '/'], '_', '/'⟩
    let ts : List Target := [.table "a" ⟨"p/a/1"⟩, .table "A" ⟨"p/a/2"⟩, .table "b" ⟨"p/b"⟩]
    ofConfig .table ⟨3, "/", '_', '/', "sql"⟩ = .ok s ∧ s.targets ⟨"p"⟩ ["a", "A", "b"] = .ok ts ∧
      Selected s ⟨"p"⟩ ["a", "A", "b"] ts := by
  have made : ofConfig .table ⟨3, "/", '_', '/', "sql"⟩ =
    .ok (.table ⟨3, NameNormalizer.escapeTable ['/', '/'], '_', '/'⟩) := rfl
  exact ⟨made, rfl, selected made rfl⟩

end Selector

end DumpFlow
