import DumpFlow.Proofs.Selection.Conflict

/-!
What becomes of a list of targets whose destinations are moved apart, whichever the delimiter and
however their paths are spelled: who is moved, where to, and when no two meet any more.
-/

namespace DumpFlow

namespace Path

variable {p : Path} {name : String} {front : List Component}

/-- A path that ends in a name, with what is in front of it. -/
theorem ends_of_components (h : p.components = front ++ [.name name]) :
    p.fileName? = some name ∧ ∃ above, p.parent? = some above ∧ above.components = front := by
  have named : p.fileName? = some name := fileName?_eq_some.mpr (by simp [h])
  obtain ⟨above, parent, steps⟩ := parent?_of_fileName? named
  exact ⟨named, above, parent, by rw [steps, h, List.dropLast_concat]⟩

end Path

namespace Conflict

/-- Why a destination cannot take a rank. -/
inductive Refuses (spelling : Path.Spelling) (delimiter : Char) (p : Path) : Prop where
  | nameless : p.fileName? = none → Refuses spelling delimiter p
  /-- The file name is not the spelling of any text. -/
  | illegible (raw : String) : p.fileName? = some raw → (∀ name, raw ≠ spelling.write name) →
      Refuses spelling delimiter p
  | delimited (name : String) : p.fileName? = some (spelling.write name) →
      delimiter ∈ name.toList → Refuses spelling delimiter p

/-- Where the target of the given rank among those for `p` goes. -/
inductive Carries (spelling : Path.Spelling) (delimiter : Char) (p : Path) (rank : Nat) (q : Path) :
    Prop where
  /-- The rank is part of the file name. -/
  | within (name : String) (above above' : Path) : delimiter ≠ '/' →
      p.fileName? = some (spelling.write name) →
      q.fileName? = some (spelling.write (name ++ delimiter.toString ++ toString rank)) →
      p.parent? = some above → q.parent? = some above' → above'.Same above →
      Carries spelling delimiter p rank q
  /-- No file name contains a separator, so the rank is a name of its own. -/
  | below (above : Path) : delimiter = '/' → q.fileName? = some (spelling.write (toString rank)) →
      q.parent? = some above → above.Same p → Carries spelling delimiter p rank q

/-- What stands in the place of `t`, the target behind `earlier`. -/
structure Moved (spelling : Path.Spelling) (delimiter : Char) (targets earlier : List Target)
    (t u : Target) : Prop where
  kind : u.kind = t.kind
  label : u.label = t.label
  subject : u.subject = t.subject
  alone : sharers targets t.destination = 1 → u.destination = t.destination
  shared : 2 ≤ sharers targets t.destination →
    Carries spelling delimiter t.destination (sharers earlier t.destination + 1) u.destination

/-- What comes of moving the destinations of `targets` apart. -/
structure Resolution (spelling : Path.Spelling) (delimiter : Char) (targets : List Target) :
    Prop where
  fails_iff : (∃ fault, resolveIn spelling delimiter targets = .error fault) ↔
    ∃ t ∈ targets, Refuses spelling delimiter t.destination
  length : ∀ moved, resolveIn spelling delimiter targets = .ok moved →
    moved.length = targets.length
  each : ∀ moved, resolveIn spelling delimiter targets = .ok moved →
    ∀ (i : Nat) t, targets[i]? = some t →
      ∃ u, moved[i]? = some u ∧ Moved spelling delimiter targets (targets.take i) t u
  /-- Only a separator can bring a target to the place of another. -/
  apart_iff : ∀ moved, resolveIn spelling delimiter targets = .ok moved →
    ((moved.Pairwise fun t u => ¬ t.destination.Same u.destination) ↔
      delimiter ≠ '/' ∨ Clear targets)

variable {spelling : Path.Spelling} {delimiter : Char} {all earlier targets moved : List Target}
  {t : Target} {p : Path}

theorem not_takes : ¬ Takes spelling delimiter p ↔ Refuses spelling delimiter p := by
  constructor
  · intro never
    cases named : p.fileName? with
    | none => exact .nameless named
    | some raw =>
        by_cases legible : ∃ name, raw = spelling.write name
        · obtain ⟨name, rfl⟩ := legible
          exact .delimited name named (by_contra fun plain => never ⟨name, named, plain⟩)
        · exact .illegible raw named (not_exists.mp legible)
  · rintro refuses ⟨name, named, plain⟩
    cases refuses with
    | nameless nowhere => simp [nowhere] at named
    | illegible raw there never => exact never name (by simpa [there] using named)
    | delimited other there within =>
        have spelled : spelling.write other = spelling.write name := by simpa [there] using named
        exact plain (Path.Spelling.write_inj.mp spelled ▸ within)

theorem carries_numbered (takes : Takes spelling delimiter p) (rank : Nat) :
    Carries spelling delimiter p rank (numbered spelling delimiter p rank) := by
  obtain ⟨name, named, -⟩ := takes
  by_cases separator : delimiter = '/'
  · subst separator
    obtain ⟨last, above, parent, steps⟩ := Path.ends_of_components (components_nested rank named)
    exact .below above rfl (by rw [last, write_rank]) parent steps
  · obtain ⟨last, above', parent', steps'⟩ :=
      Path.ends_of_components (components_numbered rank named separator)
    obtain ⟨above, parent, steps⟩ := Path.parent?_of_fileName? named
    exact .within name above above' separator named last parent parent' (steps'.trans steps.symm)

theorem moved_placed (takes : Takes spelling delimiter t.destination) :
    Moved spelling delimiter all earlier t (placed spelling delimiter all earlier t) where
  kind := placed_kind t
  label := placed_label t
  subject := placed_subject t
  alone once := by simp [placed, once]
  shared several := by
    rw [placed, if_neg (Nat.not_lt_of_le several)]
    exact carries_numbered takes _

/-- Every rank is given to one of the targets. -/
theorem exists_of_rank {rank : Nat} (positive : 1 ≤ rank) (bounded : rank ≤ sharers targets p) :
    ∃ (i : Nat) (t : Target), targets[i]? = some t ∧ t.destination.Same p ∧
      sharers (targets.take i) p + 1 = rank := by
  induction targets generalizing rank with
  | nil => exact absurd (positive.trans bounded) (Nat.not_succ_le_zero 0)
  | cons first rest ih =>
      by_cases here : first.destination.Same p
      · by_cases least : rank = 1
        · exact ⟨0, first, rfl, here, by rw [least]; rfl⟩
        · rw [sharers_cons_self first p here] at bounded
          have later : 1 ≤ rank - 1 := by omega
          obtain ⟨i, t, there, same, count⟩ := ih later (by omega)
          refine ⟨i + 1, t, there, same, ?_⟩
          rw [List.take_succ_cons, sharers_cons_self first p here]
          omega
      · have skip (us : List Target) : sharers (first :: us) p = sharers us p :=
          List.countP_cons_of_neg (by simpa using here)
        rw [skip] at bounded
        obtain ⟨i, t, there, same, count⟩ := ih positive bounded
        exact ⟨i + 1, t, there, same, by rw [List.take_succ_cons, skip, count]⟩

theorem not_same_of_pairwise {i j : Nat} {u : Target}
    (apart : moved.Pairwise fun t u => ¬ t.destination.Same u.destination) (other : i ≠ j)
    (there : moved[i]? = some t) (here : moved[j]? = some u) :
    ¬ t.destination.Same u.destination := by
  obtain ⟨i_lt, rfl⟩ := List.getElem?_eq_some_iff.mp there
  obtain ⟨j_lt, rfl⟩ := List.getElem?_eq_some_iff.mp here
  rcases Nat.lt_or_gt_of_ne other with before | after
  · exact List.pairwise_iff_getElem.mp apart i j i_lt j_lt before
  · exact fun same => List.pairwise_iff_getElem.mp apart j i j_lt i_lt after same.symm

/-- Destinations that a separator moved apart were in nobody's way. -/
theorem clear_of_pairwise (takes : ∀ t ∈ targets, Takes spelling '/' t.destination)
    (apart : (renumber spelling '/' targets [] targets).Pairwise fun t u =>
      ¬ t.destination.Same u.destination) : Clear targets := by
  intro t _ u u_in rank ranks alone met
  obtain ⟨shared, positive, bounded⟩ := ranks
  obtain ⟨i, v, there, same, count⟩ := exists_of_rank positive bounded
  obtain ⟨j, here⟩ := List.getElem?_of_mem u_in
  have moved_v : (renumber spelling '/' targets [] targets)[i]? =
      some (placed spelling '/' targets (targets.take i) v) := by
    rw [getElem?_renumber, there]
    rfl
  have moved_u : (renumber spelling '/' targets [] targets)[j]? = some u := by
    rw [getElem?_renumber, here, Option.map_some, placed, if_pos alone]
  have many : ¬ sharers targets v.destination < 2 := by
    rw [sharers_congr same]
    exact Nat.not_lt_of_le shared
  have meets : (placed spelling '/' targets (targets.take i) v).destination.Same u.destination := by
    obtain ⟨name, named, -⟩ := takes v (List.mem_of_getElem? there)
    rw [placed, if_neg many, sharers_congr same, count]
    exact (components_nested rank named).trans (by rw [met, same])
  have other : i ≠ j := by
    rintro rfl
    obtain rfl : v = u := Option.some_inj.mp (there.symm.trans here)
    exact many alone
  exact not_same_of_pairwise apart other moved_v moved_u meets

theorem resolution (spelling : Path.Spelling) (delimiter : Char) (targets : List Target) :
    Resolution spelling delimiter targets where
  fails_iff := by
    have fails : (∃ fault, resolveIn spelling delimiter targets = .error fault) ↔
        firstFault spelling delimiter targets ≠ none := by
      unfold resolveIn
      split <;> simp_all
    rw [fails, ne_eq, firstFault_eq_none]
    simp only [not_forall, not_takes, exists_prop]
  length moved found := by
    rw [← (resolveIn_eq_ok.mp found).2, length_renumber]
  each moved found i t here := by
    obtain ⟨takes, rfl⟩ := resolveIn_eq_ok.mp found
    refine ⟨placed spelling delimiter targets (targets.take i) t, ?_,
      moved_placed (takes t (List.mem_of_getElem? here))⟩
    rw [getElem?_renumber, here]
    rfl
  apart_iff moved found := by
    obtain ⟨takes, rfl⟩ := resolveIn_eq_ok.mp found
    by_cases separator : delimiter = '/'
    · subst separator
      constructor
      · exact fun apart => .inr (clear_of_pairwise takes apart)
      · intro clear
        exact (apart_of_clear takes (clear.resolve_left (not_not_intro rfl))).pairwise rfl
    · exact iff_of_true ((apart_of_inner takes separator).pairwise rfl) (.inl separator)

/-- No character begins with the byte `0xff`. -/
example : resolveIn .bytes '-' [.table "a" ⟨"p/a"⟩, .table "b" ⟨"p/\xff"⟩] =
    .error (.argument (.noFileName ⟨"p/\ufffd"⟩)) :=
  rfl

/-- A separator brings two tables for one place below it, onto a third that was there before. -/
theorem moved_onto_another :
    let targets : List Target := [.table "a" ⟨"p/a"⟩, .table "b" ⟨"p/a"⟩, .table "c" ⟨"p/a/1"⟩]
    let moved : List Target := [.table "a" ⟨"p/a/1"⟩, .table "b" ⟨"p/a/2"⟩, .table "c" ⟨"p/a/1"⟩]
    resolve '/' targets = .ok moved ∧
      ¬ moved.Pairwise fun t u => ¬ t.destination.Same u.destination :=
  ⟨rfl, by decide⟩

end Conflict

end DumpFlow
