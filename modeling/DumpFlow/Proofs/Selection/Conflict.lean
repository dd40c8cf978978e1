import DumpFlow.Selection.Conflict
import DumpFlow.Proofs.Spelling

/-!
The ranks behind file names take all destinations apart: no destination with a rank meets one
without, and none meets one of another group. For most delimiters that is read off the file names
alone; a separator in the place of the delimiter makes the rank a name of its own, and then no
destination may lie where a rank brings another.
-/

namespace DumpFlow.Conflict

variable {spelling : Path.Spelling} {delimiter : Char} {all earlier targets : List Target}

/-- A destination that can take a rank. -/
def Takes (spelling : Path.Spelling) (delimiter : Char) (p : Path) : Prop :=
  ∃ name, p.fileName? = some (spelling.write name) ∧ delimiter ∉ name.toList

theorem checkFileName_eq_ok {p : Path} {name : String} :
    checkFileName spelling delimiter p = .ok name ↔
      p.fileName? = some (spelling.write name) ∧ delimiter ∉ name.toList := by
  rw [← Path.Spelling.fileName?_eq_some]
  unfold checkFileName
  split
  · rename_i none_there
    simp [none_there]
  · rename_i there
    split
    · rename_i within
      simp only [there, reduceCtorEq, Option.some.injEq, false_iff, not_and]
      rintro rfl
      exact not_not_intro within
    · rename_i without
      simp only [there, Except.ok.injEq, Option.some.injEq, iff_self_and]
      rintro rfl
      exact without

theorem firstFault_eq_none :
    firstFault spelling delimiter targets = none ↔
      ∀ t ∈ targets, Takes spelling delimiter t.destination := by
  rw [firstFault, List.findSome?_eq_none_iff]
  refine forall₂_congr fun t _ => ?_
  cases checked : checkFileName spelling delimiter t.destination with
  | error fault =>
      simp only [reduceCtorEq, false_iff]
      rintro ⟨name, takes⟩
      simp [checkFileName_eq_ok.mpr takes] at checked
  | ok name =>
      simp only [true_iff]
      exact ⟨name, checkFileName_eq_ok.mp checked⟩

theorem resolveIn_eq_ok {moved : List Target} :
    resolveIn spelling delimiter targets = .ok moved ↔
      (∀ t ∈ targets, Takes spelling delimiter t.destination) ∧
        renumber spelling delimiter targets [] targets = moved := by
  rw [← firstFault_eq_none]
  unfold resolveIn
  split <;> simp_all

/-- The target that stands in the place of `t`. -/
def placed (spelling : Path.Spelling) (delimiter : Char) (all earlier : List Target) (t : Target) :
    Target :=
  if sharers all t.destination < 2 then t
  else
    t.withDestination
      (numbered spelling delimiter t.destination (sharers earlier t.destination + 1))

@[simp]
theorem placed_kind (t : Target) : (placed spelling delimiter all earlier t).kind = t.kind := by
  unfold placed
  split <;> rfl

@[simp]
theorem placed_label (t : Target) : (placed spelling delimiter all earlier t).label = t.label := by
  unfold placed
  split <;> rfl

@[simp]
theorem placed_subject (t : Target) :
    (placed spelling delimiter all earlier t).subject = t.subject := by
  unfold placed
  split <;> rfl

@[simp]
theorem renumber_nil : renumber spelling delimiter all earlier [] = [] :=
  rfl

@[simp]
theorem renumber_cons (t : Target) :
    renumber spelling delimiter all earlier (t :: targets) =
      placed spelling delimiter all earlier t ::
        renumber spelling delimiter all (earlier ++ [t]) targets :=
  rfl

theorem length_renumber :
    (renumber spelling delimiter all earlier targets).length = targets.length := by
  induction targets generalizing earlier with
  | nil => rfl
  | cons t rest ih => simp [ih]

theorem getElem?_renumber (i : Nat) :
    (renumber spelling delimiter all earlier targets)[i]? =
      targets[i]?.map (placed spelling delimiter all (earlier ++ targets.take i)) := by
  induction targets generalizing earlier i with
  | nil => simp
  | cons t rest ih =>
      cases i with
      | zero => simp
      | succ i => simp [ih]

theorem placed_of_mem {u : Target} (member : u ∈ renumber spelling delimiter all earlier targets) :
    ∃ front t back, targets = front ++ t :: back ∧
      u = placed spelling delimiter all (earlier ++ front) t := by
  obtain ⟨i, there⟩ := List.mem_iff_getElem?.mp member
  rw [getElem?_renumber] at there
  obtain ⟨t, here, rfl⟩ := Option.map_eq_some_iff.mp there
  obtain ⟨small, rfl⟩ := List.getElem?_eq_some_iff.mp here
  refine ⟨targets.take i, targets[i], targets.drop (i + 1), ?_, rfl⟩
  rw [← List.drop_eq_getElem_cons small, List.take_append_drop]

theorem sharers_congr {p q : Path} (same : p.Same q) : sharers targets p = sharers targets q := by
  have alike (t : Target) : t.destination.Same p ↔ t.destination.Same q :=
    ⟨fun there => there.trans same, fun there => there.trans same.symm⟩
  simp only [sharers, alike]

theorem sharers_append (front back : List Target) (p : Path) :
    sharers (front ++ back) p = sharers front p + sharers back p :=
  List.countP_append ..

theorem sharers_cons_self (t : Target) (p : Path) (same : t.destination.Same p) :
    sharers (t :: targets) p = sharers targets p + 1 :=
  List.countP_cons_of_pos (by simpa using same)

/-- The ranks that targets for `p` get: none if there is one only. -/
def Ranks (targets : List Target) (p : Path) (rank : Nat) : Prop :=
  2 ≤ sharers targets p ∧ 1 ≤ rank ∧ rank ≤ sharers targets p

/-- Which ranks keep destinations apart. -/
structure Apart (spelling : Path.Spelling) (delimiter : Char) (targets : List Target) : Prop where
  inj : ∀ t ∈ targets, ∀ u ∈ targets, ∀ i j,
    (numbered spelling delimiter t.destination i).Same
        (numbered spelling delimiter u.destination j) →
      t.destination.Same u.destination ∧ i = j
  fresh : ∀ t ∈ targets, ∀ u ∈ targets, ∀ rank, Ranks targets t.destination rank →
    sharers targets u.destination < 2 →
      ¬ (numbered spelling delimiter t.destination rank).Same u.destination

theorem ranks_of_split {front back : List Target} {t : Target} (place : all = front ++ t :: back)
    (shared : 2 ≤ sharers all t.destination) :
    Ranks all t.destination (sharers front t.destination + 1) := by
  have counted := sharers_append front (t :: back) t.destination
  rw [← place, sharers_cons_self t t.destination rfl] at counted
  exact ⟨shared, Nat.succ_pos _, by omega⟩

/-- Of two targets for one place the later one has more before it. -/
theorem sharers_of_same {front between back : List Target} {t u : Target}
    (place : all = front ++ t :: (between ++ u :: back))
    (same : t.destination.Same u.destination) :
    sharers front t.destination < sharers (front ++ t :: between) u.destination ∧
      2 ≤ sharers all t.destination := by
  have same_t : t.destination.Same t.destination := rfl
  have from_t (rest : List Target) :
      sharers (t :: rest) t.destination = sharers rest t.destination + 1 :=
    sharers_cons_self t t.destination same_t
  have from_u : sharers (u :: back) t.destination = sharers back t.destination + 1 :=
    sharers_cons_self u t.destination same.symm
  rw [place, ← sharers_congr same, sharers_append, sharers_append, from_t, from_t, sharers_append,
    from_u]
  omega

/-- A target meets none of those behind it. -/
theorem Apart.placed_ne (apart : Apart spelling delimiter all) {front between back : List Target}
    {t u : Target} (place : all = front ++ t :: (between ++ u :: back)) :
    ¬ (placed spelling delimiter all front t).destination.Same
      (placed spelling delimiter all (front ++ t :: between) u).destination := by
  have t_in : t ∈ all := by simp [place]
  have u_in : u ∈ all := by simp [place]
  have place' : all = (front ++ t :: between) ++ u :: back := by simp [place]
  intro same
  unfold placed at same
  split at same
  · rename_i alone
    split at same
    · have both := (sharers_of_same place same).2
      omega
    · rename_i shared
      have ranks := ranks_of_split place' (Nat.le_of_not_lt shared)
      exact apart.fresh u u_in t t_in _ ranks alone same.symm
  · rename_i shared
    split at same
    · rename_i alone
      have ranks := ranks_of_split place (Nat.le_of_not_lt shared)
      exact apart.fresh t t_in u u_in _ ranks alone same
    · obtain ⟨shared, ranks⟩ := apart.inj t t_in u u_in _ _ same
      have fewer := (sharers_of_same place shared).1
      omega

theorem Apart.pairwise (apart : Apart spelling delimiter all) (place : all = earlier ++ targets) :
    (renumber spelling delimiter all earlier targets).Pairwise fun t u =>
      ¬ t.destination.Same u.destination := by
  induction targets generalizing earlier with
  | nil => exact List.Pairwise.nil
  | cons t rest ih =>
      rw [renumber_cons]
      refine List.pairwise_cons.mpr ⟨fun u member => ?_, ih (by simp [place])⟩
      obtain ⟨between, v, back, split, rfl⟩ := placed_of_mem member
      rw [split] at place
      simpa using apart.placed_ne place

/-- A name with a delimiter and a rank behind it. -/
def ranked (delimiter : Char) (name : String) (rank : Nat) : String :=
  name ++ delimiter.toString ++ toString rank

theorem toList_ranked (name : String) (rank : Nat) :
    (ranked delimiter name rank).toList =
      name.toList ++ delimiter :: (toString rank).toList := by
  simp [ranked, Char.toString]

theorem not_mem_rank {c : Char} (rank : Nat) (other : c.isDigit = false) :
    c ∉ (toString rank).toList := by
  rw [Nat.toString_eq_repr, Nat.toList_repr]
  intro member
  have digit := Nat.isDigit_of_mem_toDigits (by decide) (by decide) member
  simp [digit] at other

theorem digit_of_mem_rank {c : Char} {rank : Nat} (member : c ∈ (toString rank).toList) :
    48 ≤ c.toNat ∧ c.toNat ≤ 57 := by
  have digit : c.isDigit = true := by
    by_contra other
    exact not_mem_rank rank (by simpa using other) member
  simp only [Char.isDigit, Bool.and_eq_true, decide_eq_true_eq, UInt32.le_iff_toNat_le] at digit
  exact digit

theorem rank_ne_nil (rank : Nat) : (toString rank).toList ≠ [] := by
  rw [Nat.toString_eq_repr, Nat.toList_repr]
  exact Nat.toDigits_ne_nil

theorem rank_inj {i j : Nat} (same : toString i = toString j) : i = j := by
  have digits := congrArg String.toList same
  rw [Nat.toString_eq_repr, Nat.toString_eq_repr, Nat.toList_repr, Nat.toList_repr] at digits
  have numbers := congrArg (Nat.ofDigitChars 10 · 0) digits
  simpa only [Nat.ofDigitChars_ten_toDigits] using numbers

theorem isName_rank (rank : Nat) : Path.IsName (toString rank) := by
  have no_dot : '.' ∉ (toString rank).toList := not_mem_rank rank (by decide)
  exact {
    plain := not_mem_rank rank (by decide)
    not_empty := fun same => rank_ne_nil rank (by simp [same])
    not_current := fun same => no_dot (by simp [same])
    not_parent := fun same => no_dot (by simp [same]) }

theorem isName_ranked {name : String} {rank : Nat} (h : Path.IsName name)
    (inner : delimiter ≠ '/') : Path.IsName (ranked delimiter name rank) := by
  have some_name : 0 < name.toList.length :=
    List.length_pos_iff.mpr (mt String.toList_eq_nil_iff.mp h.not_empty)
  have some_rank : 0 < (toString rank).toList.length := List.length_pos_iff.mpr (rank_ne_nil rank)
  have long : 3 ≤ (ranked delimiter name rank).toList.length := by
    rw [toList_ranked, List.length_append, List.length_cons]
    omega
  have plain_rank : '/' ∉ (toString rank).toList := not_mem_rank rank (by decide)
  have plain : '/' ∉ (ranked delimiter name rank).toList := by
    rw [toList_ranked, List.mem_append, List.mem_cons]
    exact not_or_intro h.plain (not_or_intro inner.symm plain_rank)
  refine ⟨plain, ?_, ?_, ?_⟩ <;> intro same <;> simp [same] at long

/-- A name without the delimiter can be told from what is behind it. -/
theorem ranked_inj {name other : String} {i j : Nat} (plain : delimiter ∉ name.toList)
    (plain' : delimiter ∉ other.toList)
    (same : ranked delimiter name i = ranked delimiter other j) : name = other ∧ i = j := by
  have lists := congrArg String.toList same
  rw [toList_ranked, toList_ranked] at lists
  have names : name = other := by
    have split := congrArg (fun cs => (cs.splitOn delimiter).head?) lists
    simp only [List.splitOn_append_cons_self_of_not_mem plain,
      List.splitOn_append_cons_self_of_not_mem plain', List.head?_cons, Option.some_inj] at split
    exact String.toList_inj.mp split
  rw [names] at lists
  have ranks := (List.cons_inj_right _).mp (List.append_cancel_left lists)
  exact ⟨names, rank_inj (String.toList_inj.mp ranks)⟩

theorem numbered_eq {p : Path} {name : String} (rank : Nat)
    (named : p.fileName? = some (spelling.write name)) :
    numbered spelling delimiter p rank =
      p.withFileName (spelling.write (ranked delimiter name rank)) := by
  rw [numbered, Path.Spelling.fileName?_eq_some.mpr named]
  rfl

/-- The digits of a rank are the same in every spelling. -/
theorem write_rank (rank : Nat) : spelling.write (toString rank) = toString rank := by
  refine Path.Spelling.write_of_ascii fun c member => ?_
  have digit := digit_of_mem_rank member
  omega

theorem isName_of_named {p : Path} {name : String}
    (named : p.fileName? = some (spelling.write name)) : Path.IsName name :=
  Path.isName_write.mp (Path.isName_of_fileName? named)

theorem components_numbered {p : Path} {name : String} (rank : Nat)
    (named : p.fileName? = some (spelling.write name)) (inner : delimiter ≠ '/') :
    (numbered spelling delimiter p rank).components =
      p.components.dropLast ++ [.name (spelling.write (ranked delimiter name rank))] := by
  have usable : Path.IsName (spelling.write (ranked delimiter name rank)) :=
    Path.isName_write.mpr (isName_ranked (isName_of_named named) inner)
  have split := Path.pieces_of_plain usable.plain
  rw [numbered_eq rank named, Path.components_withFileName named, split]
  · simp [usable.component?]
  · simp [split, usable.not_idle]

/-- A separator in front of the rank makes the rank a component of its own. -/
theorem components_nested {p : Path} {name : String} (rank : Nat)
    (named : p.fileName? = some (spelling.write name)) :
    (numbered spelling '/' p rank).components = p.components ++ [.name (toString rank)] := by
  have usable := Path.isName_of_fileName? named
  have separator : spelling.write (Char.toString '/') = "/" :=
    Path.Spelling.write_of_ascii (by simp)
  have spelled : spelling.write (ranked '/' name rank) = ranked '/' (spelling.write name) rank := by
    rw [ranked, Path.Spelling.write_append, Path.Spelling.write_append, separator, write_rank]
    rfl
  have split : Path.pieces (spelling.write (ranked '/' name rank)).toList =
      [(spelling.write name).toList, (toString rank).toList] := by
    rw [spelled, toList_ranked, Path.pieces_append, Path.pieces_of_plain usable.plain,
      Path.pieces_of_plain (isName_rank rank).plain]
    rfl
  rw [numbered_eq rank named, Path.components_withFileName named, split]
  · conv_rhs => rw [Path.components_of_fileName? named]
    have named_rank := (isName_rank rank).component?
    simp only [List.filterMap_cons, usable.component?, named_rank, List.filterMap_nil,
      List.append_assoc, List.singleton_append]
  · simp [split, usable.not_idle]

/-- A rank within the file name keeps destinations apart. -/
theorem apart_of_inner (takes : ∀ t ∈ targets, Takes spelling delimiter t.destination)
    (inner : delimiter ≠ '/') : Apart spelling delimiter targets where
  inj t t_in u u_in i j same := by
    obtain ⟨name, named, plain⟩ := takes t t_in
    obtain ⟨name', named', plain'⟩ := takes u u_in
    rw [Path.Same, components_numbered i named inner, components_numbered j named' inner] at same
    obtain ⟨fronts, lasts⟩ := List.append_inj' same rfl
    have spelled : spelling.write (ranked delimiter name i) =
        spelling.write (ranked delimiter name' j) := by simpa using lasts
    obtain ⟨rfl, ranks⟩ := ranked_inj plain plain' (Path.Spelling.write_inj.mp spelled)
    refine ⟨?_, ranks⟩
    rw [Path.Same, Path.components_of_fileName? named, Path.components_of_fileName? named', fronts]
  fresh t t_in u u_in rank _ _ same := by
    obtain ⟨name, named, plain⟩ := takes t t_in
    obtain ⟨name', named', plain'⟩ := takes u u_in
    rw [Path.Same, components_numbered rank named inner,
      Path.components_of_fileName? named'] at same
    obtain ⟨-, lasts⟩ := List.append_inj' same rfl
    have spelled : spelling.write (ranked delimiter name rank) = spelling.write name' := by
      simpa using lasts
    refine plain' ?_
    rw [← Path.Spelling.write_inj.mp spelled, toList_ranked]
    simp

/-- No destination stands where a rank brings another. -/
def Clear (targets : List Target) : Prop :=
  ∀ t ∈ targets, ∀ u ∈ targets, ∀ rank, Ranks targets t.destination rank →
    sharers targets u.destination < 2 →
      u.destination.components ≠ t.destination.components ++ [.name (toString rank)]

/-- Ranks that are components of their own keep destinations apart if their places are free. -/
theorem apart_of_clear (takes : ∀ t ∈ targets, Takes spelling '/' t.destination)
    (clear : Clear targets) : Apart spelling '/' targets where
  inj t t_in u u_in i j same := by
    obtain ⟨name, named, -⟩ := takes t t_in
    obtain ⟨name', named', -⟩ := takes u u_in
    rw [Path.Same, components_nested i named, components_nested j named'] at same
    obtain ⟨fronts, lasts⟩ := List.append_inj' same rfl
    have ranks : toString i = toString j := by simpa only [List.cons.injEq,
      Path.Component.name.injEq, and_true] using lasts
    exact ⟨fronts, rank_inj ranks⟩
  fresh t t_in u u_in rank ranks alone same := by
    obtain ⟨name, named, -⟩ := takes t t_in
    rw [Path.Same, components_nested rank named] at same
    exact clear t t_in u u_in rank ranks alone same.symm

/-- Destinations of one depth are kept apart by ranks that are components of their own. -/
theorem apart_of_depth (depth : Nat) (takes : ∀ t ∈ targets, Takes spelling '/' t.destination)
    (level : ∀ t ∈ targets, t.destination.components.length = depth) :
    Apart spelling '/' targets := by
  refine apart_of_clear takes fun t t_in u u_in rank _ _ same => ?_
  have lengths := congrArg List.length same
  rw [List.length_append, level t t_in, level u u_in] at lengths
  simp at lengths

end DumpFlow.Conflict
