import DumpFlow.Proofs.Selection.Batch
import DumpFlow.Proofs.Selection.Containment
import DumpFlow.Proofs.Selection.Label
import DumpFlow.Proofs.Simulation.Creation
import Mathlib.Data.String.Basic

/-!
Which destinations a file system takes. Names are cut to a number of characters, and then get their
ranks; a file system counts bytes, of which a character of the basic plane takes up to three.
-/

namespace DumpFlow

/-! ### Bytes -/

namespace Text

variable {c : Char} {cs : List Char} {w : Nat}

theorem utf8Size_le_three (plane : c.toNat ≤ 0xffff) : c.utf8Size ≤ 3 := by
  have plane : c.val ≤ 0xffff := UInt32.le_iff_toNat_le.mpr plane
  simp only [Char.utf8Size]
  split
  · decide
  · split
    · decide
    · exact Nat.le_of_eq (if_pos plane)

theorem utf8Size_of_digit (digit : c.isDigit = true) : c.utf8Size = 1 := by
  simp only [Char.isDigit, Bool.and_eq_true, decide_eq_true_eq] at digit
  exact Char.utf8Size_eq_one_iff.mpr (UInt32.le_trans digit.2 (by decide))

theorem utf8Len_le (all : ∀ c ∈ cs, c.utf8Size ≤ w) : String.utf8Len cs ≤ w * cs.length := by
  induction cs with
  | nil => exact Nat.zero_le _
  | cons c cs ih =>
      obtain ⟨first, rest⟩ := List.forall_mem_cons.mp all
      rw [String.utf8Len_cons, List.length_cons, Nat.mul_succ]
      exact Nat.add_le_add (ih rest) first

theorem utf8Len_eq (all : ∀ c ∈ cs, c.utf8Size = w) : String.utf8Len cs = w * cs.length := by
  induction cs with
  | nil => rfl
  | cons c cs ih =>
      obtain ⟨first, rest⟩ := List.forall_mem_cons.mp all
      rw [String.utf8Len_cons, List.length_cons, Nat.mul_succ, ih rest, first]

end Text

namespace Conflict

/-- Every digit of a rank takes one byte. -/
theorem bytes_rank (rank : Nat) : (toString rank).utf8ByteSize = rank.repr.length := by
  have digits : ∀ c ∈ rank.repr.toList, c.utf8Size = 1 := by
    rw [Nat.toList_repr]
    exact fun c member =>
      Text.utf8Size_of_digit (Nat.isDigit_of_mem_toDigits (by decide) (by decide) member)
  have bytes := Text.utf8Len_eq digits
  rwa [← String.utf8ByteSize_ofList, String.ofList_toList, Nat.one_mul, String.length_toList]
    at bytes

theorem bytes_rank_le {rank k : Nat} (some_bytes : 0 < k) :
    (toString rank).utf8ByteSize ≤ k ↔ rank < 10 ^ k := by
  rw [bytes_rank, Nat.length_repr_le_iff some_bytes]

theorem le_bytes_rank {rank k : Nat} (large : 10 ^ (k - 1) ≤ rank) :
    k ≤ (toString rank).utf8ByteSize := by
  by_contra few
  by_cases one : k - 1 = 0
  · have some_digit : 0 < rank.repr.length := by
      rw [← String.length_toList, Nat.toList_repr]
      exact Nat.length_toDigits_pos
    rw [bytes_rank] at few
    omega
  · have short : (toString rank).utf8ByteSize ≤ k - 1 := by omega
    exact Nat.not_lt.mpr large ((bytes_rank_le (Nat.pos_of_ne_zero one)).mp short)

theorem visible_of_rank {c : Char} {rank : Nat} (member : c ∈ (toString rank).toList) :
    Text.Visible c := by
  have digit := digit_of_mem_rank member
  exact Text.visible_of_printable (by omega) (by omega)

end Conflict

namespace NameNormalizer

variable {n : NameNormalizer} {name : String} {w : Nat}

theorem bytes_normalize_le (narrow : ∀ c ∈ (n.normalize name).toList, c.utf8Size ≤ w) :
    (n.normalize name).utf8ByteSize ≤ w * n.maxLength := by
  have bytes := Text.utf8Len_le narrow
  rw [← String.utf8ByteSize_ofList, String.ofList_toList, String.length_toList, length_normalize]
    at bytes
  exact bytes.trans (Nat.mul_le_mul_left w (Nat.min_le_left ..))

end NameNormalizer

namespace Selector

open Simulation (Directory Place)

variable {s : Selector} {base : Path} {commands : List String} {ts : List Target}
  {kind : TargetKind} {maxLength : Nat} {stem : String}

/-! ### Names and ranks -/

/-- A destination with a name below the base, and what becomes of it as a new directory there. -/
structure Stands (base : Path) (name : String) (destination : Path) : Prop where
  below : destination.components = base.components ++ [.name name]
  usable : Path.IsName name
  visible : ∀ c ∈ name.toList, Text.Visible c
  /-- Below a base that is there, in a path that is not too long. -/
  created : ∀ (d : Directory) (place : Place), d.resolve base = .ok place →
    destination.text.utf8ByteSize ≤ Directory.greatestPath →
      (d.create destination).2 = d.verdict place name

/-- Whether a file system takes the name at the end of a path. -/
def Fits (p : Path) : Prop :=
  ∀ name, p.fileName? = some name → name.utf8ByteSize ≤ Directory.greatestName

theorem bytes_directoryName (names : List String) (i : Nat) (name : String) :
    (directoryName names i name).utf8ByteSize = name.utf8ByteSize +
      if names.count name = 1 then 0
      else 1 + (toString ((names.take i).count name + 1)).utf8ByteSize := by
  have one : "-".utf8ByteSize = 1 := rfl
  unfold directoryName
  split
  · rfl
  · rw [String.utf8ByteSize_append, String.utf8ByteSize_append, one, Nat.add_assoc]

/-- The last of several equal names has all their number for its rank. -/
theorem bytes_last {name : String} {count : Nat} (several : 2 ≤ count) :
    (directoryName (List.replicate count name) (count - 1) name).utf8ByteSize =
      name.utf8ByteSize + 1 + (toString count).utf8ByteSize := by
  have before : ((List.replicate count name).take (count - 1)).count name + 1 = count := by
    rw [List.take_replicate, List.count_replicate_self]
    omega
  have shared : (List.replicate count name).count name ≠ 1 := by
    rw [List.count_replicate_self]
    omega
  rw [bytes_directoryName, if_neg shared, before, Nat.add_assoc]

theorem bytes_directoryName_le {names : List String} {i k : Nat} {name : String}
    (some_bytes : 0 < k) (here : names[i]? = some name) (few : names.length < 10 ^ k) :
    (directoryName names i name).utf8ByteSize ≤ name.utf8ByteSize + 1 + k := by
  rw [bytes_directoryName]
  split
  · omega
  · have small := (List.getElem?_eq_some_iff.mp here).1
    have before : (names.take i).count name ≤ i :=
      List.count_le_length.trans (List.length_take_le ..)
    have digits := (Conflict.bytes_rank_le some_bytes).mpr
      (show (names.take i).count name + 1 < 10 ^ k by omega)
    omega

theorem Clean.targets_singleton (clean : Clean s) {command : String} {t : Target}
    (alone : s.target base 1 command = .ok t) : s.targets base [command] = .ok [t] := by
  have each : s.targetsFrom base 1 [command] = .ok [t] := by
    rw [targetsFrom, alone]
    rfl
  have takes := clean.takes (parts_of_mem each t (List.mem_singleton_self t)).2
  rw [← clean.delimiter] at takes
  exact targets_eq_ok.mpr ⟨_, each, Conflict.resolve_singleton takes⟩

/-- What each command gives by itself, all of them give: targets with that label. -/
theorem Batch.exists_targets {label : String} (batch : Batch s base commands)
    (each : ∀ (i : Nat) (command : String), commands[i]? = some command →
      ∃ t, s.target base (i + 1) command = .ok t ∧ t.label = label) :
    ∃ ts, s.targets base commands = .ok ts := by
  cases found : s.targets base commands with
  | ok ts => exact ⟨ts, rfl⟩
  | error fault =>
      obtain ⟨i, command, fault, here, failed⟩ := batch.fails_iff.mp ⟨fault, found⟩
      obtain ⟨t, fine, -⟩ := each i command here
      rw [fine] at failed
      cases failed

theorem Batch.label_of_each {label : String} (batch : Batch s base commands)
    (each : ∀ (i : Nat) (command : String), commands[i]? = some command →
      ∃ t, s.target base (i + 1) command = .ok t ∧ t.label = label)
    (found : s.targets base commands = .ok ts) {u : Target} (member : u ∈ ts) :
    u.label = label := by
  obtain ⟨i, here⟩ := List.mem_iff_getElem?.mp member
  obtain ⟨command, t, there, given, sited⟩ := batch.origin found here
  obtain ⟨t', fine, same⟩ := each i command there
  obtain rfl : t = t' := Except.ok.inj (given.symm.trans fine)
  exact sited.label.trans same

section Sized

variable (made : ofConfig kind (sized maxLength stem) = .ok s)

include made

theorem visible_normalize (name : String) :
    ∀ c ∈ (s.normalizer.normalize name).toList, Text.Visible c := by
  intro c member
  obtain ⟨u, -, rfl⟩ := NameNormalizer.mem_normalize.mp member
  exact (made_of_ofConfig made).visible_mapChar

theorem visible_directoryName (names : List String) (i : Nat) (name : String) :
    ∀ c ∈ (directoryName names i (s.normalizer.normalize name)).toList, Text.Visible c := by
  have hyphen : Text.Visible '-' := Text.visible_of_printable (by decide) (by decide)
  intro c member
  rcases directoryName_cases names i (s.normalizer.normalize name) with same | ⟨rank, same⟩
  · exact visible_normalize made name c (same ▸ member)
  · rw [same, Conflict.toList_ranked, List.mem_append, List.mem_cons] at member
    rcases member with own | rfl | digit
    · exact visible_normalize made name c own
    · exact hyphen
    · exact Conflict.visible_of_rank digit

theorem stands (found : s.targets base commands = .ok ts) {i : Nat} {u : Target}
    (here : ts[i]? = some u) :
    Stands base (directoryName (ts.map s.nameOf) i (s.nameOf u)) u.destination := by
  have clean := clean_of_sized made
  obtain ⟨own, each, rfl⟩ := clean.exists_own found
  have given := fun t member => (parts_of_mem each t member).2
  rw [Conflict.getElem?_renumber] at here
  obtain ⟨t, there, rfl⟩ := Option.map_eq_some_iff.mp here
  have member := List.mem_of_getElem? there
  rw [map_nameOf_renumber, nameOf_placed, List.nil_append]
  obtain ⟨q, same, place⟩ := clean.exists_join (given t member) given member i
  have usable := isName_directoryName (clean.isName (given t member)) (own.map s.nameOf) i
  have visible := visible_directoryName made (own.map s.nameOf) i t.label
  refine ⟨?_, usable, visible, fun d there resolved short => ?_⟩
  · rw [place, usable.components_join, same]
  · rw [place] at short ⊢
    exact Directory.create_below resolved same usable
      (fun nul => nomatch (visible _ nul).shown) short

theorem fits_iff (found : s.targets base commands = .ok ts) {i : Nat} {u : Target}
    (here : ts[i]? = some u) : Fits u.destination ↔
      (directoryName (ts.map s.nameOf) i (s.nameOf u)).utf8ByteSize ≤ Directory.greatestName := by
  have named : u.destination.fileName? =
      some (directoryName (ts.map s.nameOf) i (s.nameOf u)) := by
    rw [Path.fileName?_eq_some, (stands made found here).below, List.getLast?_concat]
  refine ⟨fun fits => fits _ named, fun short name other => ?_⟩
  rw [named] at other
  cases other
  exact short

theorem bytes_nameOf_le {w : Nat} {u : Target}
    (narrow : ∀ c ∈ (s.nameOf u).toList, c.utf8Size ≤ w) :
    (s.nameOf u).utf8ByteSize ≤ w * maxLength := by
  have bytes := NameNormalizer.bytes_normalize_le narrow
  rwa [(made_of_ofConfig made).maxLength_eq] at bytes

theorem fits_of_narrow {w k : Nat} (some_bytes : 0 < k)
    (room : w * maxLength + 1 + k ≤ Directory.greatestName) (few : commands.length < 10 ^ k)
    (found : s.targets base commands = .ok ts) {u : Target} (member : u ∈ ts)
    (narrow : ∀ c ∈ (s.nameOf u).toList, c.utf8Size ≤ w) : Fits u.destination := by
  obtain ⟨i, here⟩ := List.mem_iff_getElem?.mp member
  have lengths := ((clean_of_sized made).batch base commands).length ts found
  have own := bytes_nameOf_le made narrow
  have all : (directoryName (ts.map s.nameOf) i (s.nameOf u)).utf8ByteSize ≤
      (s.nameOf u).utf8ByteSize + 1 + k :=
    bytes_directoryName_le some_bytes (by simp [here]) (by simpa [lengths] using few)
  rw [fits_iff made found here]
  omega

end Sized

/-! ### The widest names -/

/-- A name of letters that take three bytes each. -/
def wide (length : Nat) : String :=
  String.ofList (List.replicate length 'あ')

theorem bytes_wide (length : Nat) : (wide length).utf8ByteSize = 3 * length := by
  have bytes : ∀ c ∈ List.replicate length 'あ', c.utf8Size = 3 := fun c member =>
    (List.eq_of_mem_replicate member).symm ▸ rfl
  rw [wide, String.utf8ByteSize_ofList, Text.utf8Len_eq bytes, List.length_replicate]

theorem toList_wide (length : Nat) : (wide length).toList = List.replicate length 'あ' :=
  String.toList_ofList

theorem eq_of_mem_wide {length : Nat} {c : Char} (member : c ∈ (wide length).toList) : c = 'あ' :=
  List.eq_of_mem_replicate (toList_wide length ▸ member)

theorem isName_wide {length : Nat} (positive : 0 < length) : Path.IsName (wide length) := by
  have first : 'あ' ∈ (wide length).toList := by simp [toList_wide, Nat.ne_of_gt positive]
  refine ⟨fun separator => (nomatch eq_of_mem_wide separator), ?_, ?_, ?_⟩ <;>
    intro same <;> simp [same] at first

theorem trim_wide (length : Nat) : Text.trim (wide length) = wide length := by
  have filled : Text.isBlank 'あ' = false := by decide
  rw [Text.trim, toList_wide, Text.trimChars, Text.trimLeft, Text.trimRight]
  cases length with
  | zero => rfl
  | succ length =>
      have kept : (List.replicate (length + 1) 'あ').dropWhile Text.isBlank =
          List.replicate (length + 1) 'あ' := List.dropWhile_cons_of_neg (by simp [filled])
      rw [kept, List.reverse_replicate, kept, List.reverse_replicate, wide]

theorem parse_wide {length : Nat} (positive : 0 < length) :
    LabeledQuery.parse (wide length ++ ":x") LabeledQuery.standardDelimiter =
      .ok ⟨some (wide length), "x"⟩ := by
  have labels : LabeledQuery.Labels ':' (List.replicate length 'あ' ++ [':', 'x'])
      (List.replicate length 'あ') ['x'] :=
    ⟨⟨[], [], by simp, nofun, nofun⟩, by simp [Nat.ne_of_gt positive],
      fun c member => (List.eq_of_mem_replicate member) ▸ by decide⟩
  have chars : (wide length ++ ":x").toList = List.replicate length 'あ' ++ [':', 'x'] := by
    rw [String.toList_append, toList_wide]
    rfl
  rw [LabeledQuery.parse, chars, LabeledQuery.standardDelimiter, labels.search]
  rfl

section Wide

variable (made : ofConfig kind (sized maxLength stem) = .ok s)

include made

theorem normalize_wide {length : Nat} (short : length ≤ maxLength) :
    s.normalizer.normalize (wide length) = wide length := by
  have normal := made_of_ofConfig made
  refine (NameNormalizer.normalize_eq_self ?_).mpr fun c member => ?_
  · rw [normal.maxLength_eq, wide, String.length_ofList, List.length_replicate]
    exact short
  · obtain rfl := eq_of_mem_wide member
    refine normal.mapChar_self ⟨by decide, by decide, by decide⟩ (fun unwanted => ?_)
      (by decide +kernel)
    exact nomatch normal.ascii _ unwanted

theorem destination_wide {length : Nat} (positive : 0 < length) (short : length ≤ maxLength)
    (base : Path) :
    destination s.normalizer base (wide length) = .ok (base.join (wide length)) := by
  have named := isName_wide positive
  have usable : ¬ (wide length = "" ∨ wide length = "." ∨ wide length = "..") :=
    not_or_intro named.not_empty (not_or_intro named.not_current named.not_parent)
  rw [destination, normalize_wide made short]
  exact if_neg usable

theorem tableTarget_wide {length : Nat} (positive : 0 < length) (short : length ≤ maxLength)
    (base : Path) : tableTarget s.normalizer base (wide length) =
      .ok (.table (wide length) (base.join (wide length))) := by
  simp only [tableTarget, trim_wide, if_neg (isName_wide positive).not_empty,
    destination_wide made positive short]
  rfl

/-- Some command asks for a wide name, wherever it stands. -/
theorem exists_wide {length : Nat} (positive : 0 < length) (short : length ≤ maxLength) :
    ∃ command, ∀ base position, ∃ t, s.target base position command = .ok t ∧
      t.label = wide length := by
  cases s with
  | table n =>
      exact ⟨wide length, fun base position => ⟨_, tableTarget_wide made positive short base, rfl⟩⟩
  | query n stem =>
      refine ⟨wide length ++ ":x", fun base position =>
        ⟨.query (wide length) "x" (base.join (wide length)), ?_, rfl⟩⟩
      have placed : destination n base (wide length) = _ :=
        destination_wide made positive short base
      simp only [target, queryTarget, parse_wide positive, bind, Except.bind, Option.getD_some,
        placed]
      rfl

/-- Of `count` wide names the last has the rank `count`, if there are others. -/
theorem exists_last_wide (base : Path) (positive : 0 < maxLength) {count : Nat}
    (some_commands : 0 < count) :
    ∃ commands ts, ∃ u ∈ ts, commands.length = count ∧ s.targets base commands = .ok ts ∧
      (Fits u.destination ↔ (directoryName (List.replicate count (wide maxLength)) (count - 1)
        (wide maxLength)).utf8ByteSize ≤ Directory.greatestName) := by
  obtain ⟨command, alone⟩ := exists_wide made positive (Nat.le_refl _)
  have batch := (clean_of_sized made).batch base (List.replicate count command)
  have each : ∀ (i : Nat) (other : String), (List.replicate count command)[i]? = some other →
      ∃ t, s.target base (i + 1) other = .ok t ∧ t.label = wide maxLength := by
    intro i other here
    rw [List.eq_of_mem_replicate (List.mem_of_getElem? here)]
    exact alone base (i + 1)
  obtain ⟨ts, found⟩ := batch.exists_targets each
  have lengths : ts.length = count := (batch.length ts found).trans List.length_replicate
  have name {u : Target} (member : u ∈ ts) : s.nameOf u = wide maxLength := by
    rw [nameOf, batch.label_of_each each found member, normalize_wide made (Nat.le_refl _)]
  have names : ts.map s.nameOf = List.replicate count (wide maxLength) := by
    refine List.eq_replicate_iff.mpr ⟨by rw [List.length_map, lengths], fun other member => ?_⟩
    obtain ⟨u, of_ts, rfl⟩ := List.mem_map.mp member
    exact name of_ts
  have last : count - 1 < ts.length := by omega
  have fits := fits_iff made found (List.getElem?_eq_getElem last)
  rw [names, name (List.getElem_mem last)] at fits
  exact ⟨_, ts, _, List.getElem_mem last, List.length_replicate, found, fits⟩

end Wide

/-! ### Which lengths are safe -/

/-- How the destinations of a selector are named for a file system. -/
structure Fitting (maxLength : Nat) (s : Selector) : Prop where
  stands : ∀ base commands ts, s.targets base commands = .ok ts →
    ∀ (i : Nat) (u : Target), ts[i]? = some u →
      Stands base (directoryName (ts.map s.nameOf) i (s.nameOf u)) u.destination
  /-- Names of narrow characters fit. -/
  narrow : ∀ w k, 0 < k → w * maxLength + 1 + k ≤ Directory.greatestName →
    ∀ base commands ts, commands.length < 10 ^ k → s.targets base commands = .ok ts →
      ∀ u ∈ ts, (∀ c ∈ (s.nameOf u).toList, c.utf8Size ≤ w) → Fits u.destination
  alone_iff : (∀ base command ts, s.targets base [command] = .ok ts → ∀ u ∈ ts,
    Fits u.destination) ↔ 3 * maxLength ≤ Directory.greatestName
  /-- All ranks with up to `k` digits fit. -/
  ranked_iff : ∀ k, 0 < k → ((∀ base commands ts, commands.length < 10 ^ k →
    s.targets base commands = .ok ts → ∀ u ∈ ts, Fits u.destination) ↔
      3 * maxLength + 1 + k ≤ Directory.greatestName)

section Sized

variable (made : ofConfig kind (sized maxLength stem) = .ok s)

include made

theorem narrow_nameOf (u : Target) : ∀ c ∈ (s.nameOf u).toList, c.utf8Size ≤ 3 := fun c member =>
  Text.utf8Size_le_three (visible_normalize made u.label c member).plane

theorem fits_alone (room : 3 * maxLength ≤ Directory.greatestName) {command : String}
    (found : s.targets base [command] = .ok ts) {u : Target} (member : u ∈ ts) :
    Fits u.destination := by
  have single := ((clean_of_sized made).batch base [command]).length ts found
  obtain ⟨v, rfl⟩ := List.length_eq_one_iff.mp single
  obtain rfl := List.mem_singleton.mp member
  have alone : directoryName ([u].map s.nameOf) 0 (s.nameOf u) = s.nameOf u :=
    if_pos (by simp)
  rw [fits_iff made found (List.getElem?_cons_zero ..), alone]
  exact (bytes_nameOf_le made (narrow_nameOf made u)).trans room

/-- Names are short enough for a file system if they are cut to a third of its bytes, the bytes of
ranks apart, and only then. -/
theorem fitting : Fitting maxLength s := by
  have positive : 0 < maxLength := (made_of_ofConfig made).positive
  refine ⟨fun base commands ts found i u here => stands made found here,
    fun w k some_bytes room base commands ts few found u member =>
      fits_of_narrow made some_bytes room few found member, ⟨fun all => ?_, ?_⟩,
    fun k some_bytes => ⟨fun all => ?_, ?_⟩⟩
  · obtain ⟨commands, ts, u, member, single, found, fits⟩ :=
      exists_last_wide made ⟨"p"⟩ positive Nat.one_pos
    obtain ⟨command, rfl⟩ := List.length_eq_one_iff.mp single
    have bytes := fits.mp (all _ command ts found u member)
    rwa [bytes_directoryName, if_pos (by simp), bytes_wide] at bytes
  · exact fun room base command ts found u => fits_alone made room found
  · -- So many commands that the last rank has `k` digits, but at least two.
    have several : 2 ≤ max 2 (10 ^ (k - 1)) := Nat.le_max_left ..
    obtain ⟨commands, ts, u, member, count, found, fits⟩ :=
      exists_last_wide made ⟨"p"⟩ positive (Nat.lt_of_lt_of_le Nat.two_pos several)
    have few : max 2 (10 ^ (k - 1)) < 10 ^ k := by
      have less : 10 ^ (k - 1) < 10 ^ k := Nat.pow_lt_pow_right (by decide) (by omega)
      have ten : 10 ^ 1 ≤ 10 ^ k := Nat.pow_le_pow_right (by decide) some_bytes
      omega
    have bytes := fits.mp (all _ commands ts (count ▸ few) found u member)
    have digits := Conflict.le_bytes_rank (Nat.le_max_right 2 (10 ^ (k - 1)))
    rw [bytes_last several, bytes_wide] at bytes
    omega
  · exact fun room base commands ts few found u member =>
      fits_of_narrow made some_bytes room few found member (narrow_nameOf made u)

end Sized

theorem fitting_standard :
    let s := Selector.table ⟨100, NameNormalizer.escapeTable "-\"*/:<>?\\|".toList, '_', '-'⟩
    ofConfig .table .standard = .ok s ∧ Fitting 100 s := by
  have made : ofConfig .table (sized 100 "sql") = .ok (Selector.table
      ⟨100, NameNormalizer.escapeTable "-\"*/:<>?\\|".toList, '_', '-'⟩) := rfl
  exact ⟨made, fitting made⟩

theorem bytes_join_le (p : Path) (name : String) :
    (p.join name).text.utf8ByteSize ≤ p.text.utf8ByteSize + 1 + name.utf8ByteSize := by
  have one : "/".utf8ByteSize = 1 := rfl
  unfold Path.join
  split
  · exact Nat.le_add_left ..
  · split
    · rw [String.utf8ByteSize_append]
      omega
    · rw [String.utf8ByteSize_append, String.utf8ByteSize_append, one]

theorem create_wide {d : Directory} {place : Place} (resolved : d.resolve base = .ok place)
    {length : Nat} (long : Directory.greatestName < 3 * length)
    (short : base.text.utf8ByteSize + 1 + 3 * length ≤ Directory.greatestPath) :
    (d.create (base.join (wide length))).2 = .error .nameTooLong := by
  have positive : 0 < length := by omega
  have path := bytes_join_le base (wide length)
  rw [bytes_wide] at path
  rw [Directory.create_below resolved rfl (isName_wide positive)
    (fun nul => nomatch eq_of_mem_wide nul) (path.trans short), Directory.verdict, bytes_wide,
    if_pos long]

/-- A standard selector gives a name of 258 bytes, which no file system takes. -/
theorem name_too_long :
    ∃ s, ofConfig .table .standard = .ok s ∧
      s.targets ⟨"base"⟩ [wide 86] = .ok [.table (wide 86) ((⟨"base"⟩ : Path).join (wide 86))] ∧
      ¬ Fits ((⟨"base"⟩ : Path).join (wide 86)) ∧
      ((Directory.empty.create ⟨"base"⟩).1.create ((⟨"base"⟩ : Path).join (wide 86))).2 =
        .error .nameTooLong := by
  obtain ⟨n, made⟩ : ∃ n, ofConfig .table (sized 100 "sql") = .ok (.table n) := ⟨_, rfl⟩
  have base : (Directory.empty.create ⟨"base"⟩).1.resolve ⟨"base"⟩ = .ok ⟨.above 0, ["base"]⟩ := by
    decide +kernel
  have alone := tableTarget_wide made (show 0 < 86 by decide) (by decide) ⟨"base"⟩
  refine ⟨_, made, (clean_of_sized made).targets_singleton alone, fun fits => ?_,
    create_wide base (by decide) (by decide)⟩
  have steps := (isName_wide (show 0 < 86 by decide)).components_join ⟨"base"⟩
  have bytes := fits _ (Path.fileName?_eq_some.mpr (by rw [steps, List.getLast?_concat]))
  rw [bytes_wide] at bytes
  exact absurd bytes (by decide)

end Selector

end DumpFlow
