import DumpFlow.Text.Blank
import DumpFlow.Text.LetterCase
import Mathlib.Data.List.Forall2

/-!
What upper-case characters become. Their lower-case forms stay within the basic plane and are
neither blanks nor control characters. The only ASCII ones are the small letters, and each of these
comes of its capital; two of them come of one character more. No lower-case form has another one.
-/

namespace DumpFlow.Text

variable {c d : Char}

/-! ### The lower-case forms of a run -/

namespace CaseRun

variable {r : CaseRun}

def lowest (r : CaseRun) : Int := r.first + r.shift

def highest (r : CaseRun) : Int := r.last + r.shift

/-- How many characters there are in a run. -/
def size (r : CaseRun) : Nat := (r.last - r.first) / r.step + 1

def code (r : CaseRun) (k : Nat) : Nat := r.first + k * r.step

theorem exists_code {n : Nat} (within : r.contains n = true) : ∃ k < r.size, n = r.code k := by
  simp only [contains, Bool.and_eq_true, decide_eq_true_eq, beq_iff_eq] at within
  obtain ⟨⟨above, below⟩, steps⟩ := within
  refine ⟨(n - r.first) / r.step, ?_, ?_⟩
  · exact Nat.lt_succ_of_le (Nat.div_le_div_right (Nat.sub_le_sub_right below r.first))
  · rw [code, Nat.div_mul_cancel (Nat.dvd_of_mod_eq_zero steps), Nat.add_sub_cancel' above]

end CaseRun

/-- Ranges of the basic plane without blanks, control characters and surrogates. The first is that
of the small ASCII letters, and the others are beyond ASCII. -/
def stretches : List (Nat × Nat) :=
  [(0x61, 0x7a), (0xa1, 0x167f), (0x1681, 0x1fff), (0x2060, 0x2fff), (0x3001, 0xd7ff),
    (0xe000, 0xffff)]

theorem exists_stretch :
    ∀ r ∈ upperRuns, ∃ s ∈ stretches, (s.1 : Int) ≤ r.lowest ∧ r.highest ≤ s.2 := by
  decide +kernel

theorem isLower_iff : c.isLower = true ↔ 0x61 ≤ c.toNat ∧ c.toNat ≤ 0x7a := by
  have bounds : c.isLower = (decide ('a'.val ≤ c.val) && decide (c.val ≤ 'z'.val)) := rfl
  simp [bounds, UInt32.le_iff_toNat_le, ← Char.toNat_val]

theorem isUpper_iff : c.isUpper = true ↔ 0x41 ≤ c.toNat ∧ c.toNat ≤ 0x5a := by
  have bounds : c.isUpper = decide ('A'.val ≤ c.val ∧ c.val ≤ 'Z'.val) := rfl
  simp [bounds, UInt32.le_iff_toNat_le, ← Char.toNat_val]

/-- A character of the basic plane that can be seen. -/
structure Visible (c : Char) : Prop where
  plane : c.toNat ≤ 0xffff
  shown : isControl c = false
  filled : isBlank c = false

theorem visible_of_printable (low : 0x20 < c.toNat) (high : c.toNat < 0x7f) : Visible c := by
  refine ⟨by omega, ?_, ?_⟩
  · simp only [isControl]
    simp
    omega
  · simp only [isBlank]
    simp
    omega

/-- What a character is like that takes the place of an upper-case one. -/
structure Lowered (d : Char) : Prop extends Visible d where
  small : isAscii d = true → d.isLower = true

theorem lowered_of_stretch {s : Nat × Nat} (member : s ∈ stretches) (above : s.1 ≤ d.toNat)
    (below : d.toNat ≤ s.2) : Lowered d := by
  simp only [stretches, List.mem_cons, List.not_mem_nil, or_false] at member
  refine ⟨⟨?_, ?_, ?_⟩, ?_⟩
  · rcases member with rfl | rfl | rfl | rfl | rfl | rfl <;> omega
  · simp only [isControl]
    rcases member with rfl | rfl | rfl | rfl | rfl | rfl <;> simp <;> omega
  · simp only [isBlank]
    rcases member with rfl | rfl | rfl | rfl | rfl | rfl <;> simp <;> omega
  · simp only [isAscii, isLower_iff, decide_eq_true_eq]
    rcases member with rfl | rfl | rfl | rfl | rfl | rfl <;> omega

theorem toNat_ofNat {n : Nat} (valid : n.isValidChar) : (Char.ofNat n).toNat = n := by
  rw [Char.ofNat, dif_pos valid]
  rfl

/-- An upper-case character is in a run, which says where its lower-case form is. -/
theorem exists_run (upper : isUpper c = true) :
    ∃ r ∈ upperRuns, r.contains c.toNat = true ∧ r.first ≤ c.toNat ∧ c.toNat ≤ r.last ∧
      ((toLower c).toNat : Int) = c.toNat + r.shift := by
  obtain ⟨r, found⟩ := Option.isSome_iff_exists.mp upper
  have member := List.mem_of_find?_eq_some found
  have within := List.find?_some found
  have bounds := within
  simp only [CaseRun.contains, Bool.and_eq_true, decide_eq_true_eq] at bounds
  obtain ⟨⟨above, below⟩, -⟩ := bounds
  refine ⟨r, member, within, above, below, ?_⟩
  obtain ⟨s, of_stretch, low, high⟩ := exists_stretch r member
  have valid : (c.toNat + r.shift).toNat.isValidChar := by
    simp only [stretches, List.mem_cons, List.not_mem_nil, or_false] at of_stretch
    unfold CaseRun.lowest CaseRun.highest at *
    unfold Nat.isValidChar
    rcases of_stretch with rfl | rfl | rfl | rfl | rfl | rfl <;> omega
  have lower : (toLower c).toNat = (c.toNat + r.shift).toNat := by
    rw [toLower, found]
    exact toNat_ofNat valid
  unfold CaseRun.lowest at low
  omega

theorem lowered_toLower (upper : isUpper c = true) : Lowered (toLower c) := by
  obtain ⟨r, member, -, above, below, lower⟩ := exists_run upper
  obtain ⟨s, of_stretch, low, high⟩ := exists_stretch r member
  unfold CaseRun.lowest CaseRun.highest at *
  exact lowered_of_stretch of_stretch (by omega) (by omega)

theorem toLower_of_not_upper (other : isUpper c = false) : toLower c = c := by
  have none_there : caseRun? c = none :=
    Option.isNone_iff_eq_none.mp (by simpa [isUpper] using other)
  rw [toLower, none_there]

/-! ### Lower-casing twice -/

/-- The upper-case characters as the ones of a binary number. -/
def upperBits : Nat :=
  upperRuns.foldl (fun bits r =>
    (List.range r.size).foldl (fun bits k => bits ||| 1 <<< r.code k) bits) 0

theorem upperBits_code : ∀ r ∈ upperRuns, ∀ k < r.size, upperBits.testBit (r.code k) = true := by
  decide +kernel

theorem upperBits_lower : ∀ r ∈ upperRuns, r.shift ≠ 0 → ∀ k < r.size,
    upperBits.testBit (r.code k + r.shift).toNat = false := by
  decide +kernel

/-- What has another lower-case form is no upper-case character any more. -/
theorem isUpper_toLower (upper : isUpper c = true) (other : toLower c ≠ c) :
    isUpper (toLower c) = false := by
  obtain ⟨r, member, within, -, -, lower⟩ := exists_run upper
  obtain ⟨k, few, code⟩ := CaseRun.exists_code within
  have moved : r.shift ≠ 0 := fun still => other (Char.toNat_inj.mp (by omega))
  have lower : (toLower c).toNat = (r.code k + r.shift).toNat := by omega
  have clear := upperBits_lower r member moved k few
  rw [← lower] at clear
  refine Bool.eq_false_iff.mpr fun again => ?_
  obtain ⟨q, member, within, -⟩ := exists_run again
  obtain ⟨k, few, code⟩ := CaseRun.exists_code within
  have set := upperBits_code q member k few
  rw [← code, clear] at set
  cases set

@[simp]
theorem toLower_toLower (c : Char) : toLower (toLower c) = toLower c := by
  by_cases same : toLower c = c
  · rw [same, same]
  · cases upper : isUpper c with
    | false => exact absurd (toLower_of_not_upper upper) same
    | true => exact toLower_of_not_upper (isUpper_toLower upper same)

/-! ### The small letters -/

theorem toNat_toUpper (small : d.isLower = true) : d.toUpper.toNat + 32 = d.toNat := by
  have range := isLower_iff.mp small
  have within : 'a'.val ≤ d.val ∧ d.val ≤ 'z'.val := by
    simpa [UInt32.le_iff_toNat_le, ← Char.toNat_val] using range
  have upper : d.toUpper.val = d.val + ('A'.val - 'a'.val) := by
    delta Char.toUpper
    rw [dif_pos within]
  rw [← Char.toNat_val, upper, UInt32.toNat_add, Char.toNat_val]
  simp
  omega

theorem isUpper_toUpper (small : d.isLower = true) : d.toUpper.isUpper = true := by
  have range := isLower_iff.mp small
  have code := toNat_toUpper small
  exact isUpper_iff.mpr (by omega)

/-- The upper-case characters that become a small letter: its capital, and for two letters one
more, a capital I with a dot and the sign of the kelvin. -/
inductive Capital (d : Char) : Char → Prop where
  | usual : Capital d d.toUpper
  | dotted : d = 'i' → Capital d '\u0130'
  | kelvin : d = 'k' → Capital d '\u212a'

theorem run_of_small : ∀ r ∈ upperRuns, r.lowest ≤ 0x7a →
    (r.first = 0x41 ∧ r.shift = 32) ∨ (r.first = 0x130 ∧ r.last = 0x130 ∧ r.shift = -199) ∨
      (r.first = 0x212a ∧ r.last = 0x212a ∧ r.shift = -8383) := by
  decide +kernel

theorem eq_of_toNat {n : Nat} (code : c.toNat = n) : c = Char.ofNat n := by
  rw [← code, Char.ofNat_toNat]

theorem capital_of_toLower (upper : isUpper c = true) (small : (toLower c).isLower = true) :
    Capital (toLower c) c := by
  obtain ⟨r, member, -, above, below, lower⟩ := exists_run upper
  have range := isLower_iff.mp small
  have low : r.lowest ≤ 0x7a := by
    unfold CaseRun.lowest
    omega
  rcases run_of_small r member low with ⟨-, shift⟩ | ⟨first, last, shift⟩ | ⟨first, last, shift⟩
  · have capital : c = (toLower c).toUpper := by
      have codes := toNat_toUpper small
      refine Char.toNat_inj.mp ?_
      omega
    exact (congrArg (Capital (toLower c)) capital).mpr .usual
  · have code : c.toNat = 0x130 := by omega
    obtain rfl : c = '\u0130' := eq_of_toNat code
    exact .dotted rfl
  · have code : c.toNat = 0x212a := by omega
    obtain rfl : c = '\u212a' := eq_of_toNat code
    exact .kelvin rfl

theorem run_of_ascii : ∀ r ∈ upperRuns, r.first < 128 → r.first = 0x41 ∧ r.last = 0x5a := by
  decide +kernel

theorem isUpper_of_ascii (ascii : isAscii c = true) (upper : isUpper c = true) :
    c.isUpper = true := by
  obtain ⟨r, member, -, above, below, -⟩ := exists_run upper
  have small : c.toNat < 128 := by simpa [isAscii] using ascii
  obtain ⟨first, last⟩ := run_of_ascii r member (by omega)
  exact isUpper_iff.mpr (by omega)

theorem visible_of_capital (small : d.isLower = true) (capital : Capital d c) : Visible c := by
  cases capital with
  | usual =>
      have range := isLower_iff.mp small
      have code := toNat_toUpper small
      exact visible_of_printable (by omega) (by omega)
  | dotted | kelvin => exact ⟨by decide, by decide, by decide⟩

theorem toLower_capital : ∀ k < 26, isUpper (Char.ofNat (0x61 + k)).toUpper = true ∧
    toLower (Char.ofNat (0x61 + k)).toUpper = Char.ofNat (0x61 + k) := by
  decide +kernel

theorem toLower_of_capital (small : d.isLower = true) (capital : Capital d c) :
    isUpper c = true ∧ toLower c = d := by
  cases capital with
  | usual =>
      obtain ⟨low, high⟩ := isLower_iff.mp small
      have place : d = Char.ofNat (0x61 + (d.toNat - 0x61)) := eq_of_toNat (by omega)
      rw [place]
      exact toLower_capital _ (by omega)
  | dotted same | kelvin same =>
      subst same
      decide +kernel

/-! ### Texts that differ in case -/

/-- Characters that are the same but for the case of an ASCII letter. -/
inductive SameLetter (c d : Char) : Prop where
  | same : c = d → SameLetter c d
  | raised : c.isLower = true → d = c.toUpper → SameLetter c d
  | lowered : d.isLower = true → c = d.toUpper → SameLetter c d

/-- Texts that are the same but for the case of their ASCII letters. -/
def SameButForCase (a b : String) : Prop :=
  List.Forall₂ SameLetter a.toList b.toList

end DumpFlow.Text
