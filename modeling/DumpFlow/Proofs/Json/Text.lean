import DumpFlow.Json.Token
import DumpFlow.Json.Writer
import Mathlib.Tactic.SplitIfs

/-!
How single values are read back from what is written for them: a whole number from its digits, and
a text from its escapes, one character at a time.
-/

namespace DumpFlow.Json

variable {c : Char} {cs : List Char} {n : Nat}

/-! ### Whole numbers -/

theorem isDigit_iff : c.isDigit = true ↔ 48 ≤ c.toNat ∧ c.toNat ≤ 57 := by
  have bounds : c.isDigit = (decide ('0'.val ≤ c.val) && decide (c.val ≤ '9'.val)) := rfl
  simp [bounds, UInt32.le_iff_toNat_le, ← Char.toNat_val]

theorem digit?_eq (digit : c.isDigit = true) : digit? c = some (c.toNat - 48) := by
  have range : '0' ≤ c ∧ c ≤ '9' := by
    simpa [Char.isDigit, Char.le_def] using digit
  exact if_pos range

theorem takeDigits_eq (all : ∀ c ∈ cs, c.isDigit = true) :
    takeDigits cs = (cs.map (·.toNat - 48), []) := by
  induction cs with
  | nil => rfl
  | cons c cs ih =>
      obtain ⟨first, rest⟩ := List.forall_mem_cons.mp all
      simp only [takeDigits, digit?_eq first, ih rest, List.map_cons]

theorem isDigit_of_mem (member : c ∈ Nat.toDigits 10 n) : c.isDigit = true :=
  Nat.isDigit_of_mem_toDigits (by decide) (by decide) member

/-- A number other than zero does not begin with a zero. -/
theorem head?_toDigits_ne (positive : 0 < n) : (Nat.toDigits 10 n).head? ≠ some '0' := by
  induction n using Nat.strongRecOn with
  | ind n ih =>
      rw [Nat.toDigits_eq_if (by decide)]
      split
      · simpa using Nat.ne_of_gt positive
      · have shorter := ih (n / 10) (by omega) (by omega)
        rw [List.head?_append]
        cases leading : (Nat.toDigits 10 (n / 10)).head? with
        | none => exact absurd (List.head?_eq_none_iff.mp leading) Nat.toDigits_ne_nil
        | some c => rwa [leading] at shorter

/-- The values of the digits of a number. -/
def digits (n : Nat) : List Nat :=
  (Nat.toDigits 10 n).map (·.toNat - 48)

theorem ofDigits_digits (n : Nat) : Literal.ofDigits (digits n) = n := by
  have value : Nat.ofDigitChars 10 (Nat.toDigits 10 n) 0 = n := Nat.ofDigitChars_ten_toDigits
  have zero : '0'.toNat = 48 := rfl
  rw [Literal.ofDigits, digits, List.foldl_map]
  simpa only [Nat.ofDigitChars, Nat.mul_comm 10, zero] using value

theorem leading_digits (n : Nat) :
    (digits n).length = 1 ∨ (digits n).head?.any (· != 0) = true := by
  rcases Nat.eq_zero_or_pos n with rfl | positive
  · exact .inl rfl
  · obtain ⟨c, rest, split⟩ := List.exists_cons_of_ne_nil (Nat.toDigits_ne_nil (b := 10) (n := n))
    have first : c ≠ '0' := by
      have leading := head?_toDigits_ne positive
      simpa [split] using leading
    have digit := isDigit_iff.mp (isDigit_of_mem (split ▸ List.mem_cons_self : c ∈ _))
    have large : c.toNat ≠ 48 := fun same => first (Char.toNat_inj.mp same)
    refine .inr ?_
    simp [digits, split]
    omega

theorem unsigned?_toDigits (negative : Bool) (n : Nat) :
    Literal.unsigned? negative (Nat.toDigits 10 n) = some ⟨negative, digits n, none, none⟩ := by
  have taken : takeDigits (Nat.toDigits 10 n) = (digits n, []) :=
    takeDigits_eq fun c member => isDigit_of_mem member
  have allowed : guard ((digits n).length = 1 ∨ (digits n).head?.any (· != 0)) = some () :=
    if_pos (leading_digits n)
  unfold Literal.unsigned?
  rw [taken]
  dsimp only
  rw [allowed]
  rfl

/-- The literal that is written for a number. -/
def Number.literal (n : Number) : Literal :=
  (Literal.ofChars? n.render).getD ⟨false, [], none, none⟩

/-- What is written for a number is one word, and a literal. -/
structure Number.Legible (n : Number) : Prop where
  word : ∀ c ∈ n.render, isWord c = true
  literal : Literal.ofChars? n.render = some n.literal

theorem isWord_of_isDigit (digit : c.isDigit = true) : isWord c = true := by
  simp [isWord, Char.isAlphanum, digit]

theorem Number.ofChars?_natural (n : Nat) :
    Literal.ofChars? (Number.natural n).render = some ⟨false, digits n, none, none⟩ := by
  have no_sign : ∀ rest, Nat.toDigits 10 n ≠ '-' :: rest := by
    intro rest same
    have digit : '-'.isDigit = true := isDigit_of_mem (same ▸ List.mem_cons_self)
    cases digit
  rw [Number.render, ← unsigned?_toDigits]
  unfold Literal.ofChars?
  split
  · exact absurd ‹_› (no_sign _)
  · rfl

/-- A number without a sign can be read back. -/
theorem Number.legible_natural (n : Nat) : (Number.natural n).Legible := by
  refine ⟨fun c member => isWord_of_isDigit (isDigit_of_mem member), ?_⟩
  rw [Number.literal, Number.ofChars?_natural]
  rfl

theorem Number.natural?_literal (fits : n ≤ greatestNatural) :
    (Number.natural n).literal.natural? = some n := by
  rw [Number.literal, Number.ofChars?_natural]
  simp [Literal.natural?, Literal.isWhole, ofDigits_digits, fits]

/-! ### Texts -/

theorem hexValue?_hexDigit : ∀ d, d < 16 → hexValue? (Text.hexDigit d) = some d := by
  decide

/-- The scanner within a text of which `past` has been read, last first. -/
def within (past : List Char) (tokens : List Token) : Scanner :=
  ⟨.text ⟨some past, none⟩, tokens⟩

theorem scan_escapeControl {past : List Char} {tokens : List Token} (control : c.toNat < 0x20) :
    (escapeControl c).foldlM Scanner.step? (within past tokens) =
      some (within (c :: past) tokens) := by
  have high := hexValue?_hexDigit (c.toNat / 16) (by omega)
  have low := hexValue?_hexDigit (c.toNat % 16) (by omega)
  have zero : hexValue? '0' = some 0 := rfl
  have whole : c.toNat / 16 * 16 + c.toNat % 16 = c.toNat := by omega
  have alone : ¬ (0xd800 ≤ c.toNat ∧ c.toNat < 0xdc00) := by omega
  have alone' : ¬ (0xdc00 ≤ c.toNat ∧ c.toNat < 0xe000) := by omega
  simp [escapeControl, within, Scanner.step?, high, low, zero, whole, Content.pushUnit, alone,
    alone']

/-- Each character comes back from its escape, or stands for itself. -/
theorem scan_escapeChar (c : Char) (past : List Char) (tokens : List Token) :
    (escapeChar c).foldlM Scanner.step? (within past tokens) =
      some (within (c :: past) tokens) := by
  unfold escapeChar
  split_ifs with quote backslash back feed line carriage tab control
  · subst quote; rfl
  · subst backslash; rfl
  · subst back; rfl
  · subst feed; rfl
  · subst line; rfl
  · subst carriage; rfl
  · subst tab; rfl
  · exact scan_escapeControl control
  · simp [within, Scanner.step?, quote, backslash, control, Content.push]

theorem scan_escaped (cs past : List Char) (tokens : List Token) :
    (cs.flatMap escapeChar).foldlM Scanner.step? (within past tokens) =
      some (within (cs.reverse ++ past) tokens) := by
  induction cs generalizing past with
  | nil => rfl
  | cons c cs ih =>
      rw [List.flatMap_cons, List.foldlM_append, scan_escapeChar, Option.bind_eq_bind,
        Option.bind_some, ih, List.reverse_cons, List.append_assoc]
      rfl

theorem scan_renderText (s : String) (tokens : List Token) :
    (renderText s).foldlM Scanner.step? ⟨.between, tokens⟩ =
      some ⟨.between, .text (some s) :: tokens⟩ := by
  have opened : Scanner.step? ⟨.between, tokens⟩ '"' = some (within [] tokens) := rfl
  have closed : Scanner.step? (within s.toList.reverse tokens) '"' =
      some ⟨.between, .text (some s) :: tokens⟩ := by
    simp [within, Scanner.step?, Content.text]
  rw [renderText, List.cons_append, List.foldlM_cons, opened, Option.bind_eq_bind,
    Option.bind_some, List.foldlM_append, scan_escaped, List.append_nil]
  simpa using closed

end DumpFlow.Json
