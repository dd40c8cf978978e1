import DumpFlow.Naming
import DumpFlow.Proofs.LetterCase

/-!
What stands in a normalized name. Every character of it can be seen; but a character is looked up
among the unwanted ones before it is lower-cased, so an unwanted small letter may come of a capital
that is wanted. A normalized name without unwanted characters is its own normal form, and where no
letter is unwanted the case of ASCII letters makes no difference.
-/

namespace DumpFlow.NameNormalizer

variable {maxLength : Nat} {escapeChars : String} {replacement delimiter c u : Char}
  {chars : List Char} {n : NameNormalizer} {name : String}

/-- The characters that names are to be kept free of. -/
def Unwanted (escapeChars : String) (delimiter c : Char) : Prop :=
  c = delimiter ∨ c ∈ escapeChars.toList

/-- ASCII letters are wanted, in either case. -/
def LettersWanted (escapeChars : String) (delimiter : Char) : Prop :=
  ∀ c, Unwanted escapeChars delimiter c → c.isUpper = false ∧ c.isLower = false

/-- What a normalizer is made of. -/
structure Made (maxLength : Nat) (escapeChars : String) (replacement delimiter : Char)
    (n : NameNormalizer) : Prop where
  positive : 0 < maxLength
  ascii : ∀ c, Unwanted escapeChars delimiter c → Text.isAscii c = true
  plain : isPlain n.escape n.replacement = true
  eq : n = ⟨maxLength, escapeTable (delimiter :: escapeChars.toList), replacement, delimiter⟩

theorem made_of_make (h : make maxLength escapeChars replacement delimiter = .ok n) :
    Made maxLength escapeChars replacement delimiter n := by
  unfold make at h
  split at h
  · cases h
  · rename_i some_length
    split at h
    · cases h
    · rename_i all_ascii
      split at h
      · cases h
      · rename_i ascii
        simp only at h
        split at h
        · cases h
        · rename_i plain
          cases h
          refine ⟨Nat.pos_of_ne_zero some_length, ?_, by simpa using plain, rfl⟩
          rintro c (rfl | member)
          · simpa using ascii
          · simpa using List.find?_eq_none.mp all_ascii c member

theorem Made.make_eq (made : Made maxLength escapeChars replacement delimiter n) :
    make maxLength escapeChars replacement delimiter = .ok n := by
  have some_length : maxLength ≠ 0 := Nat.ne_of_gt made.positive
  have all_ascii : escapeChars.toList.find? (!Text.isAscii ·) = none :=
    List.find?_eq_none.mpr fun c member => by simpa using made.ascii c (.inr member)
  have ascii := made.ascii delimiter (.inl rfl)
  have plain := made.plain
  rw [made.eq] at plain ⊢
  simp [make, some_length, all_ascii, ascii, plain]

theorem ascii_of_escapes (escaped : escapes (escapeTable chars) c = true) :
    Text.isAscii c = true := by
  rcases Nat.lt_or_ge c.toNat 128 with small | large
  · simpa [Text.isAscii] using small
  · simp [escapes, escapeTable, asciiCodes, large] at escaped

/-- A table of ASCII characters holds what it is made of. -/
theorem escapes_escapeTable (ascii : ∀ d ∈ chars, Text.isAscii d = true) :
    escapes (escapeTable chars) c = true ↔ c ∈ chars := by
  have holds (small : Text.isAscii c = true) :
      escapes (escapeTable chars) c = chars.any (·.toNat == c.toNat) := by
    have small : c.toNat < 128 := by simpa [Text.isAscii] using small
    simp [escapes, escapeTable, asciiCodes, small]
  constructor
  · intro escaped
    rw [holds (ascii_of_escapes escaped)] at escaped
    simpa [Char.toNat_inj] using escaped
  · intro member
    rw [holds (ascii c member)]
    simpa [Char.toNat_inj] using member

namespace Made

variable (made : Made maxLength escapeChars replacement delimiter n)

include made

theorem maxLength_eq : n.maxLength = maxLength := by
  rw [made.eq]

theorem delimiter_eq : n.delimiter = delimiter := by
  rw [made.eq]

theorem escapes_iff : escapes n.escape c = true ↔ Unwanted escapeChars delimiter c := by
  have ascii : ∀ d ∈ delimiter :: escapeChars.toList, Text.isAscii d = true := fun d member =>
    made.ascii d (List.mem_cons.mp member)
  rw [made.eq, escapes_escapeTable ascii, List.mem_cons, Unwanted]

theorem replacement_wanted : ¬ Unwanted escapeChars delimiter n.replacement := by
  have plain := made.plain
  rw [← made.escapes_iff]
  simp only [isPlain, Bool.and_eq_true, Bool.not_eq_true'] at plain
  simpa using plain.2

theorem replacement_visible : Text.Visible n.replacement := by
  have plain := made.plain
  simp only [isPlain, Bool.and_eq_true, decide_eq_true_eq] at plain
  exact Text.visible_of_printable plain.1.1.1 plain.1.1.2

theorem isEscaped_iff : n.isEscaped c = false ↔
    Text.Visible c ∧ ¬ Unwanted escapeChars delimiter c := by
  rw [← made.escapes_iff]
  unfold isEscaped
  simp only [Bool.or_eq_false_iff, decide_eq_false_iff_not, Nat.not_lt, Bool.not_eq_true]
  exact ⟨fun ⟨⟨⟨shown, filled⟩, plane⟩, wanted⟩ => ⟨⟨plane, shown, filled⟩, wanted⟩,
    fun ⟨⟨plane, shown, filled⟩, wanted⟩ => ⟨⟨⟨shown, filled⟩, plane⟩, wanted⟩⟩

/-- A character gives way to the replacement or to its lower-case form. -/
theorem mapChar_cases : n.mapChar u = n.replacement ∨
    (n.mapChar u = Text.toLower u ∧ Text.Visible u ∧ ¬ Unwanted escapeChars delimiter u) := by
  unfold mapChar
  split
  · exact .inl rfl
  · rename_i kept
    exact .inr ⟨rfl, made.isEscaped_iff.mp (by simpa using kept)⟩

theorem visible_mapChar : Text.Visible (n.mapChar u) := by
  rcases made.mapChar_cases (u := u) with same | ⟨same, visible, -⟩
  · exact same ▸ made.replacement_visible
  · rw [same]
    cases upper : Text.isUpper u with
    | false => exact (Text.toLower_of_not_upper upper).symm ▸ visible
    | true => exact (Text.lowered_toLower upper).toVisible

/-- What is unwanted and comes in nevertheless is a small letter, in the place of a capital. -/
theorem capital_of_unwanted (unwanted : Unwanted escapeChars delimiter (n.mapChar u)) :
    (n.mapChar u).isLower = true ∧ Text.Capital (n.mapChar u) u ∧
      ¬ Unwanted escapeChars delimiter u := by
  rcases made.mapChar_cases (u := u) with same | ⟨same, -, wanted⟩
  · exact absurd (same ▸ unwanted) made.replacement_wanted
  · have ascii := made.ascii _ unwanted
    rw [same] at unwanted ascii ⊢
    cases upper : Text.isUpper u with
    | false => exact absurd (Text.toLower_of_not_upper upper ▸ unwanted) wanted
    | true =>
        have small := (Text.lowered_toLower upper).small ascii
        exact ⟨small, Text.capital_of_toLower upper small, wanted⟩

theorem mapChar_capital (small : c.isLower = true) (capital : Text.Capital c u)
    (wanted : ¬ Unwanted escapeChars delimiter u) : n.mapChar u = c := by
  have kept := made.isEscaped_iff.mpr ⟨Text.visible_of_capital small capital, wanted⟩
  simp only [mapChar, kept, Bool.false_eq_true, if_false]
  exact (Text.toLower_of_capital small capital).2

theorem mapChar_self (visible : Text.Visible c) (wanted : ¬ Unwanted escapeChars delimiter c)
    (other : Text.isUpper c = false) : n.mapChar c = c := by
  have kept := made.isEscaped_iff.mpr ⟨visible, wanted⟩
  simp only [mapChar, kept, Bool.false_eq_true, if_false]
  exact Text.toLower_of_not_upper other

theorem isUpper_replacement : Text.isUpper n.replacement = false := by
  have plain := made.plain
  simp only [isPlain, Bool.and_eq_true, decide_eq_true_eq, Bool.not_eq_true'] at plain
  obtain ⟨⟨⟨-, below⟩, other⟩, -⟩ := plain
  have ascii : Text.isAscii n.replacement = true := by
    simp only [Text.isAscii, decide_eq_true_eq]
    omega
  refine Bool.eq_false_iff.mpr fun upper => ?_
  rw [Text.isUpper_of_ascii ascii upper] at other
  cases other

theorem toLower_mapChar : Text.toLower (n.mapChar u) = n.mapChar u := by
  rcases made.mapChar_cases (u := u) with same | ⟨same, -, -⟩
  · rw [same]
    exact Text.toLower_of_not_upper made.isUpper_replacement
  · rw [same, Text.toLower_toLower]

/-- A character that has come in stays as it is, unless it is unwanted. -/
theorem mapChar_mapChar :
    n.mapChar (n.mapChar u) = n.mapChar u ↔ ¬ Unwanted escapeChars delimiter (n.mapChar u) := by
  constructor
  · intro same unwanted
    exact (made.capital_of_unwanted (same.symm ▸ unwanted)).2.2 unwanted
  · intro wanted
    have kept := made.isEscaped_iff.mpr ⟨made.visible_mapChar, wanted⟩
    rw [mapChar, kept, if_neg Bool.false_ne_true]
    exact made.toLower_mapChar

/-- A capital gets the place of its small letter. -/
theorem mapChar_toUpper (letters : LettersWanted escapeChars delimiter) (small : c.isLower = true) :
    n.mapChar c.toUpper = n.mapChar c := by
  have wanted : ¬ Unwanted escapeChars delimiter c := fun unwanted =>
    Bool.false_ne_true ((letters c unwanted).2.symm.trans small)
  have capital_wanted : ¬ Unwanted escapeChars delimiter c.toUpper := fun unwanted =>
    Bool.false_ne_true ((letters c.toUpper unwanted).1.symm.trans (Text.isUpper_toUpper small))
  have lowered : n.mapChar c.toUpper = c := made.mapChar_capital small .usual capital_wanted
  have kept := made.mapChar_mapChar (u := c.toUpper)
  rw [lowered] at kept ⊢
  exact (kept.mpr wanted).symm

theorem mapChar_of_sameLetter (letters : LettersWanted escapeChars delimiter)
    (same : Text.SameLetter c u) : n.mapChar c = n.mapChar u := by
  cases same with
  | same equal => rw [equal]
  | raised small equal => rw [equal, made.mapChar_toUpper letters small]
  | lowered small equal => rw [equal, made.mapChar_toUpper letters small]

end Made

theorem mem_normalize : c ∈ (n.normalize name).toList ↔
    ∃ u ∈ name.toList.take n.maxLength, n.mapChar u = c := by
  rw [normalize, String.toList_ofList, List.mem_map]

theorem length_normalize : (n.normalize name).length = min n.maxLength name.length := by
  rw [normalize, String.length_ofList, List.length_map, List.length_take, String.length_toList]

theorem normalize_eq_self (short : name.length ≤ n.maxLength) :
    n.normalize name = name ↔ ∀ c ∈ name.toList, n.mapChar c = c := by
  have short : name.toList.length ≤ n.maxLength := by
    rwa [String.length_toList]
  rw [normalize, List.take_of_length_le short, ← String.toList_inj, String.toList_ofList]
  simpa using List.map_inj_left (l := name.toList) (f := n.mapChar) (g := id)

/-- A normalized name is its own normal form if it is free of unwanted characters. -/
theorem Made.normalize_normalize (made : Made maxLength escapeChars replacement delimiter n) :
    n.normalize (n.normalize name) = n.normalize name ↔
      ∀ c ∈ (n.normalize name).toList, ¬ Unwanted escapeChars delimiter c := by
  have short : (n.normalize name).length ≤ n.maxLength := by
    rw [length_normalize]
    exact Nat.min_le_left ..
  have kept : (∀ c ∈ (n.normalize name).toList, n.mapChar c = c) ↔
      ∀ c ∈ (n.normalize name).toList, ¬ Unwanted escapeChars delimiter c := by
    refine forall₂_congr fun c member => ?_
    obtain ⟨u, -, rfl⟩ := mem_normalize.mp member
    exact made.mapChar_mapChar
  rw [← kept]
  exact normalize_eq_self short

/-- Where letters are wanted, texts that differ in their case have one normal form. -/
theorem Made.normalize_congr (made : Made maxLength escapeChars replacement delimiter n)
    (letters : LettersWanted escapeChars delimiter) {a b : String}
    (same : Text.SameButForCase a b) : n.normalize a = n.normalize b := by
  have taken := List.forall₂_take n.maxLength same
  have mapped : List.Forall₂ (· = ·) ((a.toList.take n.maxLength).map n.mapChar)
      ((b.toList.take n.maxLength).map n.mapChar) := by
    rw [List.forall₂_map_left_iff, List.forall₂_map_right_iff]
    exact taken.imp fun c u => made.mapChar_of_sameLetter letters
  rw [List.forall₂_eq_eq_eq] at mapped
  rw [normalize, normalize, mapped]

/-- An unwanted character that is no small letter never comes in. -/
theorem Made.not_mem_normalize (made : Made maxLength escapeChars replacement delimiter n)
    (unwanted : Unwanted escapeChars delimiter c) (other : c.isLower = false) (name : String) :
    c ∉ (n.normalize name).toList := by
  intro member
  obtain ⟨u, -, rfl⟩ := mem_normalize.mp member
  have small := (made.capital_of_unwanted unwanted).1
  rw [other] at small
  cases small

/-- What a normalizer makes of names. -/
structure Normal (maxLength : Nat) (escapeChars : String) (delimiter : Char)
    (n : NameNormalizer) : Prop where
  length : ∀ name, (n.normalize name).length = min maxLength name.length
  visible : ∀ name, ∀ c ∈ (n.normalize name).toList,
    Text.isControl c = false ∧ Text.isBlank c = false ∧ c.toNat ≤ 0xffff
  /-- An unwanted character can only come of a capital that is wanted. -/
  unwanted : ∀ name, ∀ c ∈ (n.normalize name).toList, Unwanted escapeChars delimiter c →
    c.isLower = true ∧ ∃ u ∈ name.toList.take maxLength,
      Text.Capital c u ∧ ¬ Unwanted escapeChars delimiter u
  free_iff : (∀ name, ∀ c ∈ (n.normalize name).toList, ¬ Unwanted escapeChars delimiter c) ↔
    ∀ c, Unwanted escapeChars delimiter c → c.isLower = true →
      c ≠ 'i' ∧ c ≠ 'k' ∧ Unwanted escapeChars delimiter c.toUpper

theorem normal (h : make maxLength escapeChars replacement delimiter = .ok n) :
    Normal maxLength escapeChars delimiter n := by
  have made := made_of_make h
  have origin : ∀ name, ∀ c ∈ (n.normalize name).toList, Unwanted escapeChars delimiter c →
      c.isLower = true ∧ ∃ u ∈ name.toList.take maxLength,
        Text.Capital c u ∧ ¬ Unwanted escapeChars delimiter u := by
    intro name c member unwanted
    obtain ⟨u, taken, rfl⟩ := mem_normalize.mp member
    obtain ⟨small, capital, wanted⟩ := made.capital_of_unwanted unwanted
    exact ⟨small, u, made.maxLength_eq ▸ taken, capital, wanted⟩
  refine ⟨fun name => ?_, fun name c member => ?_, origin, ?_⟩
  · rw [length_normalize, made.maxLength_eq]
  · obtain ⟨u, -, rfl⟩ := mem_normalize.mp member
    have visible := made.visible_mapChar (u := u)
    exact ⟨visible.shown, visible.filled, visible.plane⟩
  · constructor
    · intro free c unwanted small
      -- A name of one capital shows whether that capital is unwanted too.
      have closed : ∀ u, Text.Capital c u → Unwanted escapeChars delimiter u := by
        intro u capital
        refine Classical.byContradiction fun wanted => free (String.ofList [u]) c ?_ unwanted
        refine mem_normalize.mpr ⟨u, ?_, made.mapChar_capital small capital wanted⟩
        have some_length := made.maxLength_eq ▸ made.positive
        rw [String.toList_ofList, List.take_of_length_le some_length]
        exact List.mem_singleton_self u
      refine ⟨fun same => ?_, fun same => ?_, closed _ .usual⟩
      · cases made.ascii _ (closed _ (.dotted same))
      · cases made.ascii _ (closed _ (.kelvin same))
    · intro closed name c member unwanted
      obtain ⟨small, u, -, capital, wanted⟩ := origin name c member unwanted
      obtain ⟨not_i, not_k, both⟩ := closed c unwanted small
      cases capital with
      | usual => exact wanted both
      | dotted same => exact not_i same
      | kelvin same => exact not_k same

theorem normal_cut : make 2 "/" '_' '-' = .ok ⟨2, escapeTable ['-', '/'], '_', '-'⟩ ∧
    Normal 2 "/" '-' ⟨2, escapeTable ['-', '/'], '_', '-'⟩ := by
  have made : make 2 "/" '_' '-' = .ok ⟨2, escapeTable ['-', '/'], '_', '-'⟩ := rfl
  exact ⟨made, normal made⟩

/-- A small letter for a delimiter comes into names with its capital. -/
theorem delimiter_of_capital : ∃ n, make 10 "" '_' 'a' = .ok n ∧ n.normalize "A" = "a" ∧
    ¬ ∀ c ∈ (n.normalize "A").toList, ¬ Unwanted "" 'a' c := by
  have same : (⟨10, escapeTable ['a'], '_', 'a'⟩ : NameNormalizer).normalize "A" = "a" := by
    decide +kernel
  refine ⟨⟨10, escapeTable ['a'], '_', 'a'⟩, rfl, same, ?_⟩
  rw [same]
  exact fun free => free 'a' (by decide) (.inl rfl)

end DumpFlow.NameNormalizer
