import DumpFlow.Session.Dispatch
import Mathlib.Data.List.TakeWhile

/-!
How an identifier is read back from a statement. A word goes as far as its characters do, and a
name between quotes up to the first quote with no other behind it; a quoted name is read as the one
token that it is meant for, whatever stands in it.
-/

namespace DumpFlow.Identifier

/-! ### Tokens -/

/-- A character that a word may begin with. -/
def Letter (c : Char) : Prop :=
  ('A' ≤ c ∧ c ≤ 'Z') ∨ ('a' ≤ c ∧ c ≤ 'z') ∨ c = '_'

def WordChar (c : Char) : Prop :=
  Letter c ∨ ('0' ≤ c ∧ c ≤ '9')

instance : DecidablePred Letter := fun _ => inferInstanceAs (Decidable (_ ∨ _))

instance : DecidablePred WordChar := fun _ => inferInstanceAs (Decidable (_ ∨ _))

def IsWord (text : List Char) : Prop :=
  ∃ c cs, text = c :: cs ∧ Letter c ∧ ∀ d ∈ cs, WordChar d

/-- Text between two quotes and the name it stands for: a quote is written twice. -/
inductive Between : (text name : List Char) → Prop where
  | nil : Between [] []
  | quote {text name : List Char} : Between text name → Between ('"' :: '"' :: text) ('"' :: name)
  | other {c : Char} {text name : List Char} :
      c ≠ '"' → Between text name → Between (c :: text) (c :: name)

inductive Token where
  | word (name : List Char)
  | delimited (name : List Char)
  deriving DecidableEq, Repr

namespace Token

def name : Token → List Char
  | word name => name
  | delimited name => name

/-- The texts of a token. -/
inductive Spelled : Token → List Char → Prop where
  | word {name : List Char} : IsWord name → Spelled (word name) name
  | delimited {text name : List Char} :
      Between text name → Spelled (delimited name) ('"' :: (text ++ ['"']))

/-- What stands behind a token does not go on with it. -/
def Ends : Token → List Char → Prop
  | word _, rest => ∀ c ∈ rest.head?, ¬ WordChar c
  | delimited _, rest => rest.head? ≠ some '"'

theorem ends_nil (t : Token) : t.Ends [] := by
  cases t <;> exact nofun

end Token

variable {text name rest : List Char}

/-! ### Reading -/

/-- The name in front of the first single quote, and what stands behind that. -/
def readBetween : List Char → Option (List Char × List Char)
  | '"' :: '"' :: rest => (readBetween rest).map (Prod.map ('"' :: ·) id)
  | '"' :: rest => some ([], rest)
  | c :: rest => (readBetween rest).map (Prod.map (c :: ·) id)
  | [] => none

/-- The identifier that a text begins with, and what stands behind it. -/
def read? : List Char → Option (Token × List Char)
  | [] => none
  | c :: cs =>
    if c = '"' then (readBetween cs).map (Prod.map .delimited id)
    else if Letter c then
      some (.word (c :: cs.takeWhile (WordChar ·)), cs.dropWhile (WordChar ·))
    else none

theorem readBetween_eq_some : readBetween text = some (name, rest) ↔
    ∃ body, Between body name ∧ text = body ++ '"' :: rest ∧ rest.head? ≠ some '"' := by
  constructor
  · intro found
    fun_induction readBetween text generalizing name with
    | case1 cs ih =>
        obtain ⟨⟨inner, behind⟩, later, same⟩ := Option.map_eq_some_iff.mp found
        cases same
        obtain ⟨body, between, split, single⟩ := ih later
        exact ⟨_, .quote between, by rw [split]; rfl, single⟩
    | case2 cs double =>
        cases found
        refine ⟨[], .nil, rfl, fun again => ?_⟩
        obtain ⟨more, begun⟩ := List.head?_eq_some_iff.mp again
        exact double more begun
    | case3 c cs double other ih =>
        obtain ⟨⟨inner, behind⟩, later, same⟩ := Option.map_eq_some_iff.mp found
        cases same
        obtain ⟨body, between, split, single⟩ := ih later
        exact ⟨_, .other other between, by rw [split]; rfl, single⟩
    | case4 => cases found
  · rintro ⟨body, between, rfl, single⟩
    induction between with
    | nil =>
        have single : ∀ more, rest ≠ '"' :: more := by
          rintro more rfl
          exact single rfl
        rw [List.nil_append, readBetween]
        exact single
    | quote between ih => simp [readBetween, ih]
    | other other between ih =>
        rw [List.cons_append, readBetween, ih]
        · rfl
        · exact fun _ same _ => other same
        · exact other

/-- Reading finds each token where it ends, and nothing else. -/
theorem read?_eq_some {t : Token} : read? text = some (t, rest) ↔
    ∃ own, t.Spelled own ∧ text = own ++ rest ∧ t.Ends rest := by
  constructor
  · intro found
    cases text with
    | nil => cases found
    | cons c cs =>
        rw [read?] at found
        split at found
        · rename_i opened
          subst opened
          obtain ⟨⟨name, behind⟩, inner, same⟩ := Option.map_eq_some_iff.mp found
          cases same
          obtain ⟨body, between, rfl, single⟩ := readBetween_eq_some.mp inner
          exact ⟨_, .delimited between, by simp, single⟩
        · split at found
          · rename_i first
            cases found
            refine ⟨_, .word ⟨c, _, rfl, first, fun d member => ?_⟩, ?_, fun d next => ?_⟩
            · simpa using List.mem_takeWhile_imp member
            · rw [List.cons_append, List.takeWhile_append_dropWhile]
            · have stopped := List.head?_dropWhile_not (fun c => decide (WordChar c)) cs
              rw [Option.mem_def.mp next] at stopped
              simpa using stopped
          · cases found
  · rintro ⟨own, spelled, rfl, ends⟩
    cases spelled with
    | word is_word =>
        obtain ⟨c, cs, rfl, first, later⟩ := is_word
        have no_quote : c ≠ '"' := by
          rintro rfl
          exact absurd first (by decide)
        have inner : ∀ d ∈ cs, decide (WordChar d) = true := by simpa using later
        rw [List.cons_append, read?, if_neg no_quote, if_pos first,
          List.takeWhile_append_of_pos inner, List.dropWhile_append_of_pos inner]
        cases rest with
        | nil => simp
        | cons d ds =>
            have stops : ¬ WordChar d := ends d rfl
            simp [stops]
    | delimited between =>
        have inner := readBetween_eq_some.mpr ⟨_, between, rfl, ends⟩
        simp [read?, inner]

/-! ### Quoting -/

theorem isFirst_iff {c : Char} : isFirst c = true ↔ Letter c := by
  have bounds : isFirst c = (decide (c.val ≥ 'A'.val ∧ c.val ≤ 'Z'.val) ||
      (decide (c.val ≥ 'a'.val) && decide (c.val ≤ 'z'.val)) || c == '_') := rfl
  simp [bounds, Letter, Char.le_def, or_assoc]

theorem isLater_iff {c : Char} : isLater c = true ↔ WordChar c := by
  have digit : c.isDigit = (decide (c.val ≥ '0'.val) && decide (c.val ≤ '9'.val)) := rfl
  have parts : isLater c = (isFirst c || c.isDigit) := Bool.or_right_comm ..
  rw [parts, Bool.or_eq_true, isFirst_iff, WordChar]
  simp [digit, Char.le_def]

theorem isPlain_iff : isPlain name = true ↔ IsWord name := by
  cases name with
  | nil => simp [isPlain, IsWord]
  | cons c cs =>
      simp only [isPlain, Bool.and_eq_true, isFirst_iff, List.all_eq_true, isLater_iff]
      constructor
      · exact fun ⟨first, later⟩ => ⟨c, cs, rfl, first, later⟩
      · rintro ⟨_, _, ⟨⟩, first, later⟩
        exact ⟨first, later⟩

/-- Doubling the quotes of a name makes it the text that stands for it. -/
theorem between_doubleQuotes (name : List Char) : Between (doubleQuotes name) name := by
  induction name with
  | nil => exact .nil
  | cons c cs ih =>
      by_cases quoted : c = '"'
      · subst quoted
        exact .quote ih
      · have kept : doubleQuotes (c :: cs) = c :: doubleQuotes cs := by
          simp [doubleQuotes, quoted]
        exact kept ▸ .other quoted ih

/-- The token that a name is quoted as. -/
def tokenOf (name : List Char) : Token :=
  if isPlain name then .word name else .delimited name

theorem name_tokenOf (name : List Char) : (tokenOf name).name = name := by
  unfold tokenOf
  split <;> rfl

theorem spelled_quote (name : String) : (tokenOf name.toList).Spelled (quote name).toList := by
  unfold tokenOf quote
  split
  · rename_i plain
    exact .word (isPlain_iff.mp plain)
  · rw [String.toList_ofList]
    exact .delimited (between_doubleQuotes name.toList)

theorem read?_quote (name : String) :
    read? (quote name).toList = some (tokenOf name.toList, []) :=
  read?_eq_some.mpr ⟨_, spelled_quote name, (List.append_nil _).symm, Token.ends_nil _⟩

example : read? (quote "\"a").toList = some (.delimited ['"', 'a'], []) := by decide

theorem quote_inj {name other : String} (same : quote name = quote other) : name = other := by
  have tokens : tokenOf name.toList = tokenOf other.toList := by
    have alike := read?_quote other
    rw [← same, read?_quote name] at alike
    exact congrArg Prod.fst (Option.some_inj.mp alike)
  rw [← String.toList_inj, ← name_tokenOf name.toList, tokens, name_tokenOf]

/-- `t` is what the name of a table becomes in the statement that dumps it. -/
structure Quoted (name : String) (t : Token) : Prop where
  named : t.name = name.toList
  spelled : t.Spelled (quote name).toList
  alone : read? (quote name).toList = some (t, [])
  stated : ∀ label place, ∃ text,
    (Dispatch.statementOf ⟨.table, label, name, place⟩).toList = "SELECT * FROM ".toList ++ text ∧
      read? text = some (t, [])
  faithful : ∀ label place other label' place',
    Dispatch.statementOf ⟨.table, label, name, place⟩ =
      Dispatch.statementOf ⟨.table, label', other, place'⟩ → name = other

/-- Every table name is read back from its statement as one token. -/
theorem exists_quoted (name : String) : ∃ t, Quoted name t := by
  have stated (label : String) (place : Path) (other : String) :
      (Dispatch.statementOf ⟨.table, label, other, place⟩).toList =
        "SELECT * FROM ".toList ++ (quote other).toList :=
    String.toList_append
  refine ⟨tokenOf name.toList, name_tokenOf name.toList, spelled_quote name, read?_quote name,
    fun label place => ⟨_, stated label place name, read?_quote name⟩, ?_⟩
  intro label place other label' place' same
  have texts := congrArg String.toList same
  rw [stated, stated, List.append_cancel_left_eq, String.toList_inj] at texts
  exact quote_inj texts

end DumpFlow.Identifier
