import DumpFlow.Selection.Label

/-!
Which commands have a label. The search for one reads a grammar; and where it is carried out on
byte offsets, which are cut out of the command at its end, every cut falls between two characters.
-/

namespace DumpFlow.LabeledQuery

variable {delimiter c : Char} {state : Search} {cs past label rest : List Char} {command : String}

/-- All characters of a text are of one class. -/
def AllOf (delimiter : Char) (kind : CharClass) (cs : List Char) : Prop :=
  ∀ c ∈ cs, classify delimiter c = kind

/-- A text with nothing but blanks in front of its first delimiter. -/
def Opens (delimiter : Char) (cs : List Char) : Prop :=
  ∃ blanks rest, cs = blanks ++ delimiter :: rest ∧ AllOf delimiter .space blanks

/-- A text with one word in front of its first delimiter, blanks around it apart. -/
structure Labels (delimiter : Char) (cs label rest : List Char) : Prop where
  split : ∃ before after, cs = before ++ label ++ after ++ delimiter :: rest ∧
    AllOf delimiter .space before ∧ AllOf delimiter .space after
  some_label : label ≠ []
  normal : AllOf delimiter .normal label

/-- What becomes of a command with a label. -/
def labeled (command label rest : String) : Except DumpFault LabeledQuery :=
  if Text.trim rest = "" then .error (.argument (.noQueryAfterLabel command))
  else .ok ⟨some label, Text.trim rest⟩

/-- What becomes of a command without a label. -/
def unlabeled (command : String) : Except DumpFault LabeledQuery :=
  if Text.trim command = "" then .error (.argument .noQuery)
  else .ok ⟨none, Text.trim command⟩

/-! ### The search and its grammar -/

theorem classify_eq_delimiter : classify delimiter c = .delimiter ↔ c = delimiter := by
  unfold classify
  split
  · simp_all
  · split
    · simp_all
    · split <;> simp_all

@[simp]
theorem classify_self : classify delimiter delimiter = .delimiter :=
  classify_eq_delimiter.mpr rfl

theorem AllOf.cons {kind : CharClass} (first : classify delimiter c = kind)
    (others : AllOf delimiter kind cs) : AllOf delimiter kind (c :: cs) :=
  List.forall_mem_cons.mpr ⟨first, others⟩

theorem search_ahead (blank : AllOf delimiter .space past) :
    search delimiter .ahead (past ++ cs) = search delimiter .ahead cs := by
  induction past with
  | nil => rfl
  | cons c past ih =>
      obtain ⟨first, others⟩ := List.forall_mem_cons.mp blank
      simp only [List.cons_append, search, first]
      exact ih others

theorem search_body (normal : AllOf delimiter .normal past) :
    search delimiter (.body label) (past ++ cs) =
      search delimiter (.body (past.reverse ++ label)) cs := by
  induction past generalizing label with
  | nil => rfl
  | cons c past ih =>
      obtain ⟨first, others⟩ := List.forall_mem_cons.mp normal
      simp only [List.cons_append, search, first]
      rw [ih others, List.reverse_cons, List.append_assoc]
      rfl

theorem search_padding (blank : AllOf delimiter .space past) :
    search delimiter (.padding label) (past ++ cs) = search delimiter (.padding label) cs := by
  induction past with
  | nil => rfl
  | cons c past ih =>
      obtain ⟨first, others⟩ := List.forall_mem_cons.mp blank
      simp only [List.cons_append, search, first]
      exact ih others

/-- Blanks after a label do not matter, whether there are any or not. -/
theorem search_after (blank : AllOf delimiter .space past) :
    search delimiter (.body label) (past ++ delimiter :: cs) = .label label.reverse cs := by
  cases past with
  | nil => simp [search]
  | cons c past =>
      obtain ⟨first, others⟩ := List.forall_mem_cons.mp blank
      simp only [List.cons_append, search, first]
      rw [search_padding others]
      simp [search]

theorem Opens.search (h : Opens delimiter cs) : search delimiter .ahead cs = .emptyLabel := by
  obtain ⟨blanks, rest, rfl, blank⟩ := h
  rw [search_ahead blank]
  simp [LabeledQuery.search]

theorem Labels.search (h : Labels delimiter cs label rest) :
    search delimiter .ahead cs = .label label rest := by
  obtain ⟨⟨before, after, rfl, blank, blank'⟩, some_label, normal⟩ := h
  obtain ⟨c, more, rfl⟩ := List.exists_cons_of_ne_nil some_label
  obtain ⟨first, others⟩ := List.forall_mem_cons.mp normal
  rw [List.append_assoc, List.append_assoc, search_ahead blank]
  simp only [List.cons_append, LabeledQuery.search, first]
  rw [search_body others, search_after blank']
  simp

/-- What has been read when a search in this state finds a label: a part of the label, if it has
begun, and what is left to read of it. -/
def Search.Reads (delimiter : Char) (cs label rest : List Char) : Search → Prop
  | .ahead => Labels delimiter cs label rest
  | .body read => ∃ more after, label = read.reverse ++ more ∧
      cs = more ++ after ++ delimiter :: rest ∧ AllOf delimiter .normal more ∧
      AllOf delimiter .space after
  | .padding read => ∃ after, label = read.reverse ∧ cs = after ++ delimiter :: rest ∧
      AllOf delimiter .space after

theorem reads_of_search (found : search delimiter state cs = .label label rest) :
    state.Reads delimiter cs label rest := by
  fun_induction search delimiter state cs with
  | case1 | case4 | case5 | case9 | case12 | case13 => cases found
  | case2 c cs blank ih =>
      obtain ⟨⟨before, after, rfl, blank', blank''⟩, some_label, normal⟩ := ih found
      exact ⟨⟨c :: before, after, rfl, .cons blank blank', blank''⟩, some_label, normal⟩
  | case3 c cs first ih =>
      obtain ⟨more, after, rfl, rfl, normal, blank⟩ := ih found
      refine ⟨⟨[], after, by simp, nofun, blank⟩, by simp, ?_⟩
      simpa using AllOf.cons first normal
  | case6 read c cs blank ih =>
      obtain ⟨after, rfl, rfl, blank'⟩ := ih found
      exact ⟨[], c :: after, by simp, rfl, nofun, .cons blank blank'⟩
  | case7 read c cs first ih =>
      obtain ⟨more, after, rfl, rfl, normal, blank⟩ := ih found
      exact ⟨c :: more, after, by simp, rfl, .cons first normal, blank⟩
  | case8 read c cs here =>
      cases found
      rw [classify_eq_delimiter.mp here]
      exact ⟨[], [], by simp, rfl, nofun, nofun⟩
  | case10 read c cs blank ih =>
      obtain ⟨after, rfl, rfl, blank'⟩ := ih found
      exact ⟨c :: after, rfl, rfl, .cons blank blank'⟩
  | case11 read c cs here =>
      cases found
      rw [classify_eq_delimiter.mp here]
      exact ⟨[], rfl, rfl, nofun⟩

theorem opens_of_search (found : search delimiter state cs = .emptyLabel) :
    state = .ahead ∧ Opens delimiter cs := by
  fun_induction search delimiter state cs with
  | case1 | case5 | case8 | case9 | case11 | case12 | case13 => cases found
  | case2 c cs blank ih =>
      obtain ⟨-, blanks, rest, rfl, blank'⟩ := ih found
      exact ⟨rfl, c :: blanks, rest, rfl, .cons blank blank'⟩
  | case3 _ _ _ ih | case6 _ _ _ _ ih | case7 _ _ _ _ ih | case10 _ _ _ _ ih =>
      cases (ih found).1
  | case4 c cs here =>
      rw [classify_eq_delimiter.mp here]
      exact ⟨rfl, [], cs, rfl, nofun⟩

/-! ### The search on byte offsets -/

/-- How far a search on byte offsets has come; a label is known by where it starts and stops. -/
inductive Scan where
  | ahead
  | body (start : Nat)
  | padding (start stop : Nat)

/-- What a search on byte offsets finds; of a label also where the text after its delimiter
starts. -/
inductive Cut where
  | emptyLabel
  | label (start stop after : Nat)
  | nothing

/-- The search of the characters from byte offset `i` on. -/
def scan (delimiter : Char) : Scan → Nat → List Char → Cut
  | _, _, [] => .nothing
  | .ahead, i, c :: cs =>
    match classify delimiter c with
    | .space => scan delimiter .ahead (i + c.utf8Size) cs
    | .normal => scan delimiter (.body i) (i + c.utf8Size) cs
    | .delimiter => .emptyLabel
    | .stop => .nothing
  | .body start, i, c :: cs =>
    match classify delimiter c with
    | .space => scan delimiter (.padding start i) (i + c.utf8Size) cs
    | .normal => scan delimiter (.body start) (i + c.utf8Size) cs
    | .delimiter => .label start i (i + c.utf8Size)
    | .stop => .nothing
  | .padding start stop, i, c :: cs =>
    match classify delimiter c with
    | .space => scan delimiter (.padding start stop) (i + c.utf8Size) cs
    | .delimiter => .label start stop (i + c.utf8Size)
    | .normal | .stop => .nothing

/-- The text between two byte offsets; none if they are out of order, or if one of them is not
between two characters. -/
def slice? (s : String) (start stop : Nat) : Option String :=
  if h : start ≤ stop ∧ String.Pos.Raw.IsValid s ⟨start⟩ ∧ String.Pos.Raw.IsValid s ⟨stop⟩ then
    some (s.extract (s.pos ⟨start⟩ h.2.1) (s.pos ⟨stop⟩ h.2.2))
  else none

/-- The reading of a command by byte offsets; none if a cut fails. -/
def parseCut? (command : String) (delimiter : Char) : Option (Except DumpFault LabeledQuery) :=
  match scan delimiter .ahead 0 command.toList with
  | .emptyLabel => some (.error (.argument (.noQueryLabel command)))
  | .label start stop after =>
    (slice? command start stop).bind fun label =>
      (slice? command after command.utf8ByteSize).map fun rest => labeled command label rest
  | .nothing => some (unlabeled command)

/-- How many bytes a text takes. -/
def bytes (cs : List Char) : Nat :=
  (String.ofList cs).utf8ByteSize

@[simp]
theorem bytes_append (cs ds : List Char) : bytes (cs ++ ds) = bytes cs + bytes ds := by
  simp [bytes, String.utf8ByteSize_append]

@[simp]
theorem bytes_singleton (c : Char) : bytes [c] = c.utf8Size := by
  simp [bytes]

/-- Past `past`, a search on byte offsets stands where one on characters does. -/
inductive Follows (past : List Char) : Scan → Search → Prop where
  | ahead : Follows past .ahead .ahead
  | body (before label : List Char) : past = before ++ label →
      Follows past (.body (bytes before)) (.body label.reverse)
  | padding (before label after : List Char) : past = before ++ label ++ after →
      Follows past (.padding (bytes before) (bytes (before ++ label))) (.padding label.reverse)

/-- Byte offsets that cut out of `cs` what was found in it. -/
inductive Cuts (cs : List Char) : Cut → Found → Prop where
  | emptyLabel : Cuts cs .emptyLabel .emptyLabel
  | label (before label after rest : List Char) (c : Char) :
      cs = before ++ label ++ after ++ c :: rest →
      Cuts cs (.label (bytes before) (bytes (before ++ label))
        (bytes (before ++ label ++ after ++ [c]))) (.label label rest)
  | nothing : Cuts cs .nothing .nothing

theorem scan_cuts {at_ : Scan} (h : Follows past at_ state) :
    Cuts (past ++ cs) (scan delimiter at_ (bytes past) cs) (search delimiter state cs) := by
  induction cs generalizing past at_ state with
  | nil => cases h <;> exact .nothing
  | cons c cs ih =>
      have next {at_ : Scan} {state : Search} (h : Follows (past ++ [c]) at_ state) :
          Cuts (past ++ c :: cs) (scan delimiter at_ (bytes past + c.utf8Size) cs)
            (search delimiter state cs) := by
        simpa using ih h
      cases h with
      | ahead =>
          simp only [scan, search]
          cases classify delimiter c with
          | space => exact next .ahead
          | normal => exact next (.body past [c] rfl)
          | delimiter => exact .emptyLabel
          | stop => exact .nothing
      | body before label split =>
          subst split
          simp only [scan, search]
          cases classify delimiter c with
          | space => exact next (.padding before label [c] rfl)
          | normal => simpa using next (.body before (label ++ [c]) (by simp))
          | delimiter =>
              have here : Cuts (before ++ label ++ c :: cs) _ _ :=
                .label before label [] cs c (by simp)
              simpa [Nat.add_assoc] using here
          | stop => exact .nothing
      | padding before label after split =>
          subst split
          simp only [scan, search]
          cases classify delimiter c with
          | space => exact next (.padding before label (after ++ [c]) (by simp))
          | normal => exact .nothing
          | delimiter =>
              have here : Cuts (before ++ label ++ after ++ c :: cs) _ _ :=
                .label before label after cs c rfl
              simpa [Nat.add_assoc] using here
          | stop => exact .nothing

theorem bytes_eq_size (cs : List Char) : bytes cs = cs.utf8Encode.size := by
  rw [bytes, ← String.size_toByteArray, String.toByteArray_ofList]

theorem isValid_bytes (cs ds : List Char) :
    String.Pos.Raw.IsValid (String.ofList (cs ++ ds)) ⟨bytes cs⟩ :=
  String.Pos.Raw.isValid_ofList.mpr ⟨cs.length, by simp [bytes]⟩

theorem slice?_ofList (before label rest : List Char) :
    slice? (String.ofList (before ++ label ++ rest)) (bytes before) (bytes (before ++ label)) =
      some (String.ofList label) := by
  have ordered : bytes before ≤ bytes (before ++ label) := by simp
  have valid := isValid_bytes before (label ++ rest)
  rw [← List.append_assoc] at valid
  have fine := And.intro ordered (And.intro valid (isValid_bytes (before ++ label) rest))
  rw [slice?, dif_pos fine]
  rw [Option.some_inj, ← String.toByteArray_inj, String.toByteArray_extract]
  have cut : (before.utf8Encode ++ (label.utf8Encode ++ rest.utf8Encode)).extract
      (bytes before + 0) (bytes before + bytes label) = label.utf8Encode := by
    rw [ByteArray.extract_append_size_add' (bytes_eq_size before),
      ByteArray.extract_append_eq_left (bytes_eq_size label)]
  simpa using cut

/-! ### The reading of a command -/

theorem parse_eq (command : String) (delimiter : Char) :
    parse command delimiter = match search delimiter .ahead command.toList with
      | .emptyLabel => .error (.argument (.noQueryLabel command))
      | .label label rest => labeled command (String.ofList label) (String.ofList rest)
      | .nothing => unlabeled command := by
  unfold parse labeled unlabeled Text.trim
  cases search delimiter .ahead command.toList with
  | emptyLabel => rfl
  | label label rest =>
      simp only [String.toList_ofList]
      cases Text.trimChars rest with
      | nil => rfl
      | cons c cs => simp
  | nothing =>
      cases Text.trimChars command.toList with
      | nil => rfl
      | cons c cs => simp

/-- No cut of the reading by byte offsets fails, and it reads what the other one does. -/
theorem parseCut?_eq (command : String) (delimiter : Char) :
    parseCut? command delimiter = some (parse command delimiter) := by
  have cuts : Cuts ([] ++ command.toList) (scan delimiter .ahead (bytes []) command.toList)
      (search delimiter .ahead command.toList) := scan_cuts .ahead
  rw [parse_eq, parseCut?, show 0 = bytes [] by simp [bytes]]
  generalize scan delimiter .ahead (bytes []) command.toList = cut at cuts ⊢
  generalize search delimiter .ahead command.toList = found at cuts ⊢
  cases cuts with
  | emptyLabel | nothing => rfl
  | label before label after rest c split =>
      have whole : command = String.ofList (before ++ label ++ after ++ c :: rest) :=
        String.toList_inj.mp (by simpa using split)
      have front := slice?_ofList before label (after ++ c :: rest)
      have back := slice?_ofList (before ++ label ++ after ++ [c]) rest []
      rw [← List.append_assoc, ← whole] at front
      have length : bytes (before ++ label ++ after ++ [c] ++ rest) = command.utf8ByteSize := by
        simp [whole, bytes]
      rw [List.append_nil, length, ← List.append_cons, ← whole] at back
      simp only [front, back, Option.bind_some, Option.map_some]

/-- How a command is read. -/
structure Reading (delimiter : Char) (command : String) : Prop where
  empty_label : Opens delimiter command.toList →
    parse command delimiter = .error (.argument (.noQueryLabel command))
  labeled : ∀ label rest, Labels delimiter command.toList label rest →
    parse command delimiter = labeled command (String.ofList label) (String.ofList rest)
  unlabeled : ¬ Opens delimiter command.toList →
    (∀ label rest, ¬ Labels delimiter command.toList label rest) →
    parse command delimiter = unlabeled command
  cut : parseCut? command delimiter = some (parse command delimiter)

theorem reading (delimiter : Char) (command : String) : Reading delimiter command where
  empty_label opens := by rw [parse_eq, opens.search]
  labeled label rest labels := by rw [parse_eq, labels.search]
  unlabeled closed unmarked := by
    rw [parse_eq]
    cases found : search delimiter .ahead command.toList with
    | emptyLabel => exact absurd (opens_of_search found).2 closed
    | label label rest => exact absurd (reads_of_search found) (unmarked label rest)
    | nothing => rfl
  cut := parseCut?_eq command delimiter

/-- The delimiter may be a blank itself. -/
example : parse "é x y" ' ' = .ok ⟨some "é", "x y"⟩ := by
  rfl

end DumpFlow.LabeledQuery
