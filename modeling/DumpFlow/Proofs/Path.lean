import DumpFlow.Path
import Mathlib.Data.List.DropRight

/-!
The components of a path that is made from others: of one path seen from another, of a path without
its last component, and of a path with another file name.
-/

namespace DumpFlow.Path

@[simp]
theorem pieces_nil : pieces [] = [[]] :=
  rfl

theorem pieces_append (cs ds : List Char) : pieces (cs ++ '/' :: ds) = pieces cs ++ pieces ds :=
  List.splitOn_append_cons_self cs ds

@[simp]
theorem pieces_root (cs : List Char) : pieces ('/' :: cs) = [] :: pieces cs :=
  pieces_append [] cs

theorem pieces_of_plain {cs : List Char} (plain : '/' ∉ cs) : pieces cs = [cs] :=
  List.splitOn_eq_singleton plain

theorem pieces_ne_nil (cs : List Char) : pieces cs ≠ [] :=
  List.splitOn_ne_nil '/' cs

theorem plain_of_mem_pieces {cs piece : List Char} (member : piece ∈ pieces cs) : '/' ∉ piece := by
  induction cs generalizing piece with
  | nil =>
      obtain rfl : piece = [] := by simpa [pieces] using member
      exact List.not_mem_nil
  | cons c cs ih =>
      rw [pieces, List.splitOn_cons_eq_if_modifyHead, ← pieces] at member
      split at member
      · rcases List.mem_cons.mp member with rfl | later
        · exact List.not_mem_nil
        · exact ih later
      · rename_i other
        obtain ⟨first, rest, split⟩ := List.exists_cons_of_ne_nil (pieces_ne_nil cs)
        rw [split, List.modifyHead_cons] at member
        rcases List.mem_cons.mp member with rfl | later
        · have plain := ih (split ▸ List.mem_cons_self ..)
          have apart : c ≠ '/' := by simpa using other
          simp [plain, apart.symm]
        · exact ih (split ▸ List.mem_cons_of_mem _ later)

@[simp]
theorem component?_empty : component? [] = none :=
  rfl

@[simp]
theorem component?_current : component? ['.'] = none :=
  rfl

/-- Text that may stand as a name between two separators. -/
structure IsName (name : String) : Prop where
  plain : '/' ∉ name.toList
  not_empty : name ≠ ""
  not_current : name ≠ "."
  not_parent : name ≠ ".."

theorem IsName.not_idle {name : String} (h : IsName name) : isIdle name.toList = false := by
  have not_empty : name.toList ≠ [] := mt String.toList_eq_nil_iff.mp h.not_empty
  have not_current : name.toList ≠ ['.'] := fun same => h.not_current (String.toList_inj.mp same)
  simp [isIdle, not_empty, not_current]

theorem IsName.component? {name : String} (h : IsName name) :
    component? name.toList = some (.name name) := by
  have not_parent : name.toList ≠ ['.', '.'] := fun same =>
    h.not_parent (String.toList_inj.mp same)
  simp [Path.component?, h.not_idle, not_parent]

/-- A piece without a separator that is a component other than `..` is a name. -/
theorem isName_of_component? {piece : List Char} {name : String} (plain : '/' ∉ piece)
    (h : component? piece = some (.name name)) : IsName name := by
  unfold component? at h
  split at h
  · cases h
  · rename_i not_idle
    split at h
    · cases h
    · rename_i not_parent
      cases h
      simp only [isIdle, Bool.or_eq_true, beq_iff_eq, not_or] at not_idle not_parent
      refine ⟨by simpa using plain, ?_, ?_, ?_⟩
      · exact fun same => not_idle.1 (by simpa using congrArg String.toList same)
      · exact fun same => not_idle.2 (by simpa using congrArg String.toList same)
      · exact fun same => not_parent (by simpa using congrArg String.toList same)

/-- The component that only the start of a path can be. -/
def lead (cs : List Char) : List Component :=
  if cs.head? = some '/' then [.root]
  else if (pieces cs).head? = some ['.'] then [.current]
  else []

/-- The start of a path apart, its components are those of its pieces. -/
theorem components_eq (p : Path) :
    p.components = lead p.text.toList ++ (pieces p.text.toList).filterMap component? := by
  unfold components unfold lead
  split
  · rename_i cs text
    simp [text, pieces_root, Anchor.components, component?, isIdle]
  · rename_i no_root
    have relative : p.text.toList.head? ≠ some '/' := fun root => by
      obtain ⟨cs, text⟩ := List.head?_eq_some_iff.mp root
      exact no_root cs text
    split
    · rename_i rest here
      simp [relative, here, Anchor.components, component?, isIdle]
    · rename_i away
      have not_current : (pieces p.text.toList).head? ≠ some ['.'] := fun current => by
        obtain ⟨rest, here⟩ := List.head?_eq_some_iff.mp current
        exact away rest here
      simp [relative, not_current, Anchor.components]

theorem lead_append {cs : List Char} (begun : cs ≠ []) (ds : List Char) :
    lead (cs ++ '/' :: ds) = lead cs := by
  obtain ⟨c, rest, rfl⟩ := List.exists_cons_of_ne_nil begun
  obtain ⟨first, more, split⟩ := List.exists_cons_of_ne_nil (pieces_ne_nil (c :: rest))
  unfold lead
  rw [pieces_append, split]
  rfl

/-- The components of a text that begins a path are the same with anything behind it. -/
theorem components_append {cs : List Char} (begun : cs ≠ []) (ds : List Char) :
    components ⟨String.ofList (cs ++ '/' :: ds)⟩ =
      components ⟨String.ofList cs⟩ ++ (pieces ds).filterMap component? := by
  simp [components_eq, lead_append begun, pieces_append]

/-- A text whose first piece is a component does not say where it starts. -/
theorem lead_of_first {cs : List Char} (first : ∀ piece ∈ (pieces cs).head?, isIdle piece = false) :
    lead cs = [] := by
  have relative : cs.head? ≠ some '/' := fun root => by
    obtain ⟨ds, rfl⟩ := List.head?_eq_some_iff.mp root
    cases first [] (by simp [pieces_root])
  have not_current : (pieces cs).head? ≠ some ['.'] := fun current => by
    cases first _ current
  simp [lead, relative, not_current]

theorem components_join (p : Path) {s : String}
    (first : ∀ piece ∈ (pieces s.toList).head?, isIdle piece = false) :
    (p.join s).components = p.components ++ (pieces s.toList).filterMap component? := by
  have relative : s.toList.head? ≠ some '/' := fun root => by
    obtain ⟨ds, text⟩ := List.head?_eq_some_iff.mp root
    cases first [] (by simp [text])
  rw [join, if_neg relative]
  obtain ⟨text⟩ := p
  split
  · rename_i separated
    rcases List.eq_nil_or_concat text.toList with empty | ⟨cs, last, text_eq⟩
    · have nowhere : lead [] = [] := rfl
      simp [components_eq, empty, lead_of_first first, nowhere, List.filterMap_cons]
    · obtain rfl : last = '/' := by simpa [text_eq] using separated
      obtain rfl : text = String.ofList (cs ++ ['/']) := by
        rw [← String.toList_inj, text_eq, String.toList_ofList, List.concat_eq_append]
      cases cs with
      | nil => simp [components_eq, lead, List.filterMap_cons]
      | cons c cs =>
          have begun : c :: cs ≠ [] := nofun
          have before := components_append begun []
          have after := components_append begun s.toList
          have joined : String.ofList (c :: cs ++ ['/']) ++ s =
              String.ofList (c :: cs ++ '/' :: s.toList) := by
            rw [← String.toList_inj]
            simp
          rw [joined, before, after]
          simp [List.filterMap_cons]
  · rename_i open_ended
    have begun : text.toList ≠ [] := fun empty => open_ended (by simp [empty])
    have joined : text ++ "/" ++ s = String.ofList (text.toList ++ '/' :: s.toList) := by
      rw [← String.toList_inj]
      simp
    rw [joined, components_append begun, String.ofList_toList]

/-- A name stands below the path from which it is seen. -/
theorem IsName.components_join {name : String} (h : IsName name) (p : Path) :
    (p.join name).components = p.components ++ [.name name] := by
  have split := pieces_of_plain h.plain
  rw [Path.components_join p (by simp [split, h.not_idle]), split]
  simp [h.component?]

theorem pieces_intercalate {piece : List Char} {rest : List (List Char)}
    (plain : ∀ other ∈ piece :: rest, '/' ∉ other) :
    pieces (List.intercalate ['/'] (piece :: rest)) = piece :: rest :=
  List.splitOn_intercalate '/' plain nofun

theorem intercalate_cons (piece : List Char) (rest : List (List Char)) :
    List.intercalate ['/'] (piece :: rest) = piece ++ rest.flatMap ('/' :: ·) := by
  induction rest generalizing piece with
  | nil => simp [List.intercalate_singleton]
  | cons next rest ih => simp [List.intercalate_cons_cons, ih]

/-- The text of a start and some pieces leads where they say. -/
theorem components_fold {a : Anchor} {body : List (List Char)} (plain : ∀ piece ∈ body, '/' ∉ piece)
    (first : a = .none → ∀ piece ∈ body.head?, isIdle piece = false) :
    (fold a body).components = a.components ++ body.filterMap component? := by
  rw [components_eq]
  cases a with
  | root =>
      have split : (pieces (List.intercalate ['/'] body)).filterMap component? =
          body.filterMap component? := by
        cases body with
        | nil => rfl
        | cons piece rest => rw [pieces_intercalate plain]
      simp [fold, lead, Anchor.components, List.filterMap_cons, split]
  | current =>
      have split : pieces (fold .current body).text.toList = ['.'] :: body := by
        rw [fold, String.toList_ofList, ← List.singleton_append, ← intercalate_cons,
          pieces_intercalate (by simpa using plain)]
      have relative : (fold .current body).text.toList.head? ≠ some '/' := by simp [fold]
      simp [lead, relative, split, Anchor.components, List.filterMap_cons]
  | none =>
      cases body with
      | nil => rfl
      | cons piece rest =>
          have split : pieces (fold .none (piece :: rest)).text.toList = piece :: rest := by
            rw [fold, String.toList_ofList, pieces_intercalate plain]
          rw [lead_of_first (by rw [split]; exact first rfl), split]
          rfl

theorem dropIdle_eq (body : List (List Char)) : dropIdle body = body.rdropWhile isIdle :=
  rfl

theorem prefix_dropIdle (body : List (List Char)) : dropIdle body <+: body :=
  List.rdropWhile_prefix isIdle body

theorem filterMap_dropIdle (body : List (List Char)) :
    (dropIdle body).filterMap component? = body.filterMap component? := by
  have split : body = dropIdle body ++ body.rtakeWhile isIdle :=
    (List.rdropWhile_append_rtakeWhile ..).symm
  have idle : (body.rtakeWhile isIdle).filterMap component? = [] :=
    List.filterMap_eq_nil_iff.mpr fun piece member => by
      simp [component?, List.mem_rtakeWhile_imp member]
  conv_rhs => rw [split, List.filterMap_append, idle, List.append_nil]

theorem plain_of_mem_unfold {p : Path} {piece : List Char} (member : piece ∈ p.unfold.2) :
    '/' ∉ piece := by
  unfold unfold at member
  split at member
  · exact plain_of_mem_pieces member
  · split at member
    · rename_i here
      exact plain_of_mem_pieces (here ▸ List.mem_cons_of_mem _ member)
    · exact plain_of_mem_pieces member

theorem nil_or_root_of_pieces {cs : List Char} (h : (pieces cs).head? = some []) :
    cs = [] ∨ cs.head? = some '/' := by
  cases cs with
  | nil => exact .inl rfl
  | cons c cs =>
      obtain ⟨first, rest, split⟩ := List.exists_cons_of_ne_nil (pieces_ne_nil cs)
      rw [pieces, List.splitOn_cons_eq_if_modifyHead, ← pieces, split] at h
      split at h
      · rename_i root
        exact .inr (congrArg some (by simpa using root))
      · simp at h

/-- What does not say where it starts begins with a component, unless it is empty. -/
theorem not_idle_of_unfold {p : Path} (some_text : p.text ≠ "") :
    p.unfold.1 = .none → ∀ piece ∈ p.unfold.2.head?, isIdle piece = false := by
  unfold unfold
  split
  · nofun
  · rename_i no_root
    split
    · nofun
    · rename_i away
      intro _ piece first
      have not_empty : piece ≠ [] := by
        rintro rfl
        rcases nil_or_root_of_pieces first with empty | root
        · exact some_text (String.toList_eq_nil_iff.mp empty)
        · obtain ⟨cs, text⟩ := List.head?_eq_some_iff.mp root
          exact no_root cs text
      have not_current : piece ≠ ['.'] := by
        rintro rfl
        obtain ⟨rest, split⟩ := List.head?_eq_some_iff.mp first
        exact away rest split
      simp [isIdle, not_empty, not_current]

theorem isName_of_mem {p : Path} {name : String} (member : .name name ∈ p.components) :
    IsName name := by
  rw [components_eq, List.mem_append] at member
  rcases member with start | later
  · unfold lead at start
    split at start
    · simp at start
    · split at start <;> simp at start
  · obtain ⟨piece, of_text, named⟩ := List.mem_filterMap.mp later
    exact isName_of_component? (plain_of_mem_pieces of_text) named

theorem fileName?_eq_some {p : Path} {name : String} :
    p.fileName? = some name ↔ p.components.getLast? = some (.name name) := by
  unfold fileName?
  cases p.components.getLast? with
  | none => simp
  | some last => cases last <;> simp

theorem isName_of_fileName? {p : Path} {name : String} (h : p.fileName? = some name) :
    IsName name :=
  isName_of_mem (List.mem_of_getLast? (fileName?_eq_some.mp h))

/-- The components are those in front of the file name and the file name itself. -/
theorem components_of_fileName? {p : Path} {name : String} (h : p.fileName? = some name) :
    p.components = p.components.dropLast ++ [.name name] :=
  (List.dropLast_append_getLast? _ (fileName?_eq_some.mp h)).symm

/-- The last component comes from a piece behind which all are idle. -/
theorem dropIdle_of_getLast? {body : List (List Char)} {c : Component}
    (last : (body.filterMap component?).getLast? = some c) :
    ∃ front piece, dropIdle body = front ++ [piece] ∧
      body.filterMap component? = front.filterMap component? ++ [c] := by
  rw [← filterMap_dropIdle] at last ⊢
  rcases List.eq_nil_or_concat (dropIdle body) with empty | ⟨front, piece, split⟩
  · simp [empty] at last
  · rw [List.concat_eq_append] at split
    refine ⟨front, piece, split, ?_⟩
    have split : body.rdropWhile isIdle = front ++ [piece] := split
    have busy : isIdle piece = false := by
      have last_busy := List.rdropWhile_last_not isIdle body (by rw [split]; simp)
      simpa only [split, List.getLast_append_singleton, Bool.not_eq_true] using last_busy
    obtain ⟨other, named⟩ : ∃ other, component? piece = some other := by
      simp only [component?, busy, Bool.false_eq_true, if_false]
      split <;> exact ⟨_, rfl⟩
    rw [dropIdle_eq, split, List.filterMap_append] at last ⊢
    simp only [List.filterMap_cons, named, List.filterMap_nil, List.getLast?_concat] at last ⊢
    rw [Option.some_inj.mp last]

theorem parent?_of_fileName? {p : Path} {name : String} (h : p.fileName? = some name) :
    ∃ parent, p.parent? = some parent ∧ parent.components = p.components.dropLast := by
  have last := fileName?_eq_some.mp h
  refine ⟨_, by rw [parent?, last], ?_⟩
  have some_text : p.text ≠ "" := fun empty => by
    simp [components_eq, empty, lead, List.filterMap_cons] at last
  have below : (p.unfold.2.filterMap component?).getLast? = some (.name name) := by
    rw [components, List.getLast?_append] at last
    rcases Option.or_eq_some_iff.mp last with here | ⟨-, start⟩
    · exact here
    · cases anchor : p.unfold.1 <;> simp [anchor, Anchor.components] at start
  obtain ⟨front, piece, kept, split⟩ := dropIdle_of_getLast? below
  have within : dropIdle front <+: p.unfold.2 :=
    (prefix_dropIdle front).trans
      ((List.prefix_append front [piece]).trans (kept ▸ prefix_dropIdle _))
  rw [kept, List.dropLast_concat, components_fold, filterMap_dropIdle]
  · rw [components, split, ← List.append_assoc, List.dropLast_concat]
  · exact fun other member => plain_of_mem_unfold (within.mem member)
  · intro relative other first
    obtain ⟨rest, more⟩ := within
    obtain ⟨tail, begun⟩ := List.head?_eq_some_iff.mp first
    exact not_idle_of_unfold some_text relative other (by simp [← more, begun])

/-- Another file name takes the place of the last component. -/
theorem components_withFileName {p : Path} {name other : String} (h : p.fileName? = some name)
    (first : ∀ piece ∈ (pieces other.toList).head?, isIdle piece = false) :
    (p.withFileName other).components =
      p.components.dropLast ++ (pieces other.toList).filterMap component? := by
  obtain ⟨parent, above, steps⟩ := parent?_of_fileName? h
  rw [withFileName, h, above, components_join parent first, steps]

end DumpFlow.Path
