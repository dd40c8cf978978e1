import DumpFlow.Simulation.Directory
import DumpFlow.Proofs.Path

/-!
When a directory can be created in a directory that is there. Where a path leads is said by its
components alone; so a name below it is refused for its length, or for a file in its place, and for
nothing else.
-/

namespace DumpFlow

namespace Path

variable {c : Char} {p : Path}

theorem intercalate_pieces (cs : List Char) : List.intercalate ['/'] (pieces cs) = cs :=
  List.intercalate_splitOn '/'

theorem exists_piece {cs : List Char} (member : c ∈ cs) (other : c ≠ '/') :
    ∃ piece ∈ pieces cs, c ∈ piece := by
  obtain ⟨first, rest, split⟩ := List.exists_cons_of_ne_nil (pieces_ne_nil cs)
  rw [← intercalate_pieces cs, split, intercalate_cons, List.mem_append, List.mem_flatMap] at member
  rw [split]
  rcases member with here | ⟨piece, later, here⟩
  · exact ⟨first, List.mem_cons_self, here⟩
  · exact ⟨piece, List.mem_cons_of_mem _ later, (List.mem_cons.mp here).resolve_left other⟩

/-- A character other than separators and dots stands in one of the names of a path. -/
theorem exists_name (member : c ∈ p.text.toList) (other : c ≠ '/') (no_dot : c ≠ '.') :
    ∃ name, .name name ∈ p.components ∧ c ∈ name.toList := by
  obtain ⟨piece, of_text, here⟩ := exists_piece member other
  have busy : isIdle piece = false := by
    by_contra idle
    simp only [isIdle, Bool.not_eq_false, Bool.or_eq_true, beq_iff_eq] at idle
    rcases idle with rfl | rfl
    · cases here
    · exact no_dot (List.mem_singleton.mp here)
  have not_parent : piece ≠ ['.', '.'] := by
    rintro rfl
    simp [no_dot] at here
  refine ⟨String.ofList piece, ?_, by simpa using here⟩
  rw [components_eq, List.mem_append]
  exact .inr (List.mem_filterMap.mpr ⟨piece, of_text, by simp [component?, busy, not_parent]⟩)

theorem mem_of_component {name : String} (named : .name name ∈ p.components)
    (here : c ∈ name.toList) : c ∈ p.text.toList := by
  rw [components_eq, List.mem_append] at named
  rcases named with leads | later
  · unfold lead at leads
    split at leads
    · simp at leads
    · split at leads <;> simp at leads
  · obtain ⟨piece, of_text, made⟩ := List.mem_filterMap.mp later
    obtain rfl : name = String.ofList piece := by
      unfold component? at made
      split at made
      · cases made
      · split at made <;> cases made
        rfl
    rw [String.toList_ofList] at here
    obtain ⟨front, back, split⟩ := List.append_of_mem of_text
    rw [← intercalate_pieces p.text.toList, split]
    cases front <;> simp [intercalate_cons, here]

end Path

namespace Simulation.Directory

open DumpFlow.Path

variable {d : Directory} {p q : Path} {name : String} {place origin : Place}

/-! ### Where a path leads -/

/-- The directory that is reached from a place. -/
def walk (d : Directory) (origin : Place) (pieces : List String) : Except Refusal Place := do
  let place ← pieces.foldlM d.descend origin
  if d.isDirectory place then return place else throw .notDirectory

theorem resolve_eq (d : Directory) (p : Path) :
    d.resolve p = (screen p).bind fun _ => d.walk (route p).1 (route p).2 :=
  rfl

theorem walk_nil (d : Directory) (origin : Place) :
    d.walk origin [] = if d.isDirectory origin then .ok origin else .error .notDirectory :=
  rfl

theorem walk_cons (piece : String) (rest : List String) :
    d.walk origin (piece :: rest) = (d.descend origin piece).bind (d.walk · rest) := by
  simp only [walk, List.foldlM_cons, bind, Except.bind]
  cases d.descend origin piece <;> rfl

theorem walk_of_not_directory (other : d.isDirectory origin = false) (pieces : List String) :
    d.walk origin pieces = .error .notDirectory := by
  cases pieces with
  | nil => simp [walk_nil, other]
  | cons piece rest => simp [walk_cons, descend, other, Except.bind]

theorem walk_eq_ok {pieces : List String} : d.walk origin pieces = .ok place ↔
    pieces.foldlM d.descend origin = .ok place ∧ d.isDirectory place = true := by
  induction pieces generalizing origin with
  | nil =>
      rw [walk_nil, List.foldlM_nil]
      cases there : d.isDirectory origin with
      | false =>
          simp only [Bool.false_eq_true, if_false, reduceCtorEq, false_iff, not_and]
          rintro ⟨⟩
          simp [there]
      | true =>
          simp only [if_true]
          refine ⟨fun same => ?_, fun h => h.1⟩
          cases same
          exact ⟨rfl, there⟩
  | cons piece rest ih =>
      rw [walk_cons, List.foldlM_cons]
      cases d.descend origin piece with
      | error refusal => exact ⟨fun h => (nomatch h), fun h => (nomatch h.1)⟩
      | ok next => exact ih

theorem walk_append {front : List String} (there : d.walk origin front = .ok place)
    (back : List String) : d.walk origin (front ++ back) = d.walk place back := by
  rw [walk, List.foldlM_append, (walk_eq_ok.mp there).1]
  rfl

/-- A piece that stays where it is can be left out. -/
theorem walk_filter (pieces : List String) :
    d.walk origin (pieces.filter (· != ".")) = d.walk origin pieces := by
  induction pieces generalizing origin with
  | nil => rfl
  | cons piece rest ih =>
      by_cases stays : piece = "."
      · subst stays
        cases there : d.isDirectory origin with
        | false => rw [walk_of_not_directory there, walk_of_not_directory there]
        | true => simp [walk_cons, descend, there, Except.bind, ih]
      · rw [List.filter_cons_of_pos (by simpa using stays), walk_cons, walk_cons]
        simp only [ih]

/-- The piece of text that a component takes, beyond the start of a path. -/
def step? : Component → Option String
  | .root | .current => none
  | .parent => some ".."
  | .name text => some text

/-- A piece between two separators that are not next to each other. -/
def filled? (piece : List Char) : Option String :=
  if piece.isEmpty then none else some (String.ofList piece)

theorem filled?_bind_filter (piece : List Char) :
    (filled? piece).filter (· != ".") = (component? piece).bind step? := by
  by_cases empty : piece = []
  · subst empty
    rfl
  by_cases current : piece = ['.']
  · subst current
    rfl
  by_cases parent : piece = ['.', '.']
  · subst parent
    rfl
  have some_text : piece.isEmpty = false := by simpa using empty
  have moves : String.ofList piece ≠ "." := fun same =>
    current (by simpa using congrArg String.toList same)
  simp [filled?, component?, isIdle, some_text, current, parent, step?, moves]

theorem route_steps (p : Path) :
    (route p).2.filter (· != ".") = p.components.filterMap step? := by
  have of_lead : (lead p.text.toList).filterMap step? = [] := by
    unfold lead
    split
    · rfl
    · split <;> rfl
  have pieces_eq : (route p).2 = (pieces p.text.toList).filterMap filled? := rfl
  rw [components_eq, List.filterMap_append, of_lead, List.nil_append, pieces_eq,
    List.filterMap_filterMap, List.filter_filterMap]
  simp only [filled?_bind_filter]

/-- Where the components of a path start. -/
def start (steps : List Component) : Place :=
  if steps.head? = some .root then ⟨.root, []⟩ else .working

theorem component?_ne_root (piece : List Char) : component? piece ≠ some .root := by
  unfold component?
  split
  · nofun
  · split <;> nofun

theorem route_origin (p : Path) : (route p).1 = start p.components := by
  have root_iff : p.components.head? = some .root ↔ p.text.toList.head? = some '/' := by
    rw [components_eq]
    unfold lead
    split
    · simp_all
    · rename_i relative
      simp only [relative, iff_false]
      intro root
      have later : Component.root ∈ (pieces p.text.toList).filterMap component? := by
        split at root
        · cases root
        · exact List.mem_of_head? root
      obtain ⟨piece, -, made⟩ := List.mem_filterMap.mp later
      exact component?_ne_root piece made
  simp [route, start, root_iff]

/-- Paths with the same components lead to the same place. -/
theorem walk_route_of_same (same : p.Same q) :
    d.walk (route p).1 (route p).2 = d.walk (route q).1 (route q).2 := by
  rw [← walk_filter, ← walk_filter (route q).2, route_steps, route_steps, route_origin,
    route_origin, same]

theorem route_eq (p : Path) : route p =
    ((if p.text.toList.head? = some '/' then ⟨.root, []⟩ else .working),
      (pieces p.text.toList).filterMap filled?) :=
  rfl

/-- A name makes one piece more. -/
theorem route_join (named : IsName name) (p : Path) :
    route (p.join name) = ((route p).1, (route p).2 ++ [name]) := by
  have some_text : name.toList.isEmpty = false := by
    simpa using mt String.toList_eq_nil_iff.mp named.not_empty
  have relative : name.toList.head? ≠ some '/' := fun root =>
    named.plain (List.mem_of_head? root)
  have single : (pieces name.toList).filterMap filled? = [name] := by
    rw [pieces_of_plain named.plain]
    simp [filled?, some_text]
  have nothing : ([[]] : List (List Char)).filterMap filled? = [] := rfl
  obtain ⟨text⟩ := p
  rw [join, if_neg relative]
  split
  · rename_i separated
    rcases List.eq_nil_or_concat text.toList with empty | ⟨cs, last, text_eq⟩
    · obtain rfl : text = "" := String.toList_eq_nil_iff.mp empty
      rw [String.empty_append, route_eq, if_neg relative, single]
      rfl
    · obtain rfl : last = '/' := by simpa [text_eq] using separated
      rw [List.concat_eq_append] at text_eq
      have begins : (text ++ name).toList.head? = text.toList.head? := by
        cases cs <;> simp [text_eq]
      have both : (text ++ name).toList = cs ++ '/' :: name.toList := by simp [text_eq]
      rw [route_eq, route_eq, begins, both, text_eq, pieces_append, pieces_append, pieces_nil,
        List.filterMap_append, List.filterMap_append, single, nothing, List.append_nil]
  · rename_i open_ended
    have begun : text.toList ≠ [] := fun empty => open_ended (by simp [empty])
    obtain ⟨c, rest, text_eq⟩ := List.exists_cons_of_ne_nil begun
    have both : (text ++ "/" ++ name).toList = text.toList ++ '/' :: name.toList := by simp
    rw [route_eq, route_eq, both, pieces_append, List.filterMap_append, single, text_eq]
    rfl

/-! ### What becomes of a new directory -/

/-- Whether a name can be made a directory in a place: it must not be too long, and no file may
have it. -/
def verdict (d : Directory) (place : Place) (name : String) : Except Refusal Unit :=
  if greatestName < name.utf8ByteSize then .error .nameTooLong
  else if d.isTaken (place.child name) && !d.isDirectory (place.child name) then .error .taken
  else .ok ()

theorem verdict_ne_missing : d.verdict place name ≠ .error .missing := by
  unfold verdict
  split
  · nofun
  · split <;> nofun

theorem screen_eq_ok : screen p = .ok () ↔
    '\x00' ∉ p.text.toList ∧ p.text.utf8ByteSize ≤ greatestPath := by
  unfold screen
  split
  · simp_all
  · split
    · rename_i long
      simp [Nat.not_le.mpr long]
    · simp_all

section Below

variable (named : IsName name) (screened : screen (p.join name) = .ok ())
  (there : d.walk (route p).1 (route p).2 = .ok place)

include named screened there

theorem slot_join : d.slot (p.join name) = .ok (place, name) := by
  obtain ⟨reached, directory⟩ := walk_eq_ok.mp there
  simp only [slot, screened, route_join named, List.getLast?_concat, List.dropLast_concat, reached,
    bind, Except.bind, directory, if_true]
  rfl

theorem vacancy_join : d.vacancy (p.join name) =
    if greatestName < name.utf8ByteSize then .error .nameTooLong
    else if d.isTaken (place.child name) then .error .taken
    else .ok (place.child name) := by
  have usable : ¬ (name = "." ∨ name = "..") := not_or_intro named.not_current named.not_parent
  simp only [vacancy, slot_join named screened there, bind, Except.bind, if_neg usable]
  rfl

theorem leadsToDirectory_join : d.leadsToDirectory (p.join name) =
    (decide (name.utf8ByteSize ≤ greatestName) && d.isDirectory (place.child name)) := by
  have directory := (walk_eq_ok.mp there).2
  have resolved : d.resolve (p.join name) = (d.descend place name).bind (d.walk · []) := by
    rw [resolve_eq, screened, route_join named, ← walk_cons, ← walk_append there]
    rfl
  rw [leadsToDirectory, resolved]
  by_cases long : greatestName < name.utf8ByteSize
  · simp [descend, directory, named.not_current, named.not_parent, long, Nat.not_le.mpr long,
      Except.bind]
  · cases taken : d.isTaken (place.child name) with
    | false =>
        have away := (Bool.or_eq_false_iff.mp taken).1
        simp [descend, directory, named.not_current, named.not_parent, long, taken, away,
          Except.bind]
    | true =>
        cases child : d.isDirectory (place.child name) <;>
          simp [descend, directory, named.not_current, named.not_parent, long, taken, child,
            Except.bind, walk_nil, Nat.le_of_not_lt long]

theorem ensureOne_join :
    (d.ensureOne (p.join name)).map (fun _ => ()) = d.verdict place name := by
  unfold ensureOne makeOne verdict
  rw [vacancy_join named screened there, leadsToDirectory_join named screened there]
  by_cases long : greatestName < name.utf8ByteSize
  · simp [long, Nat.not_le.mpr long, bind, Except.bind, Except.map]
  · cases taken : d.isTaken (place.child name) with
    | false =>
        simp [long, bind, Except.bind, pure, Except.pure, Except.map]
    | true =>
        cases d.isDirectory (place.child name) <;>
          simp [long, Nat.le_of_not_lt long, bind, Except.bind, Except.map]

/-- Below a directory that is there, a name is refused for its length or for a file. -/
theorem create_join : (d.create (p.join name)).2 = d.verdict place name := by
  have some_steps : (p.join name).components.isEmpty = false := by
    simp [named.components_join]
  have outcome := ensureOne_join named screened there
  rw [create, Directory.ensure, some_steps, ← outcome]
  cases made : d.ensureOne (p.join name) with
  | ok next => rfl
  | error refusal =>
      cases refusal with
      | missing =>
          rw [made] at outcome
          exact absurd outcome.symm verdict_ne_missing
      | taken | notDirectory | nameTooLong | strayNul => rfl

end Below

/-- The same for a path that names the directory in another way. -/
theorem create_below (resolved : d.resolve p = .ok place) (same : q.Same p) (named : IsName name)
    (shown : '\x00' ∉ name.toList) (short : (q.join name).text.utf8ByteSize ≤ greatestPath) :
    (d.create (q.join name)).2 = d.verdict place name := by
  rw [resolve_eq] at resolved
  cases screened : screen p with
  | error refusal =>
      rw [screened] at resolved
      cases resolved
  | ok _ =>
      rw [screened] at resolved
      have no_nul : '\x00' ∉ (q.join name).text.toList := by
        intro member
        obtain ⟨other, of_path, here⟩ := exists_name member (by decide) (by decide)
        rw [named.components_join, same, List.mem_append, List.mem_singleton] at of_path
        rcases of_path with of_path | same
        · exact (screen_eq_ok.mp screened).1 (mem_of_component of_path here)
        · cases same
          exact shown here
      refine create_join named (screen_eq_ok.mpr ⟨no_nul, short⟩) ?_
      rw [walk_route_of_same same]
      exact resolved

end Simulation.Directory

end DumpFlow
