import DumpFlow.Proofs.Selection.Conflict

/-!
A path spelled in bytes leads where its text leads: its steps, its file name and its parent are
those of the text, spelled in bytes. So targets that text can name are moved apart in one spelling
as in the other.
-/

namespace DumpFlow

namespace Utf8

variable {c d : Char} {cs ds : List Char}

theorem flatMap_encodeChar_inj : cs.flatMap encodeChar = ds.flatMap encodeChar ↔ cs = ds := by
  have texts : encode (String.ofList cs) = encode (String.ofList ds) ↔ cs = ds :=
    encode_inj.trans String.ofList_inj
  rwa [encode, encode, String.ofList_inj, String.toList_ofList, String.toList_ofList] at texts

theorem flatMap_encodeChar_eq (ascii : ∀ c ∈ ds, c.toNat < 128) :
    cs.flatMap encodeChar = ds ↔ cs = ds := by
  conv_lhs => rw [← flatMap_encodeChar ascii]
  exact flatMap_encodeChar_inj

theorem flatMap_encodeChar_eq_nil : cs.flatMap encodeChar = [] ↔ cs = [] :=
  flatMap_encodeChar_eq (by simp)

theorem flatMap_encodeChar_eq_dot : cs.flatMap encodeChar = ['.'] ↔ cs = ['.'] :=
  flatMap_encodeChar_eq (by simp)

theorem encodeChar_ne_nil (c : Char) : encodeChar c ≠ [] :=
  fun empty => String.utf8EncodeChar_ne_nil (List.map_eq_nil_iff.mp empty)

theorem encodeChar_separator : encodeChar '/' = ['/'] :=
  encodeChar_of_ascii (by decide)

theorem head?_encodeChar (ascii : c.toNat < 128) : (encodeChar d).head? = some c ↔ d = c := by
  constructor
  · exact fun first => ((mem_encodeChar ascii).mp (List.mem_of_mem_head? first)).symm
  · rintro rfl
    rw [encodeChar_of_ascii ascii]
    rfl

theorem getLast?_encodeChar (ascii : c.toNat < 128) :
    (encodeChar d).getLast? = some c ↔ d = c := by
  constructor
  · exact fun last => ((mem_encodeChar ascii).mp (List.mem_of_getLast? last)).symm
  · rintro rfl
    rw [encodeChar_of_ascii ascii]
    rfl

theorem head?_flatMap (ascii : c.toNat < 128) :
    (cs.flatMap encodeChar).head? = some c ↔ cs.head? = some c := by
  cases cs with
  | nil => exact Iff.rfl
  | cons d cs =>
      rw [List.flatMap_cons, List.head?_append_of_ne_nil _ (encodeChar_ne_nil d),
        head?_encodeChar ascii, List.head?_cons, Option.some_inj]

theorem getLast?_flatMap (ascii : c.toNat < 128) :
    (cs.flatMap encodeChar).getLast? = some c ↔ cs.getLast? = some c := by
  rcases List.eq_nil_or_concat cs with rfl | ⟨cs, d, rfl⟩
  · exact Iff.rfl
  · rw [List.concat_eq_append, List.flatMap_append, List.flatMap_singleton,
      List.getLast?_append_of_ne_nil _ (encodeChar_ne_nil d), getLast?_encodeChar ascii,
      List.getLast?_concat, Option.some_inj]

end Utf8

namespace Path

open Utf8 (encode encodeChar)

variable {p q : Path}

/-- The path spelled in bytes. -/
def encoded (p : Path) : Path :=
  ⟨encode p.text⟩

theorem toList_encoded (p : Path) :
    p.encoded.text.toList = p.text.toList.flatMap encodeChar :=
  Utf8.toList_encode p.text

def Component.encoded : Component → Component
  | .name s => .name (encode s)
  | c => c

theorem Component.encoded_inj {c d : Component} : c.encoded = d.encoded ↔ c = d := by
  cases c <;> cases d <;> simp [encoded, Utf8.encode_inj]

theorem intercalate_encoded (body : List (List Char)) :
    (List.intercalate ['/'] body).flatMap encodeChar =
      List.intercalate ['/'] (body.map (List.flatMap encodeChar)) := by
  induction body with
  | nil => rfl
  | cons piece rest ih =>
      cases rest with
      | nil => simp
      | cons next rest =>
          rw [List.intercalate_cons_cons, List.map_cons, List.map_cons, List.intercalate_cons_cons,
            ← List.map_cons, ← ih]
          simp [Utf8.encodeChar_separator]

theorem pieces_encoded (cs : List Char) :
    pieces (cs.flatMap encodeChar) = (pieces cs).map (List.flatMap encodeChar) := by
  have whole : List.intercalate ['/'] (pieces cs) = cs := List.intercalate_splitOn '/'
  obtain ⟨piece, rest, split⟩ := List.exists_cons_of_ne_nil (pieces_ne_nil cs)
  have plain : ∀ other ∈ (pieces cs).map (List.flatMap encodeChar), '/' ∉ other := by
    intro other member within
    obtain ⟨piece, of_cs, rfl⟩ := List.mem_map.mp member
    obtain ⟨c, here, among⟩ := List.mem_flatMap.mp within
    rw [Utf8.mem_encodeChar (by decide)] at among
    exact plain_of_mem_pieces of_cs (among ▸ here)
  conv_lhs => rw [← whole, intercalate_encoded]
  rw [split, List.map_cons] at plain ⊢
  exact pieces_intercalate plain

theorem isIdle_encoded (piece : List Char) : isIdle (piece.flatMap encodeChar) = isIdle piece := by
  rw [Bool.eq_iff_iff]
  simp only [isIdle, Bool.or_eq_true, beq_iff_eq, Utf8.flatMap_encodeChar_eq_nil,
    Utf8.flatMap_encodeChar_eq_dot]

theorem component?_encoded (piece : List Char) :
    component? (piece.flatMap encodeChar) = (component? piece).map Component.encoded := by
  have parent : piece.flatMap encodeChar = ['.', '.'] ↔ piece = ['.', '.'] :=
    Utf8.flatMap_encodeChar_eq (by simp)
  simp only [component?, isIdle_encoded, beq_iff_eq, parent]
  split
  · rfl
  · split
    · rfl
    · simp [Component.encoded, encode]

theorem unfold_of_root {cs : List Char} (root : p.text.toList = '/' :: cs) :
    p.unfold = (.root, pieces cs) := by
  unfold unfold
  rw [root]
  rfl

theorem unfold_of_relative (relative : p.text.toList.head? ≠ some '/') :
    p.unfold =
      if (pieces p.text.toList).head? = some ['.'] then (.current, (pieces p.text.toList).tail)
      else (.none, pieces p.text.toList) := by
  unfold unfold
  split
  · rename_i cs text
    exact absurd (by rw [text]; rfl) relative
  · split
    · rename_i rest here
      simp [here]
    · rename_i away
      rw [if_neg fun current => ?_]
      obtain ⟨rest, here⟩ := List.head?_eq_some_iff.mp current
      exact away rest here

theorem unfold_encoded (p : Path) :
    p.encoded.unfold = (p.unfold.1, p.unfold.2.map (List.flatMap encodeChar)) := by
  have starts : p.encoded.text.toList.head? = some '/' ↔ p.text.toList.head? = some '/' := by
    rw [toList_encoded]
    exact Utf8.head?_flatMap (by decide)
  by_cases root : p.text.toList.head? = some '/'
  · obtain ⟨cs, begun⟩ := List.head?_eq_some_iff.mp root
    have begun' : p.encoded.text.toList = '/' :: cs.flatMap encodeChar := by
      rw [toList_encoded, begun, List.flatMap_cons, Utf8.encodeChar_separator,
        List.singleton_append]
    rw [unfold_of_root begun, unfold_of_root begun', pieces_encoded]
  · rw [unfold_of_relative root, unfold_of_relative (mt starts.mp root), toList_encoded,
      pieces_encoded]
    obtain ⟨piece, rest, split⟩ := List.exists_cons_of_ne_nil (pieces_ne_nil p.text.toList)
    simp only [split, List.map_cons, List.head?_cons, Option.some_inj,
      Utf8.flatMap_encodeChar_eq_dot, List.tail_cons]
    split <;> rfl

theorem components_encoded (p : Path) :
    p.encoded.components = p.components.map Component.encoded := by
  have body (pieces : List (List Char)) :
      (pieces.map (List.flatMap encodeChar)).filterMap component? =
        (pieces.filterMap component?).map Component.encoded := by
    rw [List.filterMap_map, List.map_filterMap]
    exact List.filterMap_congr fun piece _ => component?_encoded piece
  rw [components, components, unfold_encoded, List.map_append, body]
  cases p.unfold.1 <;> rfl

theorem same_encoded : p.encoded.Same q.encoded ↔ p.Same q := by
  rw [Same, Same, components_encoded, components_encoded]
  exact List.map_inj_right fun _ _ => Component.encoded_inj.mp

theorem fileName?_encoded (p : Path) : p.encoded.fileName? = p.fileName?.map encode := by
  unfold fileName?
  rw [components_encoded, List.getLast?_map]
  cases p.components.getLast? with
  | none => rfl
  | some last => cases last <;> rfl

theorem dropIdle_encoded (body : List (List Char)) :
    dropIdle (body.map (List.flatMap encodeChar)) =
      (dropIdle body).map (List.flatMap encodeChar) := by
  have idle : isIdle ∘ List.flatMap encodeChar = isIdle := funext isIdle_encoded
  rw [dropIdle, dropIdle, ← List.map_reverse, List.dropWhile_map, idle, List.map_reverse]

theorem fold_encoded (a : Anchor) (body : List (List Char)) :
    fold a (body.map (List.flatMap encodeChar)) = (fold a body).encoded := by
  have dot : encodeChar '.' = ['.'] := Utf8.encodeChar_of_ascii (by decide)
  cases a with
  | root => simp [fold, encoded, encode, Utf8.encodeChar_separator, intercalate_encoded]
  | current =>
      simp [fold, encoded, encode, Utf8.encodeChar_separator, dot, List.flatMap_map,
        List.flatMap_assoc]
  | none => simp [fold, encoded, encode, intercalate_encoded]

theorem parent?_encoded (p : Path) : p.encoded.parent? = p.parent?.map encoded := by
  have above : fold p.encoded.unfold.1 (dropIdle (dropIdle p.encoded.unfold.2).dropLast) =
      (fold p.unfold.1 (dropIdle (dropIdle p.unfold.2).dropLast)).encoded := by
    rw [unfold_encoded, dropIdle_encoded, ← List.map_dropLast, dropIdle_encoded, fold_encoded]
  unfold parent?
  rw [components_encoded, List.getLast?_map, above]
  cases p.components.getLast? with
  | none => rfl
  | some last => cases last <;> rfl

theorem join_encoded (p : Path) (s : String) :
    p.encoded.join (encode s) = (p.join s).encoded := by
  have absolute : (encode s).toList.head? = some '/' ↔ s.toList.head? = some '/' := by
    rw [Utf8.toList_encode]
    exact Utf8.head?_flatMap (by decide)
  have separated : p.encoded.text.toList.getLast?.all (· == '/') =
      p.text.toList.getLast?.all (· == '/') := by
    have all_iff (last : Option Char) : last.all (· == '/') ↔ last = none ∨ last = some '/' := by
      cases last <;> simp
    rw [Bool.eq_iff_iff, all_iff, all_iff, toList_encoded, Utf8.getLast?_flatMap (by decide),
      List.getLast?_eq_none_iff, List.getLast?_eq_none_iff, Utf8.flatMap_encodeChar_eq_nil]
  have separator : encode "/" = "/" := Utf8.encode_of_ascii (by simp)
  simp only [join, absolute, separated]
  split
  · rfl
  · split <;> simp [encoded, Utf8.encode_append, separator]

theorem withFileName_encoded (p : Path) (name : String) :
    p.encoded.withFileName (encode name) = (p.withFileName name).encoded := by
  unfold withFileName
  rw [fileName?_encoded, parent?_encoded]
  cases p.fileName? with
  | none => exact join_encoded p name
  | some last =>
      cases p.parent? with
      | none => exact join_encoded p name
      | some parent => exact join_encoded parent name

namespace Spelling

theorem fileName?_encoded (p : Path) : bytes.fileName? p.encoded = text.fileName? p := by
  rw [fileName?, Path.fileName?_encoded, fileName?]
  cases p.fileName? with
  | none => rfl
  | some name =>
      have reads : bytes.read? (encode name) = some name := read?_eq_some.mpr rfl
      rw [Option.map_some, Option.bind_some, Option.bind_some, reads]
      rfl

theorem shown_encoded (p : Path) : bytes.shown p.encoded = text.shown p :=
  congrArg Path.mk (Utf8.shown_encode p.text)

end Spelling

end Path

/-- The target with its destination spelled in bytes. -/
def Target.encoded (t : Target) : Target :=
  t.withDestination t.destination.encoded

namespace Conflict

variable {delimiter : Char}

theorem sharers_encoded (targets : List Target) (p : Path) :
    sharers (targets.map Target.encoded) p.encoded = sharers targets p := by
  rw [sharers, List.countP_map, sharers]
  refine List.countP_congr fun t _ => ?_
  simp only [Function.comp_apply, decide_eq_true_eq]
  exact Path.same_encoded

theorem checkFileName_encoded (p : Path) :
    checkFileName .bytes delimiter p.encoded = checkFileName .text delimiter p := by
  rw [checkFileName, checkFileName, Path.Spelling.fileName?_encoded, Path.Spelling.shown_encoded]

theorem firstFault_encoded (targets : List Target) :
    firstFault .bytes delimiter (targets.map Target.encoded) =
      firstFault .text delimiter targets := by
  rw [firstFault, List.findSome?_map, firstFault]
  refine congrArg (targets.findSome? ·) (funext fun t => ?_)
  simp only [Function.comp_apply, Target.encoded, Target.withDestination, checkFileName_encoded]

theorem numbered_encoded (p : Path) (rank : Nat) :
    numbered .bytes delimiter p.encoded rank = (numbered .text delimiter p rank).encoded := by
  rw [numbered, Path.Spelling.fileName?_encoded]
  exact Path.withFileName_encoded p _

theorem placed_encoded (all earlier : List Target) (t : Target) :
    placed .bytes delimiter (all.map Target.encoded) (earlier.map Target.encoded) t.encoded =
      (placed .text delimiter all earlier t).encoded := by
  have here : t.encoded.destination = t.destination.encoded := rfl
  rw [placed, placed, here, sharers_encoded, sharers_encoded, numbered_encoded]
  split <;> rfl

theorem renumber_encoded (all earlier targets : List Target) :
    renumber .bytes delimiter (all.map Target.encoded) (earlier.map Target.encoded)
        (targets.map Target.encoded) =
      (renumber .text delimiter all earlier targets).map Target.encoded := by
  induction targets generalizing earlier with
  | nil => rfl
  | cons t rest ih =>
      have later := ih (earlier ++ [t])
      rw [List.map_append, List.map_singleton] at later
      rw [List.map_cons, renumber_cons, renumber_cons, List.map_cons, placed_encoded, later]

/-- Targets that text can name are moved apart in both spellings alike. -/
theorem resolveIn_encoded (delimiter : Char) (targets : List Target) :
    resolveIn .bytes delimiter (targets.map Target.encoded) =
      (resolve delimiter targets).map (List.map Target.encoded) := by
  rw [resolveIn, firstFault_encoded, resolve, resolveIn]
  cases firstFault .text delimiter targets with
  | some fault => rfl
  | none => exact congrArg Except.ok (renumber_encoded targets [] targets)

end Conflict

end DumpFlow
