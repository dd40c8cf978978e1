import DumpFlow.Path
import DumpFlow.Proofs.Path

/-!
A text is read back from its bytes, and bytes that are no text are never read. A character of ASCII
is its own byte, and no other character has it among its bytes.
-/

namespace DumpFlow

namespace Utf8

variable {raw s t : String} {c d : Char} {cs : List Char}

@[simp]
theorem toUInt8_ofUInt8 (b : UInt8) : (Char.ofUInt8 b).toUInt8 = b :=
  UInt8.toUInt8_toUInt32 b

@[simp]
theorem toNat_ofUInt8 (b : UInt8) : (Char.ofUInt8 b).toNat = b.toNat :=
  rfl

theorem ofUInt8_toUInt8 (small : c.toNat < 256) : Char.ofUInt8 c.toUInt8 = c := by
  apply Char.toNat_inj.mp
  rw [toNat_ofUInt8]
  exact Nat.mod_eq_of_lt small

@[simp]
theorem toList_encode (s : String) : (encode s).toList = s.toList.flatMap encodeChar :=
  String.toList_ofList

@[simp]
theorem octets_encode (s : String) :
    octets (encode s) = s.toList.flatMap String.utf8EncodeChar := by
  simp [octets, List.map_flatMap, encodeChar, Function.comp_def]

theorem ofList_octets (small : ∀ c ∈ raw.toList, c.toNat < 256) :
    String.ofList ((octets raw).map Char.ofUInt8) = raw := by
  rw [octets, List.map_map, ← String.toList_inj, String.toList_ofList]
  exact (List.map_congr_left fun c member => ofUInt8_toUInt8 (small c member)).trans (List.map_id _)

theorem encode_eq_ofList (s : String) :
    encode s = String.ofList ((s.toList.flatMap String.utf8EncodeChar).map Char.ofUInt8) := by
  rw [List.map_flatMap]
  rfl

theorem fromUTF8?_eq_some {b : ByteArray} :
    String.fromUTF8? b = some s ↔ b = s.toByteArray := by
  unfold String.fromUTF8?
  split
  · rename_i valid
    rw [Option.some_inj, ← String.toByteArray_inj, String.fromUTF8]
  · rename_i invalid
    simp only [reduceCtorEq, false_iff]
    rintro rfl
    exact invalid s.isValidUTF8

/-- What is read is text, and all text is read. -/
theorem decode?_eq_some : decode? raw = some s ↔ raw = encode s := by
  have bytes : s.toByteArray = (s.toList.flatMap String.utf8EncodeChar).toByteArray :=
    String.utf8Encode_toList.symm
  unfold decode?
  split
  · rename_i small
    rw [fromUTF8?_eq_some, bytes, List.toByteArray_inj]
    constructor
    · intro same
      rw [encode_eq_ofList, ← same, ofList_octets (by simpa using small)]
    · rintro rfl
      exact octets_encode s
  · rename_i large
    simp only [reduceCtorEq, false_iff]
    rintro rfl
    refine large (List.all_eq_true.mpr fun c member => decide_eq_true ?_)
    rw [toList_encode] at member
    obtain ⟨d, -, of_d⟩ := List.mem_flatMap.mp member
    obtain ⟨b, -, rfl⟩ := List.mem_map.mp of_d
    exact b.toNat_lt

theorem encode_inj : encode s = encode t ↔ s = t := by
  refine ⟨fun same => ?_, congrArg encode⟩
  have read : decode? (encode s) = some s := decode?_eq_some.mpr rfl
  rw [same, decode?_eq_some.mpr rfl] at read
  exact (Option.some_inj.mp read).symm

theorem encode_append (s t : String) : encode (s ++ t) = encode s ++ encode t := by
  rw [← String.toList_inj]
  simp

theorem scan_eq (passed : Nat) (bytes : List UInt8) :
    scan passed bytes = scan 0 (bytes.drop passed) := by
  induction bytes generalizing passed with
  | nil => cases passed <;> rfl
  | cons first rest ih =>
      cases passed with
      | zero => rfl
      | succ passed => exact ih passed

theorem scan_append (c : Char) (rest : List UInt8) :
    scan 0 (String.utf8EncodeChar c ++ rest) = c :: scan 0 rest := by
  have decoded : (String.utf8EncodeChar c ++ rest).toByteArray.utf8DecodeChar? 0 = some c := by
    rw [List.toByteArray_append]
    exact ByteArray.utf8DecodeChar?_utf8EncodeChar_append
  have size := String.length_utf8EncodeChar c
  obtain ⟨first, more, split⟩ := List.exists_cons_of_ne_nil (String.utf8EncodeChar_ne_nil (c := c))
  rw [split, List.cons_append] at decoded ⊢
  rw [split, List.length_cons] at size
  simp only [scan, decoded]
  rw [scan_eq, ← size, Nat.add_sub_cancel, List.drop_left]

/-- Text is shown as it is. -/
theorem shown_encode (s : String) : shown (encode s) = s := by
  have all (cs : List Char) : scan 0 (cs.flatMap String.utf8EncodeChar) = cs := by
    induction cs with
    | nil => rfl
    | cons c cs ih => rw [List.flatMap_cons, scan_append, ih]
  rw [shown, octets_encode, all, String.ofList_toList]

theorem encodeChar_of_ascii (ascii : c.toNat < 128) : encodeChar c = [c] := by
  have one : c.utf8Size = 1 := by
    rw [Char.utf8Size_eq_one_iff, UInt32.le_iff_toNat_le]
    exact Nat.le_of_lt_succ ascii
  rw [encodeChar, String.utf8EncodeChar_eq_singleton one]
  exact congrArg (fun c => [c]) (ofUInt8_toUInt8 (by omega))

theorem flatMap_encodeChar (ascii : ∀ c ∈ cs, c.toNat < 128) : cs.flatMap encodeChar = cs := by
  induction cs with
  | nil => rfl
  | cons c cs ih =>
      obtain ⟨first, later⟩ := List.forall_mem_cons.mp ascii
      rw [List.flatMap_cons, encodeChar_of_ascii first, ih later, List.singleton_append]

theorem encode_of_ascii (ascii : ∀ c ∈ s.toList, c.toNat < 128) : encode s = s := by
  rw [encode, flatMap_encodeChar ascii, String.ofList_toList]

theorem le_of_mem_encodeChar (wide : 128 ≤ d.toNat) (member : c ∈ encodeChar d) :
    128 ≤ c.toNat := by
  have code : d.val.toNat = d.toNat := rfl
  have high : ∀ b ∈ String.utf8EncodeChar d, 128 ≤ b.toNat := by
    simp only [String.utf8EncodeChar, code]
    split_ifs <;> simp <;> omega
  obtain ⟨b, of_d, rfl⟩ := List.mem_map.mp member
  exact high b of_d

theorem mem_encodeChar (ascii : c.toNat < 128) : c ∈ encodeChar d ↔ c = d := by
  constructor
  · intro member
    by_cases narrow : d.toNat < 128
    · simpa [encodeChar_of_ascii narrow] using member
    · have high := le_of_mem_encodeChar (Nat.le_of_not_lt narrow) member
      omega
  · rintro rfl
    simp [encodeChar_of_ascii ascii]

theorem mem_encode (ascii : c.toNat < 128) : c ∈ (encode s).toList ↔ c ∈ s.toList := by
  simp [List.mem_flatMap, mem_encodeChar ascii]

end Utf8

namespace Path

variable {spelling : Spelling} {raw s t name : String} {p : Path}

namespace Spelling

/-- Only what is spelled so is read. -/
theorem read?_eq_some : spelling.read? raw = some s ↔ raw = spelling.write s := by
  cases spelling with
  | text => exact Option.some_inj
  | bytes => exact Utf8.decode?_eq_some

theorem fileName?_eq_some :
    spelling.fileName? p = some name ↔ p.fileName? = some (spelling.write name) := by
  rw [fileName?, Option.bind_eq_some_iff]
  constructor
  · rintro ⟨raw, there, reads⟩
    rw [there, read?_eq_some.mp reads]
  · exact fun there => ⟨_, there, read?_eq_some.mpr rfl⟩

theorem write_inj : spelling.write s = spelling.write t ↔ s = t := by
  cases spelling with
  | text => exact Iff.rfl
  | bytes => exact Utf8.encode_inj

theorem write_append (s t : String) :
    spelling.write (s ++ t) = spelling.write s ++ spelling.write t := by
  cases spelling with
  | text => rfl
  | bytes => exact Utf8.encode_append s t

theorem write_of_ascii (ascii : ∀ c ∈ s.toList, c.toNat < 128) : spelling.write s = s := by
  cases spelling with
  | text => rfl
  | bytes => exact Utf8.encode_of_ascii ascii

theorem mem_write {c : Char} (ascii : c.toNat < 128) :
    c ∈ (spelling.write s).toList ↔ c ∈ s.toList := by
  cases spelling with
  | text => exact Iff.rfl
  | bytes => exact Utf8.mem_encode ascii

theorem write_eq_of_ascii (ascii : ∀ c ∈ t.toList, c.toNat < 128) :
    spelling.write s = t ↔ s = t := by
  have own : spelling.write t = t := write_of_ascii ascii
  conv_lhs => rw [← own]
  exact write_inj

end Spelling

/-- A name is one in every spelling. -/
theorem isName_write : IsName (spelling.write name) ↔ IsName name := by
  have empty : spelling.write name = "" ↔ name = "" := Spelling.write_eq_of_ascii (by simp)
  have current : spelling.write name = "." ↔ name = "." := Spelling.write_eq_of_ascii (by simp)
  have parent : spelling.write name = ".." ↔ name = ".." := Spelling.write_eq_of_ascii (by simp)
  constructor
  · rintro ⟨plain, not_empty, not_current, not_parent⟩
    exact ⟨fun within => plain (Spelling.mem_write (by decide) |>.mpr within),
      mt empty.mpr not_empty, mt current.mpr not_current, mt parent.mpr not_parent⟩
  · rintro ⟨plain, not_empty, not_current, not_parent⟩
    exact ⟨fun within => plain (Spelling.mem_write (by decide) |>.mp within),
      mt empty.mp not_empty, mt current.mp not_current, mt parent.mp not_parent⟩

end Path

end DumpFlow
