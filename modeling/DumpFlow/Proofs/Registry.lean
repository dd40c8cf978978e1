import DumpFlow.Session.Dispatch
import DumpFlow.Transaction
import Mathlib.Data.List.Perm.Basic

/-!
What is registered, by key: a table under its name, a query under its trimmed statement. A key is
enrolled once, and what a transaction is asked for depends on the set of enrolled tables alone.
-/

namespace DumpFlow

open scoped List

namespace Dictionary

variable {α : Type} {d : Dictionary α} {key : String} {value : α}

theorem mem_keys_put {key' : String} {entries : List (String × α)} :
    key' ∈ (put key value entries).map (·.1) ↔ key' = key ∨ key' ∈ entries.map (·.1) := by
  induction entries with
  | nil => simp [put]
  | cons first rest ih =>
      simp only [put]
      split
      · simp
      · split
        · simp only [List.map_cons, List.mem_cons, ih]
          constructor
          · rintro (rfl | rfl | later)
            · exact .inr (.inl rfl)
            · exact .inl rfl
            · exact .inr (.inr later)
          · rintro (rfl | rfl | later)
            · exact .inr (.inl rfl)
            · exact .inl rfl
            · exact .inr (.inr later)
        · rename_i below above
          have same : first.1 = key :=
            String.le_antisymm (String.not_lt.1 below) (String.not_lt.1 above)
          simp [same]

theorem mem_keys_insert {key' : String} :
    key' ∈ (d.insert key value).keys ↔ key' = key ∨ key' ∈ d.keys :=
  mem_keys_put

theorem contains_iff : d.contains key = true ↔ key ∈ d.keys := by
  simp [contains]

theorem pairwise_keys (d : Dictionary α) : d.keys.Pairwise (· < ·) :=
  List.pairwise_map.mpr d.ascending

theorem mem_keys_ofList {key' : String} {entries : List (String × α)} :
    key' ∈ (ofList entries).keys ↔ key' ∈ entries.map (·.1) := by
  have grown : ∀ (entries : List (String × α)) (d : Dictionary α),
      key' ∈ (entries.foldl (fun d e => d.insert e.1 e.2) d).keys ↔
        key' ∈ d.keys ∨ key' ∈ entries.map (·.1) := by
    intro entries
    induction entries with
    | nil => simp
    | cons first rest ih =>
        intro d
        rw [List.foldl_cons, ih, mem_keys_insert, List.map_cons, List.mem_cons]
        constructor
        · rintro ((rfl | old) | later)
          · exact .inr (.inl rfl)
          · exact .inl old
          · exact .inr (.inr later)
        · rintro (old | rfl | later)
          · exact .inl (.inr old)
          · exact .inl (.inl rfl)
          · exact .inr later
  rw [ofList, grown]
  simp [empty, keys]

theorem insertNew?_eq_some {d' : Dictionary α} (h : d.insertNew? key value = some d') :
    key ∉ d.keys ∧ d' = d.insert key value := by
  simp only [insertNew?] at h
  split at h
  · cases h
  · rename_i fresh
    exact ⟨fun there => fresh (contains_iff.mpr there), (Option.some.inj h).symm⟩

theorem insertNew?_eq_none (h : d.insertNew? key value = none) : key ∈ d.keys := by
  simp only [insertNew?] at h
  split at h
  · exact contains_iff.mp ‹_›
  · cases h

theorem lookup_cons (key k : String) (v : α) (rest : List (String × α)) :
    ((k, v) :: rest).lookup key = if key = k then some v else rest.lookup key := by
  by_cases same : key = k
  · simp [same]
  · simp [List.lookup_cons, same, beq_eq_false_iff_ne.mpr same]

theorem lookup_put {key' : String} {entries : List (String × α)} :
    (put key value entries).lookup key' =
      if key' = key then some value else entries.lookup key' := by
  induction entries with
  | nil => simp [put, lookup_cons]
  | cons first rest ih =>
      obtain ⟨k, v⟩ := first
      simp only [put]
      split
      · simp only [lookup_cons]
      · rename_i not_below
        split
        · rename_i below
          have other : k ≠ key := fun same => String.lt_irrefl k (same ▸ below)
          by_cases same : key' = k
          · simp [same, other]
          · simp [lookup_cons, same, ih]
        · rename_i not_above
          have found : k = key :=
            String.le_antisymm (String.not_lt.1 not_below) (String.not_lt.1 not_above)
          by_cases same : key' = key <;> simp [lookup_cons, same, found]

theorem find?_insert {key' : String} :
    (d.insert key value).find? key' = if key' = key then some value else d.find? key' :=
  lookup_put

theorem mem_keys_iff : key ∈ d.keys ↔ ∃ value, d.find? key = some value := by
  obtain ⟨entries, ascending⟩ := d
  simp only [keys, find?]
  induction entries with
  | nil => simp
  | cons first rest ih =>
      obtain ⟨k, v⟩ := first
      by_cases same : key = k
      · simp [same]
      · simp [lookup_cons, same, ih ascending.of_cons]

end Dictionary

theorem mem_ascendingTexts {text : String} {texts : List String} :
    text ∈ ascendingTexts texts ↔ text ∈ texts := by
  rw [ascendingTexts, Dictionary.mem_keys_ofList, List.map_map]
  simp

/-- Texts in ascending order are told by which they are. -/
theorem ascendingTexts_congr {texts texts' : List String}
    (h : ∀ text, text ∈ texts ↔ text ∈ texts') :
    ascendingTexts texts = ascendingTexts texts' := by
  have distinct : ∀ texts : List String, (ascendingTexts texts).Nodup := by
    intro texts
    refine (Dictionary.pairwise_keys _).imp ?_
    rintro a _ below rfl
    exact String.lt_irrefl a below
  have perm : ascendingTexts texts ~ ascendingTexts texts' := by
    refine (List.perm_ext_iff_of_nodup (distinct _) (distinct _)).mpr fun text => ?_
    rw [mem_ascendingTexts, mem_ascendingTexts, h]
  refine perm.eq_of_pairwise (fun a b _ _ below above => ?_) (Dictionary.pairwise_keys _)
    (Dictionary.pairwise_keys _)
  exact absurd (String.lt_trans below above) (String.lt_irrefl a)

theorem TransactionSettings.toOption_congr (s : TransactionSettings) {tables tables' : List String}
    (h : ∀ table, table ∈ tables ↔ table ∈ tables') : s.toOption tables = s.toOption tables' := by
  simp only [toOption, ascendingTexts_congr h]

namespace Dispatch

variable {d d' : Dispatch} {t u : Target} {info : DumpInfo}

/-- What a target is registered under. -/
def keyOf (t : Target) : TargetKind × String :=
  match t.kind with
  | .table => (.table, t.subject)
  | .query => (.query, queryKey t)

/-- The keys that are registered. -/
def Has (d : Dispatch) : TargetKind × String → Prop
  | (.table, name) => name ∈ d.tables.keys
  | (.query, statement) => statement ∈ d.queries.keys

theorem isRegistered_iff : d.isRegistered t = true ↔ d.Has (keyOf t) := by
  simp only [isRegistered, keyOf]
  cases t.kind <;> exact Dictionary.contains_iff

/-- The information fits the target. -/
def Fits (t : Target) : DumpInfo → Prop
  | .table _ => t.kind = .table
  | .query statement => t.kind = .query ∧ statement = queryKey t

theorem enroll?_eq_some (fits : Fits t info) (h : d.enroll? t info = some d') :
    ¬ d.Has (keyOf t) ∧ ∀ key, d'.Has key ↔ key = keyOf t ∨ d.Has key := by
  cases info with
  | table metadata =>
      obtain ⟨tables, new, rfl⟩ := Option.map_eq_some_iff.mp h
      obtain ⟨fresh, rfl⟩ := Dictionary.insertNew?_eq_some new
      have kind : t.kind = .table := fits
      refine ⟨by simpa [keyOf, kind, Has] using fresh, ?_⟩
      rintro ⟨_ | _, name⟩ <;> simp [keyOf, kind, Has, Dictionary.mem_keys_insert]
  | query statement =>
      obtain ⟨queries, new, rfl⟩ := Option.map_eq_some_iff.mp h
      obtain ⟨fresh, rfl⟩ := Dictionary.insertNew?_eq_some new
      obtain ⟨kind, rfl⟩ : t.kind = .query ∧ statement = queryKey t := fits
      refine ⟨by simpa [keyOf, kind, Has] using fresh, ?_⟩
      rintro ⟨_ | _, name⟩ <;> simp [keyOf, kind, Has, Dictionary.mem_keys_insert]

theorem enroll?_eq_none (fits : Fits t info) (h : d.enroll? t info = none) : d.Has (keyOf t) := by
  cases info with
  | table metadata =>
      have kind : t.kind = .table := fits
      simpa [keyOf, kind, Has] using Dictionary.insertNew?_eq_none (Option.map_eq_none_iff.mp h)
  | query statement =>
      obtain ⟨kind, rfl⟩ : t.kind = .query ∧ statement = queryKey t := fits
      simpa [keyOf, kind, Has] using Dictionary.insertNew?_eq_none (Option.map_eq_none_iff.mp h)

theorem not_has_standard {output : DumpOutput} {key : TargetKind × String} :
    ¬ (standard output).Has key := by
  obtain ⟨_ | _, name⟩ := key <;> exact List.not_mem_nil

theorem refusal?_eq_none (all : d.kinds = TargetKind.all) (t : Target) : d.refusal? t = none := by
  have handles : d.kinds.contains t.kind = true := by
    rw [all]
    cases t.kind <;> rfl
  rw [refusal?, if_pos handles]

theorem isEmpty_of_has {key : TargetKind × String} (h : d.Has key) : d.isEmpty = false := by
  obtain ⟨_ | _, name⟩ := key
  · have some_ : d.tables.entries ≠ [] := by
      intro none_
      simp [Has, Dictionary.keys, none_] at h
    simp [isEmpty, Dictionary.isEmpty, some_]
  · have some_ : d.queries.entries ≠ [] := by
      intro none_
      simp [Has, Dictionary.keys, none_] at h
    simp [isEmpty, Dictionary.isEmpty, some_]

theorem isEmpty_iff : d.isEmpty = true ↔ ∀ key, ¬ d.Has key := by
  constructor
  · intro empty key there
    rw [isEmpty_of_has there] at empty
    cases empty
  · intro none_
    have tables : d.tables.entries = [] := by
      refine List.eq_nil_iff_forall_not_mem.mpr fun e member => ?_
      exact none_ (.table, e.1) (List.mem_map_of_mem member)
    have queries : d.queries.entries = [] := by
      refine List.eq_nil_iff_forall_not_mem.mpr fun e member => ?_
      exact none_ (.query, e.1) (List.mem_map_of_mem member)
    simp [isEmpty, Dictionary.isEmpty, tables, queries]

/-- What is kept of a target under its key. -/
def Holds (d : Dispatch) (t : Target) : DumpInfo → Prop
  | .table metadata => d.tables.find? t.subject = some metadata
  | .query statement => d.queries.find? statement = some t.label

/-- What is kept in `d` is kept in `d'`, and it is the same. -/
structure Within (d d' : Dispatch) : Prop where
  tables : ∀ name metadata, d.tables.find? name = some metadata →
    d'.tables.find? name = some metadata
  queries : ∀ statement label, d.queries.find? statement = some label →
    d'.queries.find? statement = some label

theorem Within.refl (d : Dispatch) : d.Within d :=
  ⟨fun _ _ found => found, fun _ _ found => found⟩

theorem Within.trans {d'' : Dispatch} (h : d.Within d') (h' : d'.Within d'') : d.Within d'' :=
  ⟨fun _ _ found => h'.tables _ _ (h.tables _ _ found),
    fun _ _ found => h'.queries _ _ (h.queries _ _ found)⟩

theorem Within.has (h : d.Within d') {key : TargetKind × String} (there : d.Has key) :
    d'.Has key := by
  obtain ⟨_ | _, name⟩ := key
  · obtain ⟨metadata, found⟩ := Dictionary.mem_keys_iff.mp there
    exact Dictionary.mem_keys_iff.mpr ⟨metadata, h.tables _ _ found⟩
  · obtain ⟨label, found⟩ := Dictionary.mem_keys_iff.mp there
    exact Dictionary.mem_keys_iff.mpr ⟨label, h.queries _ _ found⟩

theorem Holds.mono (h : d.Holds t info) (within : d.Within d') : d'.Holds t info := by
  cases info with
  | table metadata => exact within.tables _ _ h
  | query statement => exact within.queries _ _ h

theorem Holds.has (h : d.Holds t info) (fits : Fits t info) : d.Has (keyOf t) := by
  cases info with
  | table metadata =>
      have kind : t.kind = .table := fits
      simpa [keyOf, kind, Has] using Dictionary.mem_keys_iff.mpr ⟨metadata, h⟩
  | query statement =>
      obtain ⟨kind, rfl⟩ : t.kind = .query ∧ statement = queryKey t := fits
      simpa [keyOf, kind, Has] using Dictionary.mem_keys_iff.mpr ⟨t.label, h⟩

theorem within_enroll? (h : d.enroll? t info = some d') : d.Within d' ∧ d'.Holds t info := by
  cases info with
  | table metadata =>
      obtain ⟨tables, new, rfl⟩ := Option.map_eq_some_iff.mp h
      obtain ⟨fresh, rfl⟩ := Dictionary.insertNew?_eq_some new
      refine ⟨⟨fun name kept found => ?_, fun _ _ found => found⟩, ?_⟩
      · have other : name ≠ t.subject := by
          rintro rfl
          exact fresh (Dictionary.mem_keys_iff.mpr ⟨kept, found⟩)
        simpa [Dictionary.find?_insert, other] using found
      · simp [Holds, Dictionary.find?_insert]
  | query statement =>
      obtain ⟨queries, new, rfl⟩ := Option.map_eq_some_iff.mp h
      obtain ⟨fresh, rfl⟩ := Dictionary.insertNew?_eq_some new
      refine ⟨⟨fun _ _ found => found, fun text kept found => ?_⟩, ?_⟩
      · have other : text ≠ statement := by
          rintro rfl
          exact fresh (Dictionary.mem_keys_iff.mpr ⟨kept, found⟩)
        simpa [Dictionary.find?_insert, other] using found
      · simp [Holds, Dictionary.find?_insert]

theorem mem_tableNames {name : String} : name ∈ d.tableNames ↔ d.Has (.table, name) :=
  Iff.rfl

end Dispatch

end DumpFlow
