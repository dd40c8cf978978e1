/-!
Text-keyed tables in ascending order of their keys, each key once. The order is that of code
points, which is also the byte order of the keys in UTF-8.
-/

namespace DumpFlow

/-- Each key is below all later ones. -/
def Ascending {α : Type} (entries : List (String × α)) : Prop :=
  entries.Pairwise (·.1 < ·.1)

structure Dictionary (α : Type) where
  entries : List (String × α)
  ascending : Ascending entries

namespace Dictionary

variable {α : Type}

def empty : Dictionary α := ⟨[], List.Pairwise.nil⟩

instance : Inhabited (Dictionary α) := ⟨empty⟩

theorem ext {d e : Dictionary α} (h : d.entries = e.entries) : d = e := by
  cases d
  cases e
  cases h
  rfl

instance [DecidableEq α] : DecidableEq (Dictionary α) := fun d e =>
  if h : d.entries = e.entries then .isTrue (ext h) else .isFalse fun he => h (he ▸ rfl)

/-- A value put under its key, in the place of the one that is there. -/
def put (key : String) (value : α) : List (String × α) → List (String × α)
  | [] => [(key, value)]
  | (k, v) :: rest =>
    if key < k then (key, value) :: (k, v) :: rest
    else if k < key then (k, v) :: put key value rest
    else (key, value) :: rest

theorem key_of_mem_put {key : String} {value : α} {entries : List (String × α)} {e : String × α}
    (h : e ∈ put key value entries) : e.1 = key ∨ e ∈ entries := by
  induction entries with
  | nil => simp_all [put]
  | cons first rest ih =>
    unfold put at h
    split at h
    · simp_all only [List.mem_cons]
      rcases h with rfl | h
      · exact .inl rfl
      · exact .inr h
    · split at h
      · rcases List.mem_cons.1 h with rfl | h
        · exact .inr (List.mem_cons_self ..)
        · exact (ih h).imp_right (List.mem_cons_of_mem _)
      · rcases List.mem_cons.1 h with rfl | h
        · exact .inl rfl
        · exact .inr (List.mem_cons_of_mem _ h)

theorem ascending_put (key : String) (value : α) {entries : List (String × α)}
    (h : Ascending entries) : Ascending (put key value entries) := by
  induction entries with
  | nil => exact List.pairwise_singleton ..
  | cons first rest ih =>
    obtain ⟨hfirst, hrest⟩ := List.pairwise_cons.1 h
    unfold put
    split
    · rename_i hlt
      refine List.pairwise_cons.2 ⟨fun e he => ?_, h⟩
      rcases List.mem_cons.1 he with rfl | he
      · exact hlt
      · exact String.lt_trans hlt (hfirst e he)
    · split
      · rename_i hlt
        refine List.pairwise_cons.2 ⟨fun e he => ?_, ih hrest⟩
        rcases key_of_mem_put he with hk | he
        · exact hk ▸ hlt
        · exact hfirst e he
      · rename_i hle hge
        have heq : first.1 = key := String.le_antisymm (String.not_lt.1 hle) (String.not_lt.1 hge)
        exact List.pairwise_cons.2 ⟨fun e he => heq ▸ hfirst e he, hrest⟩

def insert (d : Dictionary α) (key : String) (value : α) : Dictionary α :=
  ⟨put key value d.entries, ascending_put key value d.ascending⟩

/-- Of several values under one key the last stays. -/
def ofList (entries : List (String × α)) : Dictionary α :=
  entries.foldl (fun d e => d.insert e.1 e.2) empty

def find? (d : Dictionary α) (key : String) : Option α :=
  d.entries.lookup key

def keys (d : Dictionary α) : List String :=
  d.entries.map (·.1)

def contains (d : Dictionary α) (key : String) : Bool :=
  d.keys.contains key

def size (d : Dictionary α) : Nat :=
  d.entries.length

def isEmpty (d : Dictionary α) : Bool :=
  d.entries.isEmpty

/-- The dictionary with a value under a key that it did not have; none if the key is there. -/
def insertNew? (d : Dictionary α) (key : String) (value : α) : Option (Dictionary α) :=
  if d.contains key then none else some (d.insert key value)

end Dictionary

/-- Texts in ascending order, each once. -/
def ascendingTexts (texts : List String) : List String :=
  (Dictionary.ofList (texts.map (·, ()))).keys

end DumpFlow
