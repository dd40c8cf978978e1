import DumpFlow.Json.Decode
import DumpFlow.Proofs.Json.Document

/-!
What decoding makes of the documents of written values: of texts and numbers, of optional and
repeated values, of dictionaries, and of records from the fields they are made of.
-/

namespace DumpFlow

/-! ### Dictionaries -/

namespace Dictionary

variable {α : Type}

/-- A key behind all others is put at the end. -/
theorem put_last {key : String} {value : α} {entries : List (String × α)}
    (behind : ∀ e ∈ entries, e.1 < key) : put key value entries = entries ++ [(key, value)] := by
  induction entries with
  | nil => rfl
  | cons first rest ih =>
      obtain ⟨below, others⟩ := List.forall_mem_cons.mp behind
      have not_above : ¬ key < first.1 := String.lt_asymm below
      simp [put, not_above, below, ih others]

theorem entries_foldl_insert (d : Dictionary α) (more : List (String × α))
    (ascending : Ascending (d.entries ++ more)) :
    (more.foldl (fun d e => d.insert e.1 e.2) d).entries = d.entries ++ more := by
  induction more generalizing d with
  | nil => simp
  | cons e rest ih =>
      have behind : ∀ f ∈ d.entries, f.1 < e.1 := fun f member =>
        (List.pairwise_append.mp ascending).2.2 f member e List.mem_cons_self
      have step : (d.insert e.1 e.2).entries = d.entries ++ [e] := put_last behind
      rw [List.foldl_cons, ih, step, List.append_assoc, List.singleton_append]
      rw [step, List.append_assoc]
      exact ascending

/-- A dictionary is made of its entries. -/
theorem ofList_entries (d : Dictionary α) : ofList d.entries = d :=
  ext (entries_foldl_insert empty d.entries d.ascending)

end Dictionary

namespace Json

variable {α : Type} {encode : α → Value} {decode? : Tree → Option α} {a : α}

/-! ### Parts of documents -/

/-- What is written for `a` can be read back, and decodes to `a`. -/
structure Returns (encode : α → Value) (decode? : Tree → Option α) (a : α) : Prop where
  legible : (encode a).Legible
  decoded : decode? (encode a).tree = some a

/-- The text that is written for `a` is read back as `a`. -/
def RoundTrip (encode : α → Value) (decode? : Tree → Option α) (a : α) : Prop :=
  (Tree.parse? (encode a).render).bind decode? = some a

theorem Returns.round_trip (h : Returns encode decode? a) : RoundTrip encode decode? a := by
  rw [RoundTrip, Tree.parse?_render h.legible, Option.bind_some, h.decoded]

theorem mapM_map {β : Type} {items : List α} {f : α → β} {item : β → Option α}
    (each : ∀ a ∈ items, item (f a) = some a) : (items.map f).mapM item = some items := by
  induction items with
  | nil => rfl
  | cons a rest ih =>
      obtain ⟨first, others⟩ := List.forall_mem_cons.mp each
      simp [first, ih others]

namespace Returns

theorem text (s : String) : Returns .text Tree.text? s :=
  ⟨trivial, rfl⟩

theorem boolean (b : Bool) : Returns .boolean Tree.boolean? b :=
  ⟨trivial, rfl⟩

theorem natural {n : Nat} (fits : n ≤ greatestNatural) : Returns .natural Tree.natural? n :=
  ⟨Number.legible_natural n, Number.natural?_literal fits⟩

/-- An element of a list that is told by its name. -/
theorem choice {all : List α} {name : α → String} (member : a ∈ all)
    (apart : ∀ b ∈ all, name b = name a → b = a) :
    Returns (fun a => .text (name a)) (Tree.choice? all name) a := by
  refine ⟨trivial, ?_⟩
  have found : all.find? (name · == name a) = some a := by
    cases first : all.find? (name · == name a) with
    | none => simpa using List.find?_eq_none.mp first a member
    | some b =>
        have named : name b = name a := by simpa using List.find?_some first
        rw [apart b (List.mem_of_find?_eq_some first) named]
  exact found

/-- An optional value, if no value is written like an absent one. -/
theorem optional {o : Option α} (each : ∀ a, o = some a → Returns encode decode? a)
    (there : ∀ a, (encode a).tree ≠ .null) :
    Returns (Value.optional encode) (Tree.optional? decode?) o := by
  cases o with
  | none => exact ⟨trivial, rfl⟩
  | some a =>
      refine ⟨(each a rfl).legible, ?_⟩
      have decoded := (each a rfl).decoded
      have there := there a
      simp only [Value.optional]
      unfold Tree.optional?
      split
      · contradiction
      · rw [decoded]
        rfl

theorem list {items : List α} (each : ∀ a ∈ items, Returns encode decode? a) :
    Returns (fun items => .array (items.map encode)) (Tree.list? decode?) items := by
  refine ⟨legibleItems_iff.mpr fun v member => ?_, ?_⟩
  · obtain ⟨a, of_items, rfl⟩ := List.mem_map.mp member
    exact (each a of_items).legible
  · simp only [Value.tree, itemTrees_eq, List.map_map, Tree.list?]
    exact mapM_map fun a member => (each a member).decoded

theorem texts (ss : List String) : Returns Value.texts (Tree.list? Tree.text?) ss :=
  list fun s _ => text s

theorem optionalText (o : Option String) :
    Returns (Value.optional .text) (Tree.optional? Tree.text?) o :=
  optional (fun s _ => text s) (fun _ => nofun)

end Returns

/-! ### Objects -/

theorem keyed?_memberTrees (members : List (String × Value)) :
    Tree.keyed? (memberTrees members) = some (members.map fun m => (m.1, m.2.tree)) := by
  rw [memberTrees_eq]
  induction members with
  | nil => rfl
  | cons m rest ih =>
      simp only [Tree.keyed?, List.map_cons, List.mapM_cons] at ih ⊢
      rw [ih]
      rfl

/-- A dictionary is written as its entries and read back one by one. -/
theorem Returns.dictionary {d : Dictionary α} (each : ∀ a, Returns encode decode? a) :
    Returns (fun d : Dictionary α => .object (d.entries.map fun e => (e.1, encode e.2)))
      (Tree.dictionary? decode?) d := by
  refine ⟨legibleMembers_iff.mpr fun m member => ?_, ?_⟩
  · obtain ⟨e, -, rfl⟩ := List.mem_map.mp member
    exact (each e.2).legible
  · have entries : ((d.entries.map fun e => (e.1, encode e.2)).map fun m =>
        (m.1, m.2.tree)).mapM (fun m => (decode? m.2).map (m.1, ·)) = some d.entries := by
      rw [List.map_map]
      exact mapM_map fun e _ => by simp [(each e.2).decoded]
    simp only [Value.tree, Tree.dictionary?, keyed?_memberTrees, Option.bind_eq_bind,
      Option.bind_some, entries, Dictionary.ofList_entries]
    rfl

/-- A record that is written with all its fields gives them. -/
theorem Fields.ofTree?_object {members : List (String × Value)} {names : List String}
    (all : members.map (·.1) = names) (apart : names.Nodup) :
    Fields.ofTree? names (Value.object members).tree =
      some ⟨false, members.map fun m => (m.1, m.2.tree)⟩ := by
  have known : (members.map fun m => (m.1, m.2.tree)).filter (fun m => names.contains m.1) =
      members.map fun m => (m.1, m.2.tree) := by
    refine List.filter_eq_self.mpr fun m member => ?_
    obtain ⟨n, of_members, rfl⟩ := List.mem_map.mp member
    simpa [← all] using ⟨_, of_members⟩
  have keys : (members.map fun m => (m.1, m.2.tree)).map (·.1) = names := by
    rw [List.map_map]
    exact all
  simp only [Value.tree, Fields.ofTree?, keyed?_memberTrees, Option.bind_eq_bind,
    Option.bind_some, known, keys, if_pos apart]

/-- A record whose fields are all written and decoded one by one. -/
theorem Returns.record {members : List (String × Value)} {names : List String}
    {read : Fields → Option α} (written : encode a = .object members)
    (shape : ∀ t, decode? t = (Fields.ofTree? names t).bind read)
    (all : members.map (·.1) = names) (apart : names.Nodup) (legible : LegibleMembers members)
    (decoded : read ⟨false, members.map fun m => (m.1, m.2.tree)⟩ = some a) :
    Returns encode decode? a := by
  refine ⟨written ▸ legible, ?_⟩
  rw [written, shape, Fields.ofTree?_object all apart, Option.bind_some, decoded]

end Json

end DumpFlow
