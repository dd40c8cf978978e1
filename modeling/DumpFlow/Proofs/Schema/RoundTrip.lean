import DumpFlow.Schema.Config
import DumpFlow.Schema.Database
import DumpFlow.Schema.Run
import DumpFlow.Proofs.Json.Decoding

/-!
Everything with a JSON form is read back from the text that is written for it, whatever is in its
texts and however many entries, columns and fields it has.
-/

namespace DumpFlow

open Json (Value Tree Fields Returns RoundTrip greatestNatural greatestDepth)

/-! ### Runs -/

theorem TargetKind.returns (k : TargetKind) : Returns encode decode? k :=
  .choice (by cases k <;> decide) (by cases k <;> decide)

theorem TransactionKind.returns (k : TransactionKind) : Returns encode decode? k :=
  .choice (by cases k <;> decide) (by cases k <;> decide)

theorem CommitStatus.returns (s : CommitStatus) : Returns encode decode? s :=
  .choice (by cases s <;> decide) (by cases s <;> decide)

theorem DumpFormat.returns (f : DumpFormat) : Returns encode decode? f :=
  .choice (by cases f <;> decide) (by cases f <;> decide)

theorem Path.returns (p : Path) : Returns encode decode? p :=
  ⟨trivial, rfl⟩

theorem Target.returns (t : Target) : Returns encode decode? t := by
  have kind := TargetKind.returns t.kind
  have label := Returns.text t.label
  have subject := Returns.text t.subject
  have destination := Path.returns t.destination
  refine .record rfl (fun _ => rfl) rfl (by decide)
    ⟨kind.legible, label.legible, subject.legible, destination.legible, trivial⟩ ?_
  simp [Fields.required?, List.lookup_cons, kind.decoded, label.decoded, subject.decoded,
    destination.decoded]

theorem TransactionOption.returns (o : TransactionOption) : Returns encode decode? o := by
  have kind := TransactionKind.returns o.kind
  have label := Returns.optionalText o.label
  have preserved := Returns.texts o.writePreserve
  have areas := Returns.texts o.inclusiveReadAreas
  refine .record rfl (fun _ => rfl) rfl (by decide)
    ⟨kind.legible, label.legible, preserved.legible, areas.legible, trivial⟩ ?_
  simp [Fields.required?, Fields.optional?, List.lookup_cons, kind.decoded, label.decoded,
    preserved.decoded, areas.decoded]

theorem TransactionSettings.returns (s : TransactionSettings) : Returns encode decode? s := by
  have kind := TransactionKind.returns s.kind
  have label := Returns.optionalText s.label
  have preserved := Returns.texts s.writePreserve
  have areas := Returns.boolean s.enableReadAreas
  have status := CommitStatus.returns s.commitStatus
  refine .record rfl (fun _ => rfl) rfl (by decide)
    ⟨kind.legible, label.legible, preserved.legible, areas.legible, status.legible, trivial⟩ ?_
  simp [Fields.defaulted?, List.lookup_cons, kind.decoded, label.decoded, preserved.decoded,
    areas.decoded, status.decoded]

theorem DumpProfile.returns_options (options : Dictionary String) :
    Returns encodeOptions (Tree.dictionary? Tree.text?) options :=
  .dictionary Returns.text

theorem DumpProfile.returns (p : DumpProfile)
    (fits : ∀ n, p.maxRecordsPerFile = some n → n ≤ greatestNatural) :
    Returns encode decode? p := by
  have title := Returns.optionalText p.title
  have format := DumpFormat.returns p.format
  have records : Returns (Value.optional .natural) (Tree.optional? Tree.natural?)
      p.maxRecordsPerFile := .optional (fun n there => .natural (fits n there)) (fun _ => nofun)
  have options := returns_options p.options
  refine .record rfl (fun _ => rfl) rfl (by decide)
    ⟨title.legible, format.legible, records.legible, options.legible, trivial⟩ ?_
  simp [Fields.defaulted?, List.lookup_cons, title.decoded, format.decoded, records.decoded,
    options.decoded]

/-! ### Configurations -/

theorem EngineConfig.returns (c : EngineConfig) (fits : c.workerCount ≤ greatestNatural) :
    Returns encode decode? c := by
  have count := Returns.natural fits
  refine .record rfl (fun _ => rfl) rfl (by decide) ⟨count.legible, trivial⟩ ?_
  simp [Fields.defaulted?, count.decoded]

theorem SelectorConfig.returns_char (c : Char) : Returns encodeChar Tree.char? c := by
  refine ⟨trivial, ?_⟩
  simp [Tree.char?, encodeChar, Value.tree, Tree.text?, Char.toString]

theorem SelectorConfig.returns (c : SelectorConfig) (fits : c.maxNameLength ≤ greatestNatural) :
    Returns encode decode? c := by
  have length := Returns.natural fits
  have escape := Returns.text c.escapeCharacters
  have replacement := returns_char c.replacement
  have delimiter := returns_char c.delimiter
  have stem := Returns.text c.queryLabelStem
  refine .record rfl (fun _ => rfl) rfl (by decide)
    ⟨length.legible, escape.legible, replacement.legible, delimiter.legible, stem.legible,
      trivial⟩ ?_
  simp [Fields.defaulted?, List.lookup_cons, length.decoded, escape.decoded, replacement.decoded,
    delimiter.decoded, stem.decoded]

/-! ### Information on targets -/

theorem Column.returns (c : Column) : Returns encode decode? c := by
  have name := Returns.text c.name
  have sqlType := Returns.text c.sqlType
  refine .record rfl (fun _ => rfl) rfl (by decide) ⟨name.legible, sqlType.legible, trivial⟩ ?_
  simp [Fields.required?, List.lookup_cons, name.decoded, sqlType.decoded]

theorem TableMetadata.returns (m : TableMetadata) : Returns encode decode? m := by
  have database := Returns.optionalText m.database
  have schema := Returns.optionalText m.schema
  have name := Returns.text m.name
  have columns := Returns.list fun c (_ : c ∈ m.columns) => Column.returns c
  refine .record rfl (fun _ => rfl) rfl (by decide)
    ⟨database.legible, schema.legible, name.legible, columns.legible, trivial⟩ ?_
  simp [members, Fields.defaulted?, Fields.required?, List.lookup_cons, database.decoded,
    schema.decoded, name.decoded, columns.decoded]

namespace DumpInfo

/-- The columns of a table are values two levels deep. -/
theorem exists_value_columns (depth : Nat) (columns : List Column) :
    ∃ v, Tree.value? (depth + 2) (Value.array (columns.map Column.encode)).tree = some v := by
  obtain ⟨vs, decoded⟩ : ∃ vs,
      Tree.values? (depth + 1) (Json.itemTrees (columns.map Column.encode)) = some vs := by
    induction columns with
    | nil => exact ⟨[], rfl⟩
    | cons c rest ih =>
        obtain ⟨vs, decoded⟩ := ih
        have column : Tree.value? (depth + 1) c.encode.tree = some _ := rfl
        exact ⟨_, by rw [List.map_cons, Json.itemTrees, Tree.values?, column, decoded]⟩
  exact ⟨.array vs, by rw [Value.tree, Tree.value?, decoded]; rfl⟩

theorem exists_value_text (depth : Nat) (o : Option String) :
    ∃ v, Tree.value? depth (Value.optional .text o).tree = some v := by
  cases o with
  | none => exact ⟨.null, rfl⟩
  | some s => exact ⟨.text s, rfl⟩

/-- What is written for a table is a value three levels deep. -/
theorem exists_value_table (depth : Nat) (m : TableMetadata) :
    ∃ v, Tree.value? (depth + 3) (encode (.table m)).tree = some v := by
  obtain ⟨database, of_database⟩ := exists_value_text (depth + 2) m.database
  obtain ⟨schema, of_schema⟩ := exists_value_text (depth + 2) m.schema
  obtain ⟨columns, of_columns⟩ := exists_value_columns depth m.columns
  have written : (encode (.table m)).tree = .object [
      (some tag, .text (some "table")),
      (some "database_name", (Value.optional .text m.database).tree),
      (some "schema_name", (Value.optional .text m.schema).tree),
      (some "table_name", .text (some m.name)),
      (some "columns", (Value.array (m.columns.map Column.encode)).tree)] := rfl
  refine Option.isSome_iff_exists.mp ?_
  simp [written, Tree.value?, Tree.members?, of_database, of_schema, of_columns]

theorem returns (info : DumpInfo) : Returns encode decode? info := by
  cases info with
  | table m =>
      have returned := TableMetadata.returns m
      obtain ⟨v, whole⟩ : ∃ v, Tree.value? greatestDepth (encode (.table m)).tree = some v :=
        exists_value_table 124 m
      refine ⟨⟨trivial, returned.legible⟩, ?_⟩
      have decoded : (TableMetadata.decode? (.object (Json.memberTrees m.members))).map table =
          some (.table m) := congrArg (Option.map table) returned.decoded
      unfold decode?
      rw [whole]
      exact decoded
  | query statement => exact ⟨⟨trivial, trivial, trivial⟩, rfl⟩

end DumpInfo

/-! ### Round trips -/

/-- Nothing is lost between writing and reading. The numbers are those that a word holds. -/
structure Lossless : Prop where
  settings : ∀ s, RoundTrip TransactionSettings.encode TransactionSettings.decode? s
  option : ∀ o, RoundTrip TransactionOption.encode TransactionOption.decode? o
  profile : ∀ p : DumpProfile, (∀ n, p.maxRecordsPerFile = some n → n ≤ greatestNatural) →
    RoundTrip DumpProfile.encode DumpProfile.decode? p
  selector : ∀ c : SelectorConfig, c.maxNameLength ≤ greatestNatural →
    RoundTrip SelectorConfig.encode SelectorConfig.decode? c
  engine : ∀ c : EngineConfig, c.workerCount ≤ greatestNatural →
    RoundTrip EngineConfig.encode EngineConfig.decode? c
  metadata : ∀ m, RoundTrip TableMetadata.encode TableMetadata.decode? m
  target : ∀ t, RoundTrip Target.encode Target.decode? t
  info : ∀ i, RoundTrip DumpInfo.encode DumpInfo.decode? i

theorem lossless : Lossless where
  settings s := (TransactionSettings.returns s).round_trip
  option o := (TransactionOption.returns o).round_trip
  profile p fits := (DumpProfile.returns p fits).round_trip
  selector c fits := (SelectorConfig.returns c fits).round_trip
  engine c fits := (EngineConfig.returns c fits).round_trip
  metadata m := (TableMetadata.returns m).round_trip
  target t := (Target.returns t).round_trip
  info i := (DumpInfo.returns i).round_trip

/-- The greatest number of records is read back. -/
theorem lossless_greatest :
    RoundTrip DumpProfile.encode DumpProfile.decode? ⟨some "a\n\"b\"", default,
      some greatestNatural, .ofList [("é", "\x00"), ("", "\\")]⟩ :=
  lossless.profile _ fun n there => by
    cases there
    exact Nat.le_refl _

end DumpFlow
