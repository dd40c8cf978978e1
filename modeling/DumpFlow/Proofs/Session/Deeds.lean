import DumpFlow.Proofs.Session.Dump
import DumpFlow.Proofs.Session.Enrolment

/-!
What a call has brought about when it has returned: its deeds, what it has told the monitor, and
that it has closed what it has opened.
-/

namespace DumpFlow.Session

/-- What a call brings about beyond itself. -/
inductive Deed where
  | registered (t : Target)
  | created (ticket : Nat) (o : TransactionOption)
  | dumped (transaction : Transaction) (statement : String) (destination : Path)
      (profile : DumpProfile)
  | committed (transaction : Transaction) (status : CommitStatus)

def Effect.deed? : Effect → Option Deed
  | .called (.register t .checkState) => some (.registered t)
  | .issued k (.createTransaction o) => some (.created k o)
  | .issued _ (.dump transaction statement destination profile) =>
    some (.dumped transaction statement.text destination profile)
  | .issued _ (.commit transaction status) => some (.committed transaction status)
  | _ => none

def deedsIn (effects : List Effect) : List Deed :=
  effects.filterMap Effect.deed?

/-- The request that closes the statement or the row set which a request has opened. -/
def closing? (k : Nat) : Request → Option Request
  | .prepare text => some (.closeStatement ⟨k, text⟩)
  | .dump _ _ _ _ => some (.closeRows ⟨k⟩)
  | _ => none

def Effect.due? : Effect → Option Request
  | .issued k q => closing? k q
  | _ => none

/-- The requests that a call has to make because of what it has opened. -/
def duesIn (effects : List Effect) : List Request :=
  effects.filterMap Effect.due?

/-- A request was made, and the database has done what it asks for. -/
def Granted (effects : List Effect) (q : Request) : Prop :=
  ∃ k, .issued k q ∈ effects ∧ .answered k .done ∈ effects

variable {client : Client} {o : TransactionOption} {d : DumpSettings} {state : Lifecycle}
  {transaction : Transaction} {status : CommitStatus} {t : Target} {past effects : List Effect}

@[simp] theorem deedsIn_append (es es' : List Effect) :
    deedsIn (es ++ es') = deedsIn es ++ deedsIn es' :=
  List.filterMap_append

@[simp] theorem duesIn_append (es es' : List Effect) :
    duesIn (es ++ es') = duesIn es ++ duesIn es' :=
  List.filterMap_append

theorem mem_deedsIn {deed : Deed} : deed ∈ deedsIn effects ↔ ∃ e ∈ effects, e.deed? = some deed :=
  List.mem_filterMap

theorem Granted.mono {q : Request} (h : Granted past q) (part : past ⊆ effects) :
    Granted effects q := by
  obtain ⟨k, issued, answered⟩ := h
  exact ⟨k, part issued, part answered⟩

/-! ### Registrations -/

theorem Looked.deeds (h : Looked client t past) : deedsIn past = [.registered t] := by
  cases h <;> rfl

theorem Looked.emitted (h : Looked client t past) :
    emittedIn past = [] ∧ past.any Effect.isInfo = false := by
  cases h <;> exact ⟨rfl, rfl⟩

theorem Looked.closed (h : Looked client t past) : ∀ q ∈ duesIn past, Granted past q := by
  cases h with
  | table => exact fun q member => by cases member
  | query k k' =>
      intro q member
      rw [List.mem_singleton.mp member]
      exact ⟨k', by simp, by simp⟩

theorem RegisterPath.deeds (path : RegisterPath client t .done past) :
    deedsIn past = [.registered t] := by
  cases path with
  | known => rfl
  | outrun looked | announced looked =>
      rw [deedsIn_append, looked.deeds]
      rfl

/-- A registration tells of its target or, if that was known, of nothing. -/
theorem RegisterPath.emitted (path : RegisterPath client t .done past) :
    emittedIn past =
      if past.any Effect.isInfo then [.info t.label (client.info t) t.destination] else [] := by
  cases path with
  | known => rfl
  | outrun looked =>
      rw [emittedIn_append, List.any_append, looked.emitted.1, looked.emitted.2]
      rfl
  | announced looked =>
      rw [emittedIn_append, List.any_append, looked.emitted.1, looked.emitted.2]
      rfl

theorem RegisterPath.closed (path : RegisterPath client t .done past) :
    ∀ q ∈ duesIn past, Granted past q := by
  cases path with
  | known => exact fun q member => by cases member
  | outrun looked | announced looked =>
      intro q member
      rw [duesIn_append] at member
      have early := (List.mem_append.mp member).resolve_right (by simp [duesIn, Effect.due?])
      exact (looked.closed q early).mono (List.subset_append_left ..)

/-! ### Begin and commit -/

theorem BeginPath.deeds (path : BeginPath o state .done past) :
    ∃ k, deedsIn past = [.created k o] := by
  cases path with
  | done k => exact ⟨k, rfl⟩

theorem BeginPath.emitted (path : BeginPath o state .done past) :
    emittedIn past = [.verbose (startMessage o)] := by
  cases path
  rfl

theorem BeginPath.closed (path : BeginPath o state .done past) : duesIn past = [] := by
  cases path
  rfl

theorem CommitPath.deeds (path : CommitPath status transaction state .done past) :
    deedsIn past = [.committed transaction status] := by
  cases path
  rfl

theorem CommitPath.emitted (path : CommitPath status transaction state .done past) :
    emittedIn past = [.verbose (commitMessage status)] := by
  cases path
  rfl

theorem CommitPath.closed (path : CommitPath status transaction state .done past) :
    duesIn past = [] := by
  cases path
  rfl

/-! ### Dumps -/

/-- What the monitor is told of the dump of a target. -/
def dumpEvents (t : Target) (files : List String) : List MonitorEvent :=
  .start t.label t.destination :: files.map (fun path => .file t.label ⟨path⟩) ++
    [.finish t.label t.destination]

theorem filterMap_rounds {β : Type} (f : Effect → Option β) (rows : RowSet)
    (rounds : List (Nat × String))
    (asked : ∀ k, f (.issued k (.nextPath rows)) = none)
    (told : ∀ k path, f (.answered k (.path path)) = none) :
    (rounds.flatMap fun r => round t rows r.1 r.2).filterMap f =
      (rounds.map Prod.snd).filterMap fun path => f (.emitted (.file t.label ⟨path⟩)) := by
  induction rounds with
  | nil => rfl
  | cons r rounds ih =>
      rw [List.flatMap_cons, List.filterMap_append, ih, List.map_cons]
      simp only [round, List.filterMap_cons, List.filterMap_nil, asked, told]
      cases f (.emitted (.file t.label ⟨r.2⟩)) <;> rfl

/-- What a dump has asked for counts, and what it is told. -/
theorem Dumping.filterMap_past {β : Type} (f : Effect → Option β) (m : Dumping)
    (asked : ∀ k, f (.issued k (.nextPath ⟨m.rows⟩)) = none)
    (told : ∀ k reply, f (.answered k reply) = none) :
    (m.past d t).filterMap f = (m.askedPast d t).filterMap f ++
      m.paths.filterMap fun path => f (.emitted (.file t.label ⟨path⟩)) := by
  rw [past, List.filterMap_append, List.filterMap_cons_none (told ..),
    filterMap_rounds f ⟨m.rows⟩ m.rounds asked fun _ _ => told _ _, paths]

theorem Dumping.deeds_past (m : Dumping) :
    deedsIn (m.past d t) =
      [.dumped d.transaction (Dispatch.statementOf t) t.destination d.profile] := by
  have asked : deedsIn (m.askedPast d t) =
      [.dumped d.transaction (Dispatch.statementOf t) t.destination d.profile] := by
    obtain ⟨_, directory, _, _⟩ := m
    cases directory <;> rfl
  have told :
      (m.paths.filterMap fun path => Effect.deed? (.emitted (.file t.label ⟨path⟩))) = [] := by
    simp [Effect.deed?]
  rw [deedsIn, m.filterMap_past Effect.deed? (fun _ => rfl) fun _ _ => rfl, told, List.append_nil]
  exact asked

theorem Dumping.dues_past (m : Dumping) :
    duesIn (m.past d t) = [.closeStatement (m.opened t), .closeRows ⟨m.rows⟩] := by
  have asked : duesIn (m.askedPast d t) = [.closeStatement (m.opened t), .closeRows ⟨m.rows⟩] := by
    obtain ⟨_, directory, _, _⟩ := m
    cases directory <;> rfl
  have told :
      (m.paths.filterMap fun path => Effect.due? (.emitted (.file t.label ⟨path⟩))) = [] := by
    simp [Effect.due?]
  rw [duesIn, m.filterMap_past Effect.due? (fun _ => rfl) fun _ _ => rfl, told, List.append_nil]
  exact asked

theorem Dumping.emitted_past (m : Dumping) :
    emittedIn (m.past d t) =
      .start t.label t.destination :: m.paths.map fun path => .file t.label ⟨path⟩ := by
  have asked : emittedIn (m.askedPast d t) = [.start t.label t.destination] := by
    obtain ⟨_, directory, _, _⟩ := m
    cases directory <;> rfl
  have told : (m.paths.filterMap fun path => Effect.event? (.emitted (.file t.label ⟨path⟩))) =
      m.paths.map fun path => .file t.label ⟨path⟩ := by
    simp [Effect.event?]
  rw [emittedIn, m.filterMap_past Effect.event? (fun _ => rfl) fun _ _ => rfl, told]
  exact congrArg (· ++ _) asked

/-- A dump that has returned has dumped its target once. -/
theorem ExecutePath.deeds (path : ExecutePath d t .done past) :
    deedsIn past =
      [.dumped d.transaction (Dispatch.statementOf t) t.destination d.profile] := by
  cases path with
  | done m k k' k'' =>
      rw [Dumping.closedPast, Dumping.readPast, deedsIn_append, deedsIn_append, deedsIn_append,
        deedsIn_append, m.deeds_past]
      rfl

theorem ExecutePath.emitted (path : ExecutePath d t .done past) :
    emittedIn past = dumpEvents t (d.files t) := by
  cases path with
  | done m k k' k'' told =>
      rw [Dumping.closedPast, Dumping.readPast, emittedIn_append, emittedIn_append,
        emittedIn_append, emittedIn_append, m.emitted_past, told, dumpEvents]
      simp only [List.cons_append, List.append_assoc]
      rfl

theorem ExecutePath.closed (path : ExecutePath d t .done past) :
    ∀ q ∈ duesIn past, Granted past q := by
  cases path with
  | done m k k' k'' told =>
      intro q member
      rw [Dumping.closedPast, Dumping.readPast, duesIn_append, duesIn_append, duesIn_append,
        duesIn_append, m.dues_past] at member
      have two : q = .closeStatement (m.opened t) ∨ q = .closeRows ⟨m.rows⟩ := by
        simpa [duesIn, Effect.due?, closing?, attempt] using member
      rcases two with rfl | rfl
      · exact ⟨k'', by simp [attempt], by simp [attempt, replyOf]⟩
      · exact ⟨k', by simp [Dumping.closedPast, attempt],
          by simp [Dumping.closedPast, attempt, replyOf]⟩

end DumpFlow.Session
