import DumpFlow.Proofs.Session.Rows

/-!
Dumps on a session whose database never fails. A dump is told all files of its target in their
order, and its statement and its rows are closed before it returns.
-/

namespace DumpFlow.Session

open scoped List

/-- A dump that has its statement. -/
def openedPast (t : Target) (k : Nat) : List Effect :=
  .called (executing t) :: attempt k (.prepare (Dispatch.statementOf t)) none

/-- A dump that has its directory, if it makes one. -/
def startedPast (t : Target) (k : Nat) (directory : Option Nat) : List Effect :=
  openedPast t k ++ .emitted (.start t.label t.destination) ::
    directory.elim [] fun k' => attempt k' (.createDirectory t.destination) none

def round (t : Target) (rows : RowSet) (k : Nat) (path : String) : List Effect :=
  [.issued k (.nextPath rows), .answered k (.path (some path)), .emitted (.file t.label ⟨path⟩)]

/-- What a dump has done on its way. -/
structure Dumping where
  statement : Nat
  directory : Option Nat
  rows : Nat
  /-- The files that it has been told, with the tickets of the requests. -/
  rounds : List (Nat × String)

/-- How dumps are made in a run. -/
structure DumpSettings where
  client : Client
  profile : DumpProfile
  transaction : Transaction

namespace Dumping

variable (d : Dumping) (o : DumpSettings) (t : Target)

def paths : List String := d.rounds.map Prod.snd

def opened : Statement := ⟨d.statement, Dispatch.statementOf t⟩

def askedPast : List Effect :=
  startedPast t d.statement d.directory ++
    [.issued d.rows (.dump o.transaction (d.opened t) t.destination o.profile)]

def past : List Effect :=
  d.askedPast o t ++ .answered d.rows .done ::
    d.rounds.flatMap fun r => round t ⟨d.rows⟩ r.1 r.2

def readPast (k : Nat) : List Effect :=
  d.past o t ++ [.issued k (.nextPath ⟨d.rows⟩), .answered k (.path none)]

def closedPast (k k' : Nat) : List Effect :=
  d.readPast o t k ++ attempt k' (.closeRows ⟨d.rows⟩) none

end Dumping

def DumpSettings.files (o : DumpSettings) (t : Target) : List String :=
  o.client.files (Dispatch.statementOf t) t.destination o.profile

inductive ExecutePath (o : DumpSettings) (t : Target) : Call → List Effect → Prop where
  | checkState : ExecutePath o t (.ready (executing t)) [.called (executing t)]
  | borrow : ExecutePath o t (.ready (.execute t .borrow)) [.called (executing t)]
  | lookUp : ExecutePath o t (.ready (.execute t (.lookUp o.transaction))) [.called (executing t)]
  | prepare :
      ExecutePath o t (.ready (.execute t (.prepare o.transaction))) [.called (executing t)]
  | preparing (k : Nat) :
      ExecutePath o t (.waiting (.execute t (.prepare o.transaction)) k)
        [.called (executing t), .issued k (.prepare (Dispatch.statementOf t))]
  | announceStart (k : Nat) :
      ExecutePath o t
        (.ready (.execute t (.announceStart o.transaction ⟨k, Dispatch.statementOf t⟩)))
        (openedPast t k)
  | createDirectory (k : Nat) :
      ExecutePath o t
        (.ready (.execute t (.createDirectory o.transaction ⟨k, Dispatch.statementOf t⟩)))
        (startedPast t k none)
  | creating (k k' : Nat) :
      ExecutePath o t
        (.waiting (.execute t (.createDirectory o.transaction ⟨k, Dispatch.statementOf t⟩)) k')
        (startedPast t k none ++ [.issued k' (.createDirectory t.destination)])
  | dump (k : Nat) (directory : Option Nat) :
      ExecutePath o t (.ready (.execute t (.dump o.transaction ⟨k, Dispatch.statementOf t⟩)))
        (startedPast t k directory)
  | dumping (k : Nat) (directory : Option Nat) (rows : Nat) :
      ExecutePath o t
        (.waiting (.execute t (.dump o.transaction ⟨k, Dispatch.statementOf t⟩)) rows)
        (Dumping.askedPast ⟨k, directory, rows, []⟩ o t)
  | fetch (d : Dumping) : d.paths <+: o.files t →
      ExecutePath o t (.ready (.execute t (.fetch (d.opened t) ⟨d.rows⟩))) (d.past o t)
  | fetching (d : Dumping) (k : Nat) : d.paths <+: o.files t →
      ExecutePath o t (.waiting (.execute t (.fetch (d.opened t) ⟨d.rows⟩)) k)
        (d.past o t ++ [.issued k (.nextPath ⟨d.rows⟩)])
  | announceFile (d : Dumping) (k : Nat) (path : String) : d.paths ++ [path] <+: o.files t →
      ExecutePath o t (.ready (.execute t (.announceFile (d.opened t) ⟨d.rows⟩ path)))
        (d.past o t ++ [.issued k (.nextPath ⟨d.rows⟩), .answered k (.path (some path))])
  | closeRows (d : Dumping) (k : Nat) : d.paths = o.files t →
      ExecutePath o t (.ready (.execute t (.closeRows (d.opened t) ⟨d.rows⟩ none)))
        (d.readPast o t k)
  | closingRows (d : Dumping) (k k' : Nat) : d.paths = o.files t →
      ExecutePath o t (.waiting (.execute t (.closeRows (d.opened t) ⟨d.rows⟩ none)) k')
        (d.readPast o t k ++ [.issued k' (.closeRows ⟨d.rows⟩)])
  | announceFinish (d : Dumping) (k k' : Nat) : d.paths = o.files t →
      ExecutePath o t (.ready (.execute t (.announceFinish (d.opened t)))) (d.closedPast o t k k')
  | closeStatement (d : Dumping) (k k' : Nat) : d.paths = o.files t →
      ExecutePath o t (.ready (.execute t (.closeStatement (d.opened t) (.ok ()))))
        (d.closedPast o t k k' ++ [.emitted (.finish t.label t.destination)])
  | closing (d : Dumping) (k k' k'' : Nat) : d.paths = o.files t →
      ExecutePath o t (.waiting (.execute t (.closeStatement (d.opened t) (.ok ()))) k'')
        (d.closedPast o t k k' ++ [.emitted (.finish t.label t.destination),
          .issued k'' (.closeStatement (d.opened t))])
  | done (d : Dumping) (k k' k'' : Nat) : d.paths = o.files t →
      ExecutePath o t .done
        (d.closedPast o t k k' ++ .emitted (.finish t.label t.destination) ::
          attempt k'' (.closeStatement (d.opened t)) none ++ [.returned (.ok ())])

variable {record : List Entry} {o : DumpSettings} {s s' : Session} {k ticket : Nat} {t : Target}
  {p : Point} {c next : Call} {past effects : List Effect}

theorem countP_round (rows : RowSet) (rounds : List (Nat × String)) :
    (rounds.flatMap fun r => round t rows r.1 r.2).countP (Effect.asksNext rows) =
      rounds.length := by
  induction rounds with
  | nil => rfl
  | cons r rounds ih =>
      rw [List.flatMap_cons, List.countP_append, ih, List.length_cons, Nat.add_comm]
      simp [round, Effect.asksNext]

/-- A dump asks for a file more often than it has been told one, by one. -/
theorem Dumping.countP_past (d : Dumping) (rows : RowSet) (h : rows = ⟨d.rows⟩) :
    (d.past o t).countP (Effect.asksNext rows) = d.rounds.length := by
  subst h
  have before : (d.askedPast o t).countP (Effect.asksNext ⟨d.rows⟩) = 0 := by
    cases directory : d.directory <;>
      simp [askedPast, startedPast, openedPast, attempt, directory, Effect.asksNext]
  rw [past, List.countP_append, before, List.countP_cons, countP_round]
  simp [Effect.asksNext]

theorem Dumping.past_snoc (d : Dumping) (k : Nat) (path : String) :
    ({ d with rounds := d.rounds ++ [(k, path)] } : Dumping).past o t =
      d.past o t ++ round t ⟨d.rows⟩ k path := by
  simp [past, askedPast, opened]

theorem prefix_snoc {paths files : List String} {path : String} (h : paths <+: files)
    (next : files[paths.length]? = some path) : paths ++ [path] <+: files := by
  obtain ⟨rest, rfl⟩ := h
  cases rest with
  | nil => simp at next
  | cons first rest =>
      obtain rfl : first = path := by simpa using next
      exact ⟨rest, by simp⟩

theorem prefix_all {paths files : List String} (h : paths <+: files)
    (next : files[paths.length]? = none) : paths = files :=
  h.eq_of_length_le (List.getElem?_eq_none_iff.mp next)

/-- The file that a dump is told next. -/
theorem Dumping.told_next (d : Dumping) {path : Option String} {ticket : Nat}
    {statement : Statement}
    (fair : Fair o.client record s (.waiting (.execute t (.fetch statement ⟨d.rows⟩)) ticket)
      [.answered ticket (.path path)])
    (rows : o.client.reply record (.nextPath ⟨d.rows⟩) =
      .path ((o.files t)[(d.past o t ++ [Effect.issued ticket (.nextPath ⟨d.rows⟩)]).countP
        (Effect.asksNext ⟨d.rows⟩) - 1]?)) :
    (o.files t)[d.paths.length]? = path := by
  have told : Reply.path path = o.client.reply record (.nextPath ⟨d.rows⟩) := fair.answer rfl
  rw [rows, List.countP_append, d.countP_past _ rfl] at told
  simpa [Effect.asksNext, paths] using told.symm

/-- A dump succeeds while the session runs. -/
theorem ExecutePath.turn (path : ExecutePath o t c past)
    (turn : ExecuteTurn s k t c s' next effects) (fair : Fair o.client record s c effects)
    (running : s.state = .running) (held : s.slot = some o.transaction)
    (handled : s.dispatch.refusal? t = none) (registered : s.dispatch.isRegistered t = true)
    (profile : s.dispatch.output.profile = o.profile)
    (rows : ∀ statement rows ticket, c = .waiting (.execute t (.fetch statement rows)) ticket →
      o.client.reply record (.nextPath rows) =
        .path ((o.files t)[past.countP (Effect.asksNext rows) - 1]?)) :
    ExecutePath o t next (past ++ (effects ++ Machine.returns next)) := by
  cases turn with
  | wrongState wrong => exact absurd running wrong
  | rightState => cases path; exact .borrow
  | noTransaction empty => simp [held] at empty
  | refused _ fault _ refused => simp [handled] at refused
  | borrowed transaction held' =>
      obtain rfl : o.transaction = transaction := Option.some.inj (held.symm.trans held')
      cases path
      exact .lookUp
  | unknown _ unknown => simp [registered] at unknown
  | known => cases path; exact .prepare
  | askPrepare => cases path; exact .preparing k
  | announceStart transaction statement =>
      cases path with
      | announceStart ticket =>
          split
          · exact .createDirectory ticket
          · exact .dump ticket none
  | askDirectory => cases path with | createDirectory ticket => exact .creating ticket k
  | askDump =>
      cases path with
      | dump ticket directory => exact profile ▸ .dumping ticket directory k
  | askNext => cases path with | fetch d told => exact .fetching d k told
  | announceFile statement rows file =>
      cases path with
      | announceFile d ticket _ told =>
          have path : ExecutePath o t _ _ :=
            .fetch { d with rounds := d.rounds ++ [(ticket, file)] }
              (by simpa [Dumping.paths] using told)
          rw [Dumping.past_snoc] at path
          simpa [round, Machine.returns, Dumping.opened] using path
  | askCloseRows => cases path with | closeRows d ticket told => exact .closingRows d ticket k told
  | announceFinish =>
      cases path with
      | announceFinish d ticket ticket' told => exact .closeStatement d ticket ticket' told
  | askClose =>
      cases path with
      | closeStatement d ticket ticket' told =>
          simpa [Machine.returns] using ExecutePath.closing d ticket ticket' k told
  | prepared ticket => cases path; exact .announceStart ticket
  | unprepared => simpa [Client.reply] using fair.answer rfl
  | directoryMade ticket => cases path with | creating first => exact .dump first (some ticket)
  | directoryDenied => simpa [Client.reply] using fair.answer rfl
  | dumped ticket =>
      cases path with
      | dumping first directory => exact .fetch ⟨first, directory, ticket, []⟩ List.nil_prefix
  | undumped => simpa [Client.reply] using fair.answer rfl
  | file ticket =>
      cases path with
      | fetching d _ told =>
          have next := d.told_next fair (rows _ _ _ rfl)
          simpa [Machine.returns] using ExecutePath.announceFile d ticket _ (prefix_snoc told next)
  | noFile ticket =>
      cases path with
      | fetching d _ told =>
          have next := d.told_next fair (rows _ _ _ rfl)
          simpa [Machine.returns, Dumping.readPast] using
            ExecutePath.closeRows d ticket (prefix_all told next)
  | fetchFailed => simpa [Client.reply] using fair.answer rfl
  | rowsClosed ticket =>
      cases path with
      | closingRows d first _ told =>
          simpa [Machine.returns, Dumping.closedPast, attempt, replyOf] using
            ExecutePath.announceFinish d first ticket told
  | rowsFailed => simpa [Client.reply] using fair.answer rfl
  | rowsLeft => cases path
  | closed ticket statement outcome reply fits =>
      cases path with
      | closing d first second _ told =>
          obtain rfl : reply = .done := by simpa [Client.reply] using fair.answer rfl
          simpa [Machine.returns, Call.done, attempt, replyOf] using
            ExecutePath.done d first second ticket told

/-- What a row set gives to the dump that asks for it. -/
theorem ExecutePath.next_file {settings : TransactionSettings} {dispatch : Dispatch} {m : Machine}
    {i : Nat} {x : Thread} {statement : Statement} {rows : RowSet}
    (path : ExecutePath o t x.call x.past) (used : Machine.Used settings dispatch m)
    (stood : m.threads[i]? = some x)
    (waits : x.call = .waiting (.execute t (.fetch statement rows)) ticket) :
    o.client.reply m.record (.nextPath rows) =
      .path ((o.files t)[x.past.countP (Effect.asksNext rows) - 1]?) := by
  obtain ⟨d, rfl, asked⟩ : ∃ d : Dumping, rows = ⟨d.rows⟩ ∧
      .issued d.rows (.dump o.transaction (d.opened t) t.destination o.profile) ∈ x.past := by
    rw [waits] at path
    generalize x.past = past at path
    cases path with
    | fetching d => exact ⟨d, rfl, by simp [Dumping.past, Dumping.askedPast]⟩
  have opened : x.past.any (Effect.opens ⟨d.rows⟩) = true :=
    List.any_eq_true.mpr ⟨_, asked, beq_self_eq_true _⟩
  have whose := asked
  rw [Machine.past_of_getElem? stood, Machine.mem_past] at whose
  rw [Client.reply, used.rows_eq whose, used.countP_next stood opened]
  rfl

theorem ExecutePath.point (path : ExecutePath o t c past) (stands : c.point? = some p) :
    ∃ e, p = .execute t e := by
  cases path <;> cases stands <;> exact ⟨_, rfl⟩

theorem ExecutePath.answerable (path : ExecutePath o t (.waiting p ticket) past) (s : Session)
    (record : List Entry) :
    ∃ q next, s.act p = .request q ∧ resume ticket p (o.client.reply record q) = some next := by
  cases path with
  | fetching d k told =>
      refine ⟨.nextPath ⟨d.rows⟩, ?_⟩
      have file : ∃ path, o.client.reply record (.nextPath ⟨d.rows⟩) = .path path := ⟨_, rfl⟩
      obtain ⟨path, file⟩ := file
      rw [file]
      cases path <;> exact ⟨_, rfl, rfl⟩
  | _ => exact ⟨_, _, rfl, rfl⟩

theorem ExecutePath.not_dropped : ¬ ExecutePath o t .dropped past :=
  fun path => by cases path

theorem ExecutePath.returned {outcome : Outcome}
    (path : ExecutePath o t (.returned outcome) past) : outcome = .ok () := by
  cases path
  rfl

theorem length_rounds (rows : RowSet) (rounds : List (Nat × String)) :
    (rounds.flatMap fun r => round t rows r.1 r.2).length = 3 * rounds.length := by
  induction rounds with
  | nil => rfl
  | cons r rounds ih =>
      rw [List.flatMap_cons, List.length_append, ih, List.length_cons]
      simp only [round, List.length_cons, List.length_nil]
      omega

theorem Dumping.length_past (d : Dumping) : (d.past o t).length ≤ 8 + 3 * d.paths.length := by
  have asked : (d.askedPast o t).length ≤ 7 := by
    cases directory : d.directory <;> simp [askedPast, startedPast, openedPast, attempt, directory]
  rw [past, List.length_append, List.length_cons, length_rounds, paths, List.length_map]
  omega

theorem Dumping.length_closed (d : Dumping) (k k' : Nat) :
    (d.closedPast o t k k').length ≤ 12 + 3 * d.paths.length := by
  have short := d.length_past (o := o) (t := t)
  simp only [closedPast, readPast, attempt, List.length_append, List.length_cons, List.length_nil]
  omega

/-- A dump does not do more than its files call for. -/
theorem ExecutePath.length_le (path : ExecutePath o t c past) :
    past.length ≤ 16 + 3 * (o.files t).length := by
  cases path with
  | fetch d told =>
      have short := d.length_past (o := o) (t := t)
      have few := told.length_le
      omega
  | fetching d k told =>
      have short := d.length_past (o := o) (t := t)
      have few := told.length_le
      simp only [List.length_append, List.length_cons, List.length_nil]
      omega
  | announceFile d k path told =>
      have short := d.length_past (o := o) (t := t)
      have few := told.length_le
      simp only [List.length_append, List.length_cons, List.length_nil] at few ⊢
      omega
  | closeRows d k told | closingRows d k k' told =>
      have short := d.length_past (o := o) (t := t)
      simp only [Dumping.readPast, List.length_append, List.length_cons, List.length_nil, ← told]
      omega
  | announceFinish d k k' told =>
      have short := d.length_closed (o := o) (t := t) k k'
      rw [← told]
      omega
  | closeStatement d k k' told | closing d k k' k'' told =>
      have short := d.length_closed (o := o) (t := t) k k'
      simp only [List.length_append, List.length_cons, List.length_nil, ← told]
      omega
  | done d k k' k'' told =>
      have short := d.length_closed (o := o) (t := t) k k'
      simp only [attempt, List.length_append, List.length_cons, List.length_nil, ← told]
      omega
  | dump k directory | dumping k directory =>
      refine Nat.le_add_right_of_le ?_
      cases directory <;> simp [Dumping.askedPast, startedPast, openedPast, attempt]
  | _ =>
      refine Nat.le_add_right_of_le ?_
      simp [startedPast, openedPast, attempt]

end DumpFlow.Session
