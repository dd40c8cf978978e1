import DumpFlow.Proofs.Registry
import DumpFlow.Proofs.Session.Release

/-!
Calls on a session whose database never fails. What a registration, the begin or the commit of a run
has done then follows from where it stands, down to every request and every event.
-/

namespace DumpFlow.Session

open scoped List

/-- A database client whose calls all succeed, and whose answers depend on nothing but what it is
asked. -/
structure Client where
  metadata : String → TableMetadata
  /-- The files that the dump of a statement writes. -/
  files : String → Path → DumpProfile → List String

def Client.rows (client : Client) (record : List Entry) (rows : RowSet) : List String :=
  (record.findSome? fun e =>
    match e.effect with
    | .issued k (.dump _ statement destination profile) =>
      if k = rows.ticket then some (client.files statement.text destination profile) else none
    | _ => none).getD []

def Effect.asksNext (rows : RowSet) : Effect → Bool
  | .issued _ (.nextPath other) => other == rows
  | _ => false

/-- The answer to a request that has been issued. A row set gives one file after the other. -/
def Client.reply (client : Client) (record : List Entry) : Request → Reply
  | .tableMetadata name => .metadata (client.metadata name)
  | .nextPath rows =>
    .path ((client.rows record rows)[record.countP (fun e => e.effect.asksNext rows) - 1]?)
  | _ => .done

/-- What is known of a target once it is registered. -/
def Client.info (client : Client) (t : Target) : DumpInfo :=
  match t.kind with
  | .table => .table (client.metadata t.subject)
  | .query => .query (Dispatch.queryKey t)

/-- If a request is answered in a turn, the client answers it. -/
def Fair (client : Client) (record : List Entry) (s : Session) (c : Call)
    (effects : List Effect) : Prop :=
  ∀ p ticket, c = .waiting p ticket → ∃ q, s.act p = .request q ∧
    effects = [.answered ticket (client.reply record q)]

/-- What a registration has done that has found out about its target. -/
inductive Looked (client : Client) (t : Target) : List Effect → Prop where
  | table (k : Nat) : t.kind = .table →
      Looked client t [.called (registering t), .issued k (.tableMetadata t.subject),
        .answered k (.metadata (client.metadata t.subject))]
  | query (k k' : Nat) : t.kind = .query →
      Looked client t [.called (registering t), .issued k (.prepare (Dispatch.queryKey t)),
        .answered k .done, .issued k' (.closeStatement ⟨k, Dispatch.queryKey t⟩),
        .answered k' .done]

inductive RegisterPath (client : Client) (t : Target) : Call → List Effect → Prop where
  | checkState : RegisterPath client t (.ready (registering t)) [.called (registering t)]
  | lookUp : RegisterPath client t (.ready (.register t .lookUp)) [.called (registering t)]
  | resolve : t.kind = .table →
      RegisterPath client t (.ready (.register t .resolveTable)) [.called (registering t)]
  | prepare : t.kind = .query →
      RegisterPath client t (.ready (.register t .prepareQuery)) [.called (registering t)]
  | resolving (k : Nat) : t.kind = .table →
      RegisterPath client t (.waiting (.register t .resolveTable) k)
        [.called (registering t), .issued k (.tableMetadata t.subject)]
  | preparing (k : Nat) : t.kind = .query →
      RegisterPath client t (.waiting (.register t .prepareQuery) k)
        [.called (registering t), .issued k (.prepare (Dispatch.queryKey t))]
  | close (k : Nat) : t.kind = .query →
      RegisterPath client t
        (.ready (.register t (.closeStatement ⟨k, Dispatch.queryKey t⟩)))
        [.called (registering t), .issued k (.prepare (Dispatch.queryKey t)), .answered k .done]
  | closing (k k' : Nat) : t.kind = .query →
      RegisterPath client t
        (.waiting (.register t (.closeStatement ⟨k, Dispatch.queryKey t⟩)) k')
        [.called (registering t), .issued k (.prepare (Dispatch.queryKey t)), .answered k .done,
          .issued k' (.closeStatement ⟨k, Dispatch.queryKey t⟩)]
  | enroll {past : List Effect} : Looked client t past →
      RegisterPath client t (.ready (.register t (.enroll (client.info t)))) past
  | announce {past : List Effect} : Looked client t past →
      RegisterPath client t (.ready (.register t (.announce (client.info t)))) past
  | known : RegisterPath client t .done [.called (registering t), .returned (.ok ())]
  | outrun {past : List Effect} : Looked client t past →
      RegisterPath client t .done (past ++ [.returned (.ok ())])
  | announced {past : List Effect} : Looked client t past →
      RegisterPath client t .done
        (past ++ [.emitted (.info t.label (client.info t) t.destination), .returned (.ok ())])

inductive BeginPath (o : TransactionOption) (state : Lifecycle) : Call → List Effect → Prop where
  | checkState : state = .preparing → BeginPath o state (.ready beginning) [.called beginning]
  | checkTargets : state = .preparing →
      BeginPath o state (.ready (.begin .checkTargets)) [.called beginning]
  | start : state = .preparing → BeginPath o state (.ready (.begin .start)) [.called beginning]
  | announce : state = .starting →
      BeginPath o state (.ready (.begin .announce))
        [.called beginning, .changed .preparing .starting]
  | create : state = .starting →
      BeginPath o state (.ready (.begin (.create o)))
        [.called beginning, .changed .preparing .starting, .emitted (.verbose (startMessage o))]
  | creating (k : Nat) : state = .starting →
      BeginPath o state (.waiting (.begin (.create o)) k) (openingPast k o)
  | store (k : Nat) : state = .starting →
      BeginPath o state (.ready (.begin (.store ⟨k⟩))) (openingPast k o ++ [.answered k .done])
  | run (k : Nat) : state = .starting →
      BeginPath o state (.ready (.begin .run)) (openingPast k o ++ [.answered k .done])
  | done (k : Nat) : state = .running →
      BeginPath o state .done (openingPast k o ++ [.answered k .done, .changed .starting .running,
        .returned (.ok ())])

inductive CommitPath (status : CommitStatus) (transaction : Transaction) (state : Lifecycle) :
    Call → List Effect → Prop where
  | start : state = .running →
      CommitPath status transaction state (.ready committing) [.called committing]
  | borrow : state = .committing →
      CommitPath status transaction state (.ready (.commit .borrow)) committingPast
  | announce : state = .committing →
      CommitPath status transaction state (.ready (.commit (.announce transaction)))
        committingPast
  | commit : state = .committing →
      CommitPath status transaction state (.ready (.commit (.commit transaction)))
        (committingPast ++ [.emitted (.verbose (commitMessage status))])
  | granting (k : Nat) : state = .committing →
      CommitPath status transaction state (.waiting (.commit (.commit transaction)) k)
        (grantingPast k transaction status)
  | settle (k : Nat) : state = .committing →
      CommitPath status transaction state (.ready (.commit .settle))
        (grantingPast k transaction status ++ [.answered k .done])
  | settled (k : Nat) : state = .committed →
      CommitPath status transaction state .done (grantingPast k transaction status ++
        [.answered k .done, .changed .committing .committed, .returned (.ok ())])

variable {client : Client} {record : List Entry} {s s' : Session} {k ticket : Nat} {t : Target}
  {o : TransactionOption} {status : CommitStatus} {transaction : Transaction} {p : Point}
  {c next : Call} {past effects : List Effect}

theorem info_table (h : t.kind = .table) :
    client.info t = .table (client.metadata t.subject) := by
  simp [Client.info, h]

theorem info_query (h : t.kind = .query) : client.info t = .query (Dispatch.queryKey t) := by
  simp [Client.info, h]

theorem Fair.answer {p : Point} {q : Request} {ticket : Nat} {reply : Reply}
    (fair : Fair client record s (.waiting p ticket) [.answered ticket reply])
    (asks : s.act p = .request q) : reply = client.reply record q := by
  obtain ⟨q', asks', answers⟩ := fair p ticket rfl
  obtain rfl : q = q' := Action.request.inj (asks.symm.trans asks')
  simpa using answers

/-- A registration succeeds as long as the session is not begun. -/
theorem RegisterPath.turn (path : RegisterPath client t c past)
    (turn : RegisterTurn s k t c s' next effects) (fair : Fair client record s c effects)
    (preparing : s.state = .preparing) (handled : s.dispatch.refusal? t = none) :
    RegisterPath client t next (past ++ (effects ++ Machine.returns next)) := by
  cases turn with
  | wrongState wrong => exact absurd preparing wrong
  | refused fault _ refused => simp [handled] at refused
  | handled => cases path; exact .lookUp
  | known => cases path; exact .known
  | unknown =>
      cases path
      cases kind : t.kind with
      | table => exact .resolve kind
      | query => exact .prepare kind
  | askTable => cases path with | resolve kind => exact .resolving k kind
  | askPrepare => cases path with | prepare kind => exact .preparing k kind
  | askClose statement => cases path with | close ticket kind => exact .closing ticket k kind
  | enrolled info dispatch new =>
      cases path with
      | enroll looked => simpa [Machine.returns] using RegisterPath.announce looked
  | outrun info old => cases path with | enroll looked => exact .outrun looked
  | announce info => cases path with | announce looked => exact .announced looked
  | found ticket metadata =>
      cases path with
      | resolving _ kind =>
          obtain rfl : metadata = client.metadata t.subject := by
            simpa [Client.reply] using fair.answer rfl
          rw [← info_table kind]
          exact .enroll (.table ticket kind)
  | missed ticket fault => simpa [Client.reply] using fair.answer rfl
  | prepared ticket => cases path with | preparing _ kind => exact .close ticket kind
  | unprepared ticket fault => simpa [Client.reply] using fair.answer rfl
  | closed ticket statement reply fits =>
      cases path with
      | closing first _ kind =>
          obtain rfl : reply = .done := by simpa [Client.reply] using fair.answer rfl
          rw [← info_query kind]
          exact .enroll (.query first ticket kind)

/-- A begin succeeds if there is something to dump. -/
theorem BeginPath.turn (path : BeginPath o s.state c past) (turn : BeginTurn s k c s' next effects)
    (fair : Fair client record s c effects) (some_ : s.dispatch.isEmpty = false)
    (option : s.settings.toOption s.dispatch.tableNames = o) :
    BeginPath o s'.state next (past ++ (effects ++ Machine.returns next)) := by
  cases turn with
  | wrongState wrong => cases path with | checkState right => exact absurd right wrong
  | rightState right => cases path; exact .checkTargets right
  | noTargets none_ => simp [some_] at none_
  | someTargets => cases path with | checkTargets right => exact .start right
  | started => cases path; exact .announce rfl
  | outrun wrong => cases path with | start right => exact absurd right wrong
  | announce => cases path with | announce right => exact option ▸ .create right
  | ask => cases path with | create right => exact .creating k right
  | created ticket => cases path with | creating _ right => exact .store ticket right
  | refused => simpa [Client.reply] using fair.answer rfl
  | failed | left | reclaimed | taken | askClose | closed => cases path
  | store => cases path with | store ticket right => exact .run ticket right
  | running => cases path with | run ticket => exact .done ticket rfl
  | abandoned wrong => cases path with | run ticket right => exact absurd right wrong

/-- A commit succeeds if there is a transaction. -/
theorem CommitPath.turn
    (path : CommitPath s.settings.commitStatus transaction s.state c past)
    (turn : CommitTurn s k c s' next effects) (fair : Fair client record s c effects)
    (held : s.slot = some transaction) :
    CommitPath s.settings.commitStatus transaction s'.state next
      (past ++ (effects ++ Machine.returns next)) := by
  cases turn with
  | started => cases path; exact .borrow rfl
  | outrun wrong => cases path with | start right => exact absurd right wrong
  | borrowed other held' =>
      obtain rfl : transaction = other := Option.some.inj (held.symm.trans held')
      cases path with | borrow right => exact .announce right
  | noTransaction empty => simp [held] at empty
  | announce => cases path with | announce right => exact .commit right
  | ask => cases path with | commit right => exact .granting k right
  | granted ticket => cases path with | granting _ right => exact .settle ticket right
  | refused => simpa [Client.reply] using fair.answer rfl
  | failed | left => cases path
  | settled => cases path with | settle ticket => exact .settled ticket rfl
  | unsettled wrong => cases path with | settle ticket right => exact absurd right wrong

theorem RegisterPath.point (path : RegisterPath client t c past) (stands : c.point? = some p) :
    ∃ r, p = .register t r := by
  cases path <;> cases stands <;> exact ⟨_, rfl⟩

theorem BeginPath.point {state : Lifecycle} (path : BeginPath o state c past)
    (stands : c.point? = some p) : ∃ b, p = .begin b := by
  cases path <;> cases stands <;> exact ⟨_, rfl⟩

theorem CommitPath.point {state : Lifecycle} (path : CommitPath status transaction state c past)
    (stands : c.point? = some p) : ∃ b, p = .commit b := by
  cases path <;> cases stands <;> exact ⟨_, rfl⟩

theorem RegisterPath.answerable (path : RegisterPath client t (.waiting p ticket) past)
    (s : Session) (record : List Entry) :
    ∃ q next, s.act p = .request q ∧ resume ticket p (client.reply record q) = some next := by
  cases path <;> exact ⟨_, _, rfl, rfl⟩

theorem BeginPath.answerable {state : Lifecycle} (path : BeginPath o state (.waiting p ticket) past)
    (s : Session) (record : List Entry) :
    ∃ q next, s.act p = .request q ∧ resume ticket p (client.reply record q) = some next := by
  cases path
  exact ⟨_, _, rfl, rfl⟩

theorem CommitPath.answerable {state : Lifecycle}
    (path : CommitPath status transaction state (.waiting p ticket) past) (s : Session)
    (record : List Entry) :
    ∃ q next, s.act p = .request q ∧ resume ticket p (client.reply record q) = some next := by
  cases path
  exact ⟨_, _, rfl, rfl⟩

theorem RegisterPath.not_dropped : ¬ RegisterPath client t .dropped past :=
  fun path => by cases path

theorem BeginPath.not_dropped {state : Lifecycle} : ¬ BeginPath o state .dropped past :=
  fun path => by cases path

theorem CommitPath.not_dropped {state : Lifecycle} :
    ¬ CommitPath status transaction state .dropped past :=
  fun path => by cases path

theorem RegisterPath.returned {outcome : Outcome}
    (path : RegisterPath client t (.returned outcome) past) : outcome = .ok () := by
  cases path <;> rfl

theorem BeginPath.returned {state : Lifecycle} {outcome : Outcome}
    (path : BeginPath o state (.returned outcome) past) : outcome = .ok () ∧ state = .running := by
  cases path with
  | done _ right => exact ⟨rfl, right⟩

theorem CommitPath.returned {state : Lifecycle} {outcome : Outcome}
    (path : CommitPath status transaction state (.returned outcome) past) :
    outcome = .ok () ∧ state = .committed := by
  cases path with
  | settled _ right => exact ⟨rfl, right⟩

theorem Looked.length_le (h : Looked client t past) : past.length ≤ 5 := by
  cases h <;> simp

theorem RegisterPath.length_le (path : RegisterPath client t c past) : past.length ≤ 7 := by
  cases path with
  | enroll looked | announce looked => exact Nat.le_trans looked.length_le (by decide)
  | outrun looked | announced looked =>
      have short := looked.length_le
      simp only [List.length_append, List.length_cons, List.length_nil]
      omega
  | _ => simp

theorem BeginPath.length_le {state : Lifecycle} (path : BeginPath o state c past) :
    past.length ≤ 7 := by
  cases path <;> simp [openingPast]

theorem CommitPath.length_le {state : Lifecycle}
    (path : CommitPath status transaction state c past) : past.length ≤ 7 := by
  cases path <;> simp [grantingPast, committingPast]

end DumpFlow.Session
