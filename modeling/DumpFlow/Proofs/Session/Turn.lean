import DumpFlow.Session.Machine

/-!
Everything that a call can do in one turn, one case for each, and nothing else: `Turn.of_act` and
`Turn.of_resume`. Of the effects of a turn its return is left out; that can be seen from where the
call stands afterwards.
-/

namespace DumpFlow.Session

/-- A turn of a registration of `t`, which sees the session as `s` and draws ticket `k` if it asks
for something. -/
inductive RegisterTurn (s : Session) (k : Nat) (t : Target) :
    Call → Session → Call → List Effect → Prop where
  | wrongState : s.state ≠ .preparing →
      RegisterTurn s k t (.ready (.register t .checkState)) s
        (.misuse (.unexpected .register .preparing s.state)) []
  | refused (fault : DumpFault) : s.state = .preparing → s.dispatch.refusal? t = some fault →
      RegisterTurn s k t (.ready (.register t .checkState)) s (.fault fault) []
  | handled : s.state = .preparing → s.dispatch.refusal? t = none →
      RegisterTurn s k t (.ready (.register t .checkState)) s (.ready (.register t .lookUp)) []
  | known : s.dispatch.isRegistered t = true →
      RegisterTurn s k t (.ready (.register t .lookUp)) s .done []
  | unknown : s.dispatch.isRegistered t = false →
      RegisterTurn s k t (.ready (.register t .lookUp)) s
        (.ready (.register t (registration t.kind))) []
  | askTable :
      RegisterTurn s k t (.ready (.register t .resolveTable)) s
        (.waiting (.register t .resolveTable) k) [.issued k (.tableMetadata t.subject)]
  | askPrepare :
      RegisterTurn s k t (.ready (.register t .prepareQuery)) s
        (.waiting (.register t .prepareQuery) k) [.issued k (.prepare (Dispatch.queryKey t))]
  | askClose (statement : Statement) :
      RegisterTurn s k t (.ready (.register t (.closeStatement statement))) s
        (.waiting (.register t (.closeStatement statement)) k)
        [.issued k (.closeStatement statement)]
  | enrolled (info : DumpInfo) (dispatch : Dispatch) : s.dispatch.enroll? t info = some dispatch →
      RegisterTurn s k t (.ready (.register t (.enroll info))) { s with dispatch := dispatch }
        (.ready (.register t (.announce info))) []
  | outrun (info : DumpInfo) : s.dispatch.enroll? t info = none →
      RegisterTurn s k t (.ready (.register t (.enroll info))) s .done []
  | announce (info : DumpInfo) :
      RegisterTurn s k t (.ready (.register t (.announce info))) s .done
        [.emitted (.info t.label info t.destination)]
  | found (ticket : Nat) (metadata : TableMetadata) :
      RegisterTurn s k t (.waiting (.register t .resolveTable) ticket) s
        (.ready (.register t (.enroll (.table metadata)))) [.answered ticket (.metadata metadata)]
  | missed (ticket : Nat) (fault : ClientFault) :
      RegisterTurn s k t (.waiting (.register t .resolveTable) ticket) s
        (.fault (.diagnostic (metadataDiagnostic t.subject fault)))
        [.answered ticket (.failed fault)]
  | prepared (ticket : Nat) :
      RegisterTurn s k t (.waiting (.register t .prepareQuery) ticket) s
        (.ready (.register t (.closeStatement ⟨ticket, Dispatch.queryKey t⟩)))
        [.answered ticket .done]
  | unprepared (ticket : Nat) (fault : ClientFault) :
      RegisterTurn s k t (.waiting (.register t .prepareQuery) ticket) s
        (.fault (.diagnostic (queryDiagnostic t.label fault))) [.answered ticket (.failed fault)]
  | closed (ticket : Nat) (statement : Statement) (reply : Reply) :
      (reply = .done ∨ ∃ fault, reply = .failed fault) →
      RegisterTurn s k t (.waiting (.register t (.closeStatement statement)) ticket) s
        (.ready (.register t (.enroll (.query (Dispatch.queryKey t))))) [.answered ticket reply]

inductive BeginTurn (s : Session) (k : Nat) : Call → Session → Call → List Effect → Prop where
  | wrongState : s.state ≠ .preparing →
      BeginTurn s k (.ready (.begin .checkState)) s
        (.misuse (.unexpected .begin .preparing s.state)) []
  | rightState : s.state = .preparing →
      BeginTurn s k (.ready (.begin .checkState)) s (.ready (.begin .checkTargets)) []
  | noTargets : s.dispatch.isEmpty = true →
      BeginTurn s k (.ready (.begin .checkTargets)) s (.misuse .noTargets) []
  | someTargets : s.dispatch.isEmpty = false →
      BeginTurn s k (.ready (.begin .checkTargets)) s (.ready (.begin .start)) []
  | started : s.state = .preparing →
      BeginTurn s k (.ready (.begin .start)) { s with state := .starting }
        (.ready (.begin .announce)) [.changed .preparing .starting]
  | outrun : s.state ≠ .preparing →
      BeginTurn s k (.ready (.begin .start)) s
        (.misuse (.transition .preparing .starting s.state)) []
  | announce :
      BeginTurn s k (.ready (.begin .announce)) s
        (.ready (.begin (.create (s.settings.toOption s.dispatch.tableNames))))
        [.emitted (.verbose (startMessage (s.settings.toOption s.dispatch.tableNames)))]
  | ask (option : TransactionOption) :
      BeginTurn s k (.ready (.begin (.create option))) s (.waiting (.begin (.create option)) k)
        [.issued k (.createTransaction option)]
  | created (ticket : Nat) (option : TransactionOption) :
      BeginTurn s k (.waiting (.begin (.create option)) ticket) s
        (.ready (.begin (.store ⟨ticket⟩))) [.answered ticket .done]
  | refused (ticket : Nat) (option : TransactionOption) (fault : ClientFault) :
      BeginTurn s k (.waiting (.begin (.create option)) ticket) s
        (.ready (.begin
          (.fail (.diagnostic (fault.classify .beginFailure "failed to start transaction")))))
        [.answered ticket (.failed fault)]
  | failed (fault : DumpFault) : s.state = .starting →
      BeginTurn s k (.ready (.begin (.fail fault))) { s with state := .failed } (.fault fault)
        [.changed .starting .failed]
  | left (fault : DumpFault) : s.state ≠ .starting →
      BeginTurn s k (.ready (.begin (.fail fault))) s (.fault fault) []
  | store (transaction : Transaction) :
      BeginTurn s k (.ready (.begin (.store transaction))) { s with slot := some transaction }
        (.ready (.begin .run)) []
  | running : s.state = .starting →
      BeginTurn s k (.ready (.begin .run)) { s with state := .running } .done
        [.changed .starting .running]
  | abandoned : s.state ≠ .starting →
      BeginTurn s k (.ready (.begin .run)) s
        (.ready (.begin (.reclaim (.transition .starting .running s.state)))) []
  | reclaimed (fault : StateFault) (transaction : Transaction) : s.slot = some transaction →
      BeginTurn s k (.ready (.begin (.reclaim fault))) { s with slot := none }
        (.ready (.begin (.closeAbandoned transaction fault))) []
  | taken (fault : StateFault) : s.slot = none →
      BeginTurn s k (.ready (.begin (.reclaim fault))) s (.misuse fault) []
  | askClose (fault : StateFault) (transaction : Transaction) :
      BeginTurn s k (.ready (.begin (.closeAbandoned transaction fault))) s
        (.waiting (.begin (.closeAbandoned transaction fault)) k)
        [.issued k (.closeTransaction transaction)]
  | closed (ticket : Nat) (fault : StateFault) (transaction : Transaction) (reply : Reply) :
      (reply = .done ∨ ∃ clientFault, reply = .failed clientFault) →
      BeginTurn s k (.waiting (.begin (.closeAbandoned transaction fault)) ticket) s
        (.misuse fault) [.answered ticket reply]

inductive ExecuteTurn (s : Session) (k : Nat) (t : Target) :
    Call → Session → Call → List Effect → Prop where
  | wrongState : s.state ≠ .running →
      ExecuteTurn s k t (.ready (.execute t .checkState)) s
        (.misuse (.unexpected .execute .running s.state)) []
  | rightState : s.state = .running →
      ExecuteTurn s k t (.ready (.execute t .checkState)) s (.ready (.execute t .borrow)) []
  | noTransaction : s.slot = none →
      ExecuteTurn s k t (.ready (.execute t .borrow)) s (.misuse (.noTransaction .execute)) []
  | refused (transaction : Transaction) (fault : DumpFault) : s.slot = some transaction →
      s.dispatch.refusal? t = some fault →
      ExecuteTurn s k t (.ready (.execute t .borrow)) s (.fault fault) []
  | borrowed (transaction : Transaction) : s.slot = some transaction →
      s.dispatch.refusal? t = none →
      ExecuteTurn s k t (.ready (.execute t .borrow)) s
        (.ready (.execute t (.lookUp transaction))) []
  | unknown (transaction : Transaction) : s.dispatch.isRegistered t = false →
      ExecuteTurn s k t (.ready (.execute t (.lookUp transaction))) s
        (.fault (Dispatch.unregistered t)) []
  | known (transaction : Transaction) : s.dispatch.isRegistered t = true →
      ExecuteTurn s k t (.ready (.execute t (.lookUp transaction))) s
        (.ready (.execute t (.prepare transaction))) []
  | askPrepare (transaction : Transaction) :
      ExecuteTurn s k t (.ready (.execute t (.prepare transaction))) s
        (.waiting (.execute t (.prepare transaction)) k)
        [.issued k (.prepare (Dispatch.statementOf t))]
  | announceStart (transaction : Transaction) (statement : Statement) :
      ExecuteTurn s k t (.ready (.execute t (.announceStart transaction statement))) s
        (.ready (.execute t
          (if s.dispatch.output.createDirectory then .createDirectory transaction statement
            else .dump transaction statement)))
        [.emitted (.start t.label t.destination)]
  | askDirectory (transaction : Transaction) (statement : Statement) :
      ExecuteTurn s k t (.ready (.execute t (.createDirectory transaction statement))) s
        (.waiting (.execute t (.createDirectory transaction statement)) k)
        [.issued k (.createDirectory t.destination)]
  | askDump (transaction : Transaction) (statement : Statement) :
      ExecuteTurn s k t (.ready (.execute t (.dump transaction statement))) s
        (.waiting (.execute t (.dump transaction statement)) k)
        [.issued k (.dump transaction statement t.destination s.dispatch.output.profile)]
  | askNext (statement : Statement) (rows : RowSet) :
      ExecuteTurn s k t (.ready (.execute t (.fetch statement rows))) s
        (.waiting (.execute t (.fetch statement rows)) k) [.issued k (.nextPath rows)]
  | announceFile (statement : Statement) (rows : RowSet) (path : String) :
      ExecuteTurn s k t (.ready (.execute t (.announceFile statement rows path))) s
        (.ready (.execute t (.fetch statement rows))) [.emitted (.file t.label ⟨path⟩)]
  | askCloseRows (statement : Statement) (rows : RowSet) (fault : Option ClientFault) :
      ExecuteTurn s k t (.ready (.execute t (.closeRows statement rows fault))) s
        (.waiting (.execute t (.closeRows statement rows fault)) k) [.issued k (.closeRows rows)]
  | announceFinish (statement : Statement) :
      ExecuteTurn s k t (.ready (.execute t (.announceFinish statement))) s
        (.ready (.execute t (.closeStatement statement (.ok ()))))
        [.emitted (.finish t.label t.destination)]
  | askClose (statement : Statement) (outcome : Outcome) :
      ExecuteTurn s k t (.ready (.execute t (.closeStatement statement outcome))) s
        (.waiting (.execute t (.closeStatement statement outcome)) k)
        [.issued k (.closeStatement statement)]
  | prepared (ticket : Nat) (transaction : Transaction) :
      ExecuteTurn s k t (.waiting (.execute t (.prepare transaction)) ticket) s
        (.ready (.execute t (.announceStart transaction ⟨ticket, Dispatch.statementOf t⟩)))
        [.answered ticket .done]
  | unprepared (ticket : Nat) (transaction : Transaction) (fault : ClientFault) :
      ExecuteTurn s k t (.waiting (.execute t (.prepare transaction)) ticket) s
        (.fault (.diagnostic (dumpPrepareDiagnostic t.label fault)))
        [.answered ticket (.failed fault)]
  | directoryMade (ticket : Nat) (transaction : Transaction) (statement : Statement) :
      ExecuteTurn s k t (.waiting (.execute t (.createDirectory transaction statement)) ticket) s
        (.ready (.execute t (.dump transaction statement))) [.answered ticket .done]
  | directoryDenied (ticket : Nat) (transaction : Transaction) (statement : Statement)
      (reason : String) :
      ExecuteTurn s k t (.waiting (.execute t (.createDirectory transaction statement)) ticket) s
        (giveUp t statement (directoryDiagnostic t.destination reason))
        [.answered ticket (.denied reason)]
  | dumped (ticket : Nat) (transaction : Transaction) (statement : Statement) :
      ExecuteTurn s k t (.waiting (.execute t (.dump transaction statement)) ticket) s
        (.ready (.execute t (.fetch statement ⟨ticket⟩))) [.answered ticket .done]
  | undumped (ticket : Nat) (transaction : Transaction) (statement : Statement)
      (fault : ClientFault) :
      ExecuteTurn s k t (.waiting (.execute t (.dump transaction statement)) ticket) s
        (giveUp t statement (dumpDiagnostic t.label fault)) [.answered ticket (.failed fault)]
  | file (ticket : Nat) (statement : Statement) (rows : RowSet) (path : String) :
      ExecuteTurn s k t (.waiting (.execute t (.fetch statement rows)) ticket) s
        (.ready (.execute t (.announceFile statement rows path)))
        [.answered ticket (.path (some path))]
  | noFile (ticket : Nat) (statement : Statement) (rows : RowSet) :
      ExecuteTurn s k t (.waiting (.execute t (.fetch statement rows)) ticket) s
        (.ready (.execute t (.closeRows statement rows none))) [.answered ticket (.path none)]
  | fetchFailed (ticket : Nat) (statement : Statement) (rows : RowSet) (fault : ClientFault) :
      ExecuteTurn s k t (.waiting (.execute t (.fetch statement rows)) ticket) s
        (.ready (.execute t (.closeRows statement rows (some fault))))
        [.answered ticket (.failed fault)]
  | rowsClosed (ticket : Nat) (statement : Statement) (rows : RowSet) :
      ExecuteTurn s k t (.waiting (.execute t (.closeRows statement rows none)) ticket) s
        (.ready (.execute t (.announceFinish statement))) [.answered ticket .done]
  | rowsFailed (ticket : Nat) (statement : Statement) (rows : RowSet) (fault : ClientFault) :
      ExecuteTurn s k t (.waiting (.execute t (.closeRows statement rows none)) ticket) s
        (giveUp t statement (dumpDiagnostic t.label fault)) [.answered ticket (.failed fault)]
  | rowsLeft (ticket : Nat) (statement : Statement) (rows : RowSet) (fault : ClientFault)
      (reply : Reply) : (reply = .done ∨ ∃ later, reply = .failed later) →
      ExecuteTurn s k t (.waiting (.execute t (.closeRows statement rows (some fault))) ticket) s
        (giveUp t statement (dumpDiagnostic t.label fault)) [.answered ticket reply]
  | closed (ticket : Nat) (statement : Statement) (outcome : Outcome) (reply : Reply) :
      (reply = .done ∨ ∃ fault, reply = .failed fault) →
      ExecuteTurn s k t (.waiting (.execute t (.closeStatement statement outcome)) ticket) s
        (.returned outcome) [.answered ticket reply]

inductive CommitTurn (s : Session) (k : Nat) : Call → Session → Call → List Effect → Prop where
  | started : s.state = .running →
      CommitTurn s k (.ready (.commit .start)) { s with state := .committing }
        (.ready (.commit .borrow)) [.changed .running .committing]
  | outrun : s.state ≠ .running →
      CommitTurn s k (.ready (.commit .start)) s
        (.misuse (.transition .running .committing s.state)) []
  | borrowed (transaction : Transaction) : s.slot = some transaction →
      CommitTurn s k (.ready (.commit .borrow)) s (.ready (.commit (.announce transaction))) []
  | noTransaction : s.slot = none →
      CommitTurn s k (.ready (.commit .borrow)) s
        (.ready (.commit (.fail (.state (.noTransaction .commit))))) []
  | announce (transaction : Transaction) :
      CommitTurn s k (.ready (.commit (.announce transaction))) s
        (.ready (.commit (.commit transaction)))
        [.emitted (.verbose (commitMessage s.settings.commitStatus))]
  | ask (transaction : Transaction) :
      CommitTurn s k (.ready (.commit (.commit transaction))) s
        (.waiting (.commit (.commit transaction)) k)
        [.issued k (.commit transaction s.settings.commitStatus)]
  | granted (ticket : Nat) (transaction : Transaction) :
      CommitTurn s k (.waiting (.commit (.commit transaction)) ticket) s
        (.ready (.commit .settle)) [.answered ticket .done]
  | refused (ticket : Nat) (transaction : Transaction) (fault : ClientFault) :
      CommitTurn s k (.waiting (.commit (.commit transaction)) ticket) s
        (.ready (.commit
          (.fail (.diagnostic (fault.classify .commitFailure "failed to commit transaction")))))
        [.answered ticket (.failed fault)]
  | failed (fault : DumpFault) : s.state = .committing →
      CommitTurn s k (.ready (.commit (.fail fault))) { s with state := .failed } (.fault fault)
        [.changed .committing .failed]
  | left (fault : DumpFault) : s.state ≠ .committing →
      CommitTurn s k (.ready (.commit (.fail fault))) s (.fault fault) []
  | settled : s.state = .committing →
      CommitTurn s k (.ready (.commit .settle)) { s with state := .committed } .done
        [.changed .committing .committed]
  | unsettled : s.state ≠ .committing →
      CommitTurn s k (.ready (.commit .settle)) s
        (.misuse (.transition .committing .committed s.state)) []

inductive CloseTurn (s : Session) (k : Nat) : Call → Session → Call → List Effect → Prop where
  | swapped : s.state ≠ .closed →
      CloseTurn s k (.ready (.close .start)) { s with state := .closed } (.ready (.close .take))
        [.changed s.state .closed]
  | already : s.state = .closed → CloseTurn s k (.ready (.close .start)) s .done []
  | taken (transaction : Transaction) : s.slot = some transaction →
      CloseTurn s k (.ready (.close .take)) { s with slot := none }
        (.ready (.close (.closeTransaction transaction))) []
  | empty : s.slot = none →
      CloseTurn s k (.ready (.close .take)) s (.ready (.close (.closeClient none))) []
  | askTransaction (transaction : Transaction) :
      CloseTurn s k (.ready (.close (.closeTransaction transaction))) s
        (.waiting (.close (.closeTransaction transaction)) k)
        [.issued k (.closeTransaction transaction)]
  | released (ticket : Nat) (transaction : Transaction) :
      CloseTurn s k (.waiting (.close (.closeTransaction transaction)) ticket) s
        (.ready (.close (.closeClient none))) [.answered ticket .done]
  | unreleased (ticket : Nat) (transaction : Transaction) (fault : ClientFault) :
      CloseTurn s k (.waiting (.close (.closeTransaction transaction)) ticket) s
        (.ready (.close
          (.closeClient (some (fault.classify .serverError "failed to close transaction")))))
        [.answered ticket (.failed fault)]
  | askClient (failure : Option Diagnostic) :
      CloseTurn s k (.ready (.close (.closeClient failure))) s
        (.waiting (.close (.closeClient failure)) k) [.issued k .closeClient]
  | ended (ticket : Nat) :
      CloseTurn s k (.waiting (.close (.closeClient none)) ticket) s .done [.answered ticket .done]
  | endedAfter (ticket : Nat) (first : Diagnostic) :
      CloseTurn s k (.waiting (.close (.closeClient (some first))) ticket) s
        (.fault (.diagnostic first)) [.answered ticket .done]
  | clientFailed (ticket : Nat) (fault : ClientFault) :
      CloseTurn s k (.waiting (.close (.closeClient none)) ticket) s
        (.fault (.diagnostic (fault.classify .serverError "failed to close client")))
        [.answered ticket (.failed fault)]
  | bothFailed (ticket : Nat) (first : Diagnostic) (fault : ClientFault) :
      CloseTurn s k (.waiting (.close (.closeClient (some first))) ticket) s
        (.fault (.diagnostic
          (first.suppress (fault.classify .serverError "failed to close client"))))
        [.answered ticket (.failed fault)]

/-- The point at which a call stands while it is under way. -/
def Call.point? : Call → Option Point
  | .ready p | .waiting p _ => some p
  | .returned _ | .dropped => none

/-- One turn of one call: it sees the session as `s` and leaves it as `s'`, and goes on as
`next`. -/
inductive Turn (s : Session) (k : Nat) (c : Call) : Session → Call → List Effect → Prop where
  | register (t : Target) {s' : Session} {next : Call} {effects : List Effect} :
      RegisterTurn s k t c s' next effects → Turn s k c s' next effects
  | begin {s' : Session} {next : Call} {effects : List Effect} :
      BeginTurn s k c s' next effects → Turn s k c s' next effects
  | execute (t : Target) {s' : Session} {next : Call} {effects : List Effect} :
      ExecuteTurn s k t c s' next effects → Turn s k c s' next effects
  | commit {s' : Session} {next : Call} {effects : List Effect} :
      CommitTurn s k c s' next effects → Turn s k c s' next effects
  | close {s' : Session} {next : Call} {effects : List Effect} :
      CloseTurn s k c s' next effects → Turn s k c s' next effects
  | drop (p : Point) : c.point? = some p → Turn s k c s .dropped [.dropped]

/-- What an action that is taken at `p` makes of the session and of its call, and its effects. -/
def Action.result (s : Session) (k : Nat) (p : Point) : Action → Session × Call × List Effect
  | .become next => (s, next, [])
  | .update s' next => (s', next, Machine.changes s.state s'.state)
  | .emit event next => (s, next, [.emitted event])
  | .request q => (s, .waiting p k, [.issued k q])

variable {s s' : Session} {k : Nat} {t : Target} {c next : Call} {effects : List Effect}

theorem changes_self (state : Lifecycle) : Machine.changes state state = [] := by
  simp [Machine.changes]

theorem changes_of_ne {source goal : Lifecycle} (h : source ≠ goal) :
    Machine.changes source goal = [.changed source goal] := by
  simp [Machine.changes, h]

theorem transition_of_eq {source : Lifecycle} (goal : Lifecycle) (h : s.state = source) :
    s.transition source goal = .ok { s with state := goal } := by
  simp [transition, h]

theorem transition_of_ne {source : Lifecycle} (goal : Lifecycle) (h : s.state ≠ source) :
    s.transition source goal = .error (.transition source goal s.state) := by
  simp [transition, h]

theorem failFrom_of_eq {source : Lifecycle} (h : s.state = source) :
    s.failFrom source = { s with state := .failed } := by
  simp [failFrom, h]

theorem failFrom_of_ne {source : Lifecycle} (h : s.state ≠ source) : s.failFrom source = s := by
  simp [failFrom, h]

theorem RegisterTurn.of_act (s : Session) (k : Nat) (t : Target) (p : RegisterPoint) {r}
    (h : (s.actRegister t p).result s k (.register t p) = r) :
    RegisterTurn s k t (.ready (.register t p)) r.1 r.2.1 r.2.2 := by
  subst h
  cases p with
  | checkState =>
      simp only [actRegister]
      split
      · exact .wrongState ‹_›
      · have right : s.state = .preparing := Decidable.not_not.mp ‹_›
        split
        · exact .refused _ right ‹_›
        · exact .handled right ‹_›
  | lookUp =>
      simp only [actRegister]
      split
      · exact .known ‹_›
      · exact .unknown (eq_false_of_ne_true ‹_›)
  | resolveTable => exact .askTable
  | prepareQuery => exact .askPrepare
  | closeStatement statement => exact .askClose statement
  | enroll info =>
      simp only [actRegister]
      split
      · simp only [Action.result, changes_self]
        exact .enrolled info _ ‹_›
      · exact .outrun info ‹_›
  | announce info => exact .announce info

theorem BeginTurn.of_act (s : Session) (k : Nat) (p : BeginPoint) {r}
    (h : (s.actBegin p).result s k (.begin p) = r) :
    BeginTurn s k (.ready (.begin p)) r.1 r.2.1 r.2.2 := by
  subst h
  cases p with
  | checkState =>
      simp only [actBegin]
      split
      · exact .wrongState ‹_›
      · exact .rightState (Decidable.not_not.mp ‹_›)
  | checkTargets =>
      simp only [actBegin]
      split
      · exact .noTargets ‹_›
      · exact .someTargets (eq_false_of_ne_true ‹_›)
  | start =>
      by_cases right : s.state = .preparing
      · simp only [actBegin, transition_of_eq _ right, Action.result, right, changes_of_ne, ne_eq,
          reduceCtorEq, not_false_eq_true]
        exact .started right
      · simp only [actBegin, transition_of_ne _ right]
        exact .outrun right
  | announce => exact .announce
  | create option => exact .ask option
  | fail fault =>
      by_cases right : s.state = .starting
      · simp only [actBegin, failFrom_of_eq right, Action.result, right, changes_of_ne, ne_eq,
          reduceCtorEq, not_false_eq_true]
        exact .failed fault right
      · simp only [actBegin, failFrom_of_ne right, Action.result, changes_self]
        exact .left fault right
  | store transaction =>
      simp only [actBegin, Action.result, changes_self]
      exact .store transaction
  | run =>
      by_cases right : s.state = .starting
      · simp only [actBegin, transition_of_eq _ right, Action.result, right, changes_of_ne, ne_eq,
          reduceCtorEq, not_false_eq_true]
        exact .running right
      · simp only [actBegin, transition_of_ne _ right]
        exact .abandoned right
  | reclaim fault =>
      simp only [actBegin]
      split
      · simp only [Action.result, changes_self]
        exact .reclaimed fault _ ‹_›
      · exact .taken fault ‹_›
  | closeAbandoned transaction fault => exact .askClose fault transaction

theorem ExecuteTurn.of_act (s : Session) (k : Nat) (t : Target) (p : ExecutePoint) {r}
    (h : (s.actExecute t p).result s k (.execute t p) = r) :
    ExecuteTurn s k t (.ready (.execute t p)) r.1 r.2.1 r.2.2 := by
  subst h
  cases p with
  | checkState =>
      simp only [actExecute]
      split
      · exact .wrongState ‹_›
      · exact .rightState (Decidable.not_not.mp ‹_›)
  | borrow =>
      simp only [actExecute]
      split
      · exact .noTransaction ‹_›
      · exact .refused _ _ ‹_› ‹_›
      · exact .borrowed _ ‹_› ‹_›
  | lookUp transaction =>
      simp only [actExecute]
      split
      · exact .known transaction ‹_›
      · exact .unknown transaction (eq_false_of_ne_true ‹_›)
  | prepare transaction => exact .askPrepare transaction
  | announceStart transaction statement => exact .announceStart transaction statement
  | createDirectory transaction statement => exact .askDirectory transaction statement
  | dump transaction statement => exact .askDump transaction statement
  | fetch statement rows => exact .askNext statement rows
  | announceFile statement rows path => exact .announceFile statement rows path
  | closeRows statement rows fault => exact .askCloseRows statement rows fault
  | announceFinish statement => exact .announceFinish statement
  | closeStatement statement outcome => exact .askClose statement outcome

theorem CommitTurn.of_act (s : Session) (k : Nat) (p : CommitPoint) {r}
    (h : (s.actCommit p).result s k (.commit p) = r) :
    CommitTurn s k (.ready (.commit p)) r.1 r.2.1 r.2.2 := by
  subst h
  cases p with
  | start =>
      by_cases right : s.state = .running
      · simp only [actCommit, transition_of_eq _ right, Action.result, right, changes_of_ne, ne_eq,
          reduceCtorEq, not_false_eq_true]
        exact .started right
      · simp only [actCommit, transition_of_ne _ right]
        exact .outrun right
  | borrow =>
      simp only [actCommit]
      split
      · exact .borrowed _ ‹_›
      · exact .noTransaction ‹_›
  | announce transaction => exact .announce transaction
  | commit transaction => exact .ask transaction
  | fail fault =>
      by_cases right : s.state = .committing
      · simp only [actCommit, failFrom_of_eq right, Action.result, right, changes_of_ne, ne_eq,
          reduceCtorEq, not_false_eq_true]
        exact .failed fault right
      · simp only [actCommit, failFrom_of_ne right, Action.result, changes_self]
        exact .left fault right
  | settle =>
      by_cases right : s.state = .committing
      · simp only [actCommit, transition_of_eq _ right, Action.result, right, changes_of_ne, ne_eq,
          reduceCtorEq, not_false_eq_true]
        exact .settled right
      · simp only [actCommit, transition_of_ne _ right]
        exact .unsettled right

theorem CloseTurn.of_act (s : Session) (k : Nat) (p : ClosePoint) {r}
    (h : (s.actClose p).result s k (.close p) = r) :
    CloseTurn s k (.ready (.close p)) r.1 r.2.1 r.2.2 := by
  subst h
  cases p with
  | start =>
      by_cases closed : s.state = .closed
      · have same : ({ s with state := .closed } : Session) = s := by rw [← closed]
        simp only [actClose, closed, if_true, same, Action.result, changes_self]
        exact .already closed
      · simp only [actClose, closed, if_false, Action.result, changes_of_ne closed]
        exact .swapped closed
  | take =>
      simp only [actClose, Action.result, changes_self]
      split
      · exact .taken _ ‹_›
      · have same : ({ s with slot := none } : Session) = s := by rw [← ‹s.slot = none›]
        rw [same]
        exact .empty ‹_›
  | closeTransaction transaction => exact .askTransaction transaction
  | closeClient failure => exact .askClient failure

theorem Turn.of_act (s : Session) (k : Nat) (p : Point) {r} (h : (s.act p).result s k p = r) :
    Turn s k (.ready p) r.1 r.2.1 r.2.2 := by
  cases p with
  | register t p => exact .register t (.of_act s k t p h)
  | begin p => exact .begin (.of_act s k p h)
  | execute t p => exact .execute t (.of_act s k t p h)
  | commit p => exact .commit (.of_act s k p h)
  | close p => exact .close (.of_act s k p h)

theorem RegisterTurn.of_resume {ticket : Nat} {p : RegisterPoint} {reply : Reply}
    (h : resumeRegister t ticket p reply = some next) :
    RegisterTurn s k t (.waiting (.register t p) ticket) s next [.answered ticket reply] := by
  simp only [resumeRegister] at h
  split at h <;> cases h
  · exact .found ..
  · exact .missed ..
  · exact .prepared ..
  · exact .unprepared ..
  · exact .closed _ _ _ (.inl rfl)
  · exact .closed _ _ _ (.inr ⟨_, rfl⟩)

theorem BeginTurn.of_resume {ticket : Nat} {p : BeginPoint} {reply : Reply}
    (h : resumeBegin ticket p reply = some next) :
    BeginTurn s k (.waiting (.begin p) ticket) s next [.answered ticket reply] := by
  simp only [resumeBegin] at h
  split at h <;> cases h
  · exact .created ..
  · exact .refused ..
  · exact .closed _ _ _ _ (.inl rfl)
  · exact .closed _ _ _ _ (.inr ⟨_, rfl⟩)

theorem ExecuteTurn.of_resume {ticket : Nat} {p : ExecutePoint} {reply : Reply}
    (h : resumeExecute t ticket p reply = some next) :
    ExecuteTurn s k t (.waiting (.execute t p) ticket) s next [.answered ticket reply] := by
  simp only [resumeExecute] at h
  split at h <;> cases h
  · exact .prepared ..
  · exact .unprepared ..
  · exact .directoryMade ..
  · exact .directoryDenied ..
  · exact .dumped ..
  · exact .undumped ..
  · exact .file ..
  · exact .noFile ..
  · exact .fetchFailed ..
  · exact .rowsClosed ..
  · exact .rowsFailed ..
  · exact .rowsLeft _ _ _ _ _ (.inl rfl)
  · exact .rowsLeft _ _ _ _ _ (.inr ⟨_, rfl⟩)
  · exact .closed _ _ _ _ (.inl rfl)
  · exact .closed _ _ _ _ (.inr ⟨_, rfl⟩)

theorem CommitTurn.of_resume {ticket : Nat} {p : CommitPoint} {reply : Reply}
    (h : resumeCommit p reply = some next) :
    CommitTurn s k (.waiting (.commit p) ticket) s next [.answered ticket reply] := by
  simp only [resumeCommit] at h
  split at h <;> cases h
  · exact .granted ..
  · exact .refused ..

theorem CloseTurn.of_resume {ticket : Nat} {p : ClosePoint} {reply : Reply}
    (h : resumeClose p reply = some next) :
    CloseTurn s k (.waiting (.close p) ticket) s next [.answered ticket reply] := by
  simp only [resumeClose] at h
  split at h <;> cases h
  · exact .released ..
  · exact .unreleased ..
  · exact .ended ..
  · exact .endedAfter ..
  · exact .clientFailed ..
  · exact .bothFailed ..

theorem Turn.of_resume {ticket : Nat} {p : Point} {reply : Reply}
    (h : resume ticket p reply = some next) :
    Turn s k (.waiting p ticket) s next [.answered ticket reply] := by
  cases p with
  | register t p => exact .register t (.of_resume h)
  | begin p => exact .begin (.of_resume h)
  | execute t p => exact .execute t (.of_resume h)
  | commit p => exact .commit (.of_resume h)
  | close p => exact .close (.of_resume h)

theorem setup_of_enroll? {d d' : Dispatch} {info : DumpInfo} (h : d.enroll? t info = some d') :
    d'.output = d.output ∧ d'.kinds = d.kinds := by
  cases info with
  | table metadata =>
      obtain ⟨tables, -, rfl⟩ := Option.map_eq_some_iff.mp h
      exact ⟨rfl, rfl⟩
  | query statement =>
      obtain ⟨queries, -, rfl⟩ := Option.map_eq_some_iff.mp h
      exact ⟨rfl, rfl⟩

/-- How a session was set up. -/
structure Setup (settings : TransactionSettings) (dispatch : Dispatch) (s : Session) : Prop where
  settings : s.settings = settings
  output : s.dispatch.output = dispatch.output
  kinds : s.dispatch.kinds = dispatch.kinds

/-- No call changes how the session was set up. -/
theorem Turn.setup (h : Turn s k c s' next effects) : Setup s.settings s.dispatch s' := by
  cases h with
  | register t turn =>
      cases turn with
      | enrolled info dispatch new =>
          exact ⟨rfl, (setup_of_enroll? new).1, (setup_of_enroll? new).2⟩
      | _ => exact ⟨rfl, rfl, rfl⟩
  | begin turn => cases turn <;> exact ⟨rfl, rfl, rfl⟩
  | execute t turn => cases turn <;> exact ⟨rfl, rfl, rfl⟩
  | commit turn => cases turn <;> exact ⟨rfl, rfl, rfl⟩
  | close turn => cases turn <;> exact ⟨rfl, rfl, rfl⟩
  | drop => exact ⟨rfl, rfl, rfl⟩

theorem RegisterTurn.point (h : RegisterTurn s k t c s' next effects) :
    ∃ p, c.point? = some (.register t p) := by
  cases h <;> exact ⟨_, rfl⟩

theorem BeginTurn.point (h : BeginTurn s k c s' next effects) :
    ∃ p, c.point? = some (.begin p) := by
  cases h <;> exact ⟨_, rfl⟩

theorem ExecuteTurn.point (h : ExecuteTurn s k t c s' next effects) :
    ∃ p, c.point? = some (.execute t p) := by
  cases h <;> exact ⟨_, rfl⟩

theorem CommitTurn.point (h : CommitTurn s k c s' next effects) :
    ∃ p, c.point? = some (.commit p) := by
  cases h <;> exact ⟨_, rfl⟩

theorem CloseTurn.point (h : CloseTurn s k c s' next effects) :
    ∃ p, c.point? = some (.close p) := by
  cases h <;> exact ⟨_, rfl⟩

/-- A turn that is taken at a point, and is not a drop, is one of the calls that stand there. -/
def Point.Turns (s : Session) (k : Nat) (c : Call) (s' : Session) (next : Call)
    (effects : List Effect) : Point → Prop
  | .register t _ => RegisterTurn s k t c s' next effects
  | .begin _ => BeginTurn s k c s' next effects
  | .execute t _ => ExecuteTurn s k t c s' next effects
  | .commit _ => CommitTurn s k c s' next effects
  | .close _ => CloseTurn s k c s' next effects

theorem Turn.own {p : Point} (h : Turn s k c s' next effects) (kept : effects ≠ [.dropped])
    (stands : c.point? = some p) : p.Turns s k c s' next effects := by
  cases h with
  | register t turn =>
      obtain ⟨q, stands'⟩ := turn.point
      cases stands.symm.trans stands'
      exact turn
  | begin turn =>
      obtain ⟨q, stands'⟩ := turn.point
      cases stands.symm.trans stands'
      exact turn
  | execute t turn =>
      obtain ⟨q, stands'⟩ := turn.point
      cases stands.symm.trans stands'
      exact turn
  | commit turn =>
      obtain ⟨q, stands'⟩ := turn.point
      cases stands.symm.trans stands'
      exact turn
  | close turn =>
      obtain ⟨q, stands'⟩ := turn.point
      cases stands.symm.trans stands'
      exact turn
  | drop => exact absurd rfl kept

theorem RegisterTurn.frame (h : RegisterTurn s k t c s' next effects) :
    s'.state = s.state ∧ s'.slot = s.slot := by
  cases h <;> exact ⟨rfl, rfl⟩

theorem ExecuteTurn.frame (h : ExecuteTurn s k t c s' next effects) : s' = s := by
  cases h <;> rfl

theorem CommitTurn.frame (h : CommitTurn s k c s' next effects) : s'.slot = s.slot := by
  cases h <;> rfl

theorem Turn.live (h : Turn s k c s' next effects) : ∃ p, c.point? = some p := by
  cases h with
  | register t turn => exact turn.point.imp' _ fun _ stands => stands
  | begin turn => exact turn.point.imp' _ fun _ stands => stands
  | execute t turn => exact turn.point.imp' _ fun _ stands => stands
  | commit turn => exact turn.point.imp' _ fun _ stands => stands
  | close turn => exact turn.point.imp' _ fun _ stands => stands
  | drop p stands => exact ⟨p, stands⟩

end DumpFlow.Session
