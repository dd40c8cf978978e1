import DumpFlow.Session.Basic

/-!
The actions of calls: what a call does at each point, and how it goes on when a request is
answered. Only `act` reads or changes the shared state, one action at a time.
-/

namespace DumpFlow.Session

/-! ### Register -/

def metadataDiagnostic (name : String) (fault : ClientFault) : Diagnostic :=
  match fault with
  | .notFound _ =>
    ⟨.tableNotFound, "table is not found: " ++ name, some (.client fault), []⟩
  | .io _ =>
    ⟨.ioError, "I/O error while resolving table: " ++ name, some (.client fault), []⟩
  | .compile _ | .server _ =>
    ⟨.serverError, "server error while resolving table: " ++ name, some (.client fault), []⟩

def queryDiagnostic (label : String) (fault : ClientFault) : Diagnostic :=
  let kind :=
    match fault with
    | .compile _ => DiagnosticKind.prepareFailure
    | .io _ => .ioError
    | .notFound _ | .server _ => .serverError
  ⟨kind, "failed to prepare query '" ++ label ++ "'", some (.client fault), []⟩

/-- Where the registration of a target by its kind goes on, once it is found to be new. -/
def registration : TargetKind → RegisterPoint
  | .table => .resolveTable
  | .query => .prepareQuery

def actRegister (s : Session) (t : Target) : RegisterPoint → Action
  | .checkState =>
    if s.state ≠ .preparing then
      .become (.misuse (.unexpected .register .preparing s.state))
    else
      match s.dispatch.refusal? t with
      | some fault => .become (.fault fault)
      | none => .become (.ready (.register t .lookUp))
  | .lookUp =>
    if s.dispatch.isRegistered t then .become .done
    else .become (.ready (.register t (registration t.kind)))
  | .resolveTable => .request (.tableMetadata t.subject)
  | .prepareQuery => .request (.prepare (Dispatch.queryKey t))
  | .closeStatement statement => .request (.closeStatement statement)
  | .enroll info =>
    match s.dispatch.enroll? t info with
    | some dispatch =>
      .update { s with dispatch := dispatch } (.ready (.register t (.announce info)))
    | none => .become .done
  | .announce info => .emit (.info t.label info t.destination) .done

/-- A statement that was prepared only to be checked is closed; whether that succeeds is ignored. -/
def resumeRegister (t : Target) (ticket : Nat) : RegisterPoint → Reply → Option Call
  | .resolveTable, .metadata m => some (.ready (.register t (.enroll (.table m))))
  | .resolveTable, .failed fault => some (.fault (.diagnostic (metadataDiagnostic t.subject fault)))
  | .prepareQuery, .done =>
    some (.ready (.register t (.closeStatement ⟨ticket, Dispatch.queryKey t⟩)))
  | .prepareQuery, .failed fault => some (.fault (.diagnostic (queryDiagnostic t.label fault)))
  | .closeStatement _, .done | .closeStatement _, .failed _ =>
    some (.ready (.register t (.enroll (.query (Dispatch.queryKey t)))))
  | _, _ => none

/-! ### Begin -/

def startMessage (o : TransactionOption) : String :=
  "starting " ++ o.kind.name ++ " transaction (label=" ++ Text.quoteOption o.label ++
    ", read areas=" ++ Text.quoteList o.inclusiveReadAreas ++ ")"

def actBegin (s : Session) : BeginPoint → Action
  | .checkState =>
    if s.state ≠ .preparing then .become (.misuse (.unexpected .begin .preparing s.state))
    else .become (.ready (.begin .checkTargets))
  | .checkTargets =>
    if s.dispatch.isEmpty then .become (.misuse .noTargets) else .become (.ready (.begin .start))
  | .start =>
    match s.transition .preparing .starting with
    | .ok s' => .update s' (.ready (.begin .announce))
    | .error fault => .become (.misuse fault)
  | .announce =>
    let option := s.settings.toOption s.dispatch.tableNames
    .emit (.verbose (startMessage option)) (.ready (.begin (.create option)))
  | .create option => .request (.createTransaction option)
  | .fail fault => .update (s.failFrom .starting) (.fault fault)
  | .store transaction => .update { s with slot := some transaction } (.ready (.begin .run))
  | .run =>
    match s.transition .starting .running with
    | .ok s' => .update s' .done
    | .error fault => .become (.ready (.begin (.reclaim fault)))
  | .reclaim fault =>
    match s.slot with
    | some transaction =>
      .update { s with slot := none } (.ready (.begin (.closeAbandoned transaction fault)))
    | none => .become (.misuse fault)
  | .closeAbandoned transaction _ => .request (.closeTransaction transaction)

def resumeBegin (ticket : Nat) : BeginPoint → Reply → Option Call
  | .create _, .done => some (.ready (.begin (.store ⟨ticket⟩)))
  | .create _, .failed fault =>
    some (.ready (.begin
      (.fail (.diagnostic (fault.classify .beginFailure "failed to start transaction")))))
  | .closeAbandoned _ fault, .done | .closeAbandoned _ fault, .failed _ => some (.misuse fault)
  | _, _ => none

/-! ### Execute -/

def dumpDiagnostic (label : String) (fault : ClientFault) : Diagnostic :=
  fault.classify .operationFailure ("failed to dump '" ++ label ++ "'")

def dumpPrepareDiagnostic (label : String) (fault : ClientFault) : Diagnostic :=
  fault.classify .prepareFailure ("failed to prepare dump statement for '" ++ label ++ "'")

def directoryDiagnostic (destination : Path) (reason : String) : Diagnostic :=
  ⟨.ioError, "failed to create destination directory: " ++ destination.text,
    some (.system reason), []⟩

def actExecute (s : Session) (t : Target) : ExecutePoint → Action
  | .checkState =>
    if s.state ≠ .running then .become (.misuse (.unexpected .execute .running s.state))
    else .become (.ready (.execute t .borrow))
  | .borrow =>
    match s.slot, s.dispatch.refusal? t with
    | none, _ => .become (.misuse (.noTransaction .execute))
    | some _, some fault => .become (.fault fault)
    | some transaction, none => .become (.ready (.execute t (.lookUp transaction)))
  | .lookUp transaction =>
    if s.dispatch.isRegistered t then .become (.ready (.execute t (.prepare transaction)))
    else .become (.fault (Dispatch.unregistered t))
  | .prepare _ => .request (.prepare (Dispatch.statementOf t))
  | .announceStart transaction statement =>
    .emit (.start t.label t.destination) (.ready (.execute t
      (if s.dispatch.output.createDirectory then .createDirectory transaction statement
        else .dump transaction statement)))
  | .createDirectory _ _ => .request (.createDirectory t.destination)
  | .dump transaction statement =>
    .request (.dump transaction statement t.destination s.dispatch.output.profile)
  | .fetch _ rows => .request (.nextPath rows)
  | .announceFile statement rows path =>
    .emit (.file t.label ⟨path⟩) (.ready (.execute t (.fetch statement rows)))
  | .closeRows _ rows _ => .request (.closeRows rows)
  | .announceFinish statement =>
    .emit (.finish t.label t.destination)
      (.ready (.execute t (.closeStatement statement (.ok ()))))
  | .closeStatement statement _ => .request (.closeStatement statement)

/-- The dump of a target ended in a fault; its statement is still open. -/
def giveUp (t : Target) (statement : Statement) (d : Diagnostic) : Call :=
  .ready (.execute t (.closeStatement statement (.error (.diagnostic d))))

/-- The fault of a row is reported, whatever becomes of closing the rows after it. Whether the
statement can be closed is ignored. -/
def resumeExecute (t : Target) (ticket : Nat) : ExecutePoint → Reply → Option Call
  | .prepare transaction, .done =>
    some (.ready (.execute t (.announceStart transaction ⟨ticket, Dispatch.statementOf t⟩)))
  | .prepare _, .failed fault =>
    some (.fault (.diagnostic (dumpPrepareDiagnostic t.label fault)))
  | .createDirectory transaction statement, .done =>
    some (.ready (.execute t (.dump transaction statement)))
  | .createDirectory _ statement, .denied reason =>
    some (giveUp t statement (directoryDiagnostic t.destination reason))
  | .dump _ statement, .done => some (.ready (.execute t (.fetch statement ⟨ticket⟩)))
  | .dump _ statement, .failed fault => some (giveUp t statement (dumpDiagnostic t.label fault))
  | .fetch statement rows, .path (some path) =>
    some (.ready (.execute t (.announceFile statement rows path)))
  | .fetch statement rows, .path none =>
    some (.ready (.execute t (.closeRows statement rows none)))
  | .fetch statement rows, .failed fault =>
    some (.ready (.execute t (.closeRows statement rows (some fault))))
  | .closeRows statement _ none, .done => some (.ready (.execute t (.announceFinish statement)))
  | .closeRows statement _ none, .failed fault
  | .closeRows statement _ (some fault), .done
  | .closeRows statement _ (some fault), .failed _ =>
    some (giveUp t statement (dumpDiagnostic t.label fault))
  | .closeStatement _ outcome, .done | .closeStatement _ outcome, .failed _ =>
    some (.returned outcome)
  | _, _ => none

/-! ### Commit -/

def commitMessage (status : CommitStatus) : String :=
  "committing transaction (status=" ++ status.title ++ ")"

def actCommit (s : Session) : CommitPoint → Action
  | .start =>
    match s.transition .running .committing with
    | .ok s' => .update s' (.ready (.commit .borrow))
    | .error fault => .become (.misuse fault)
  | .borrow =>
    match s.slot with
    | some transaction => .become (.ready (.commit (.announce transaction)))
    | none => .become (.ready (.commit (.fail (.state (.noTransaction .commit)))))
  | .announce transaction =>
    .emit (.verbose (commitMessage s.settings.commitStatus))
      (.ready (.commit (.commit transaction)))
  | .commit transaction => .request (.commit transaction s.settings.commitStatus)
  | .fail fault => .update (s.failFrom .committing) (.fault fault)
  | .settle =>
    match s.transition .committing .committed with
    | .ok s' => .update s' .done
    | .error fault => .become (.misuse fault)

def resumeCommit : CommitPoint → Reply → Option Call
  | .commit _, .done => some (.ready (.commit .settle))
  | .commit _, .failed fault =>
    some (.ready (.commit
      (.fail (.diagnostic (fault.classify .commitFailure "failed to commit transaction")))))
  | _, _ => none

/-! ### Close -/

/-- Only the first call to close has anything to release. -/
def actClose (s : Session) : ClosePoint → Action
  | .start =>
    .update { s with state := .closed }
      (if s.state = .closed then .done else .ready (.close .take))
  | .take =>
    .update { s with slot := none }
      (match s.slot with
        | some transaction => .ready (.close (.closeTransaction transaction))
        | none => .ready (.close (.closeClient none)))
  | .closeTransaction transaction => .request (.closeTransaction transaction)
  | .closeClient _ => .request .closeClient

/-- The client is closed even after a failure; of two failures the second is suppressed. -/
def resumeClose : ClosePoint → Reply → Option Call
  | .closeTransaction _, .done => some (.ready (.close (.closeClient none)))
  | .closeTransaction _, .failed fault =>
    some (.ready (.close
      (.closeClient (some (fault.classify .serverError "failed to close transaction")))))
  | .closeClient none, .done => some .done
  | .closeClient (some first), .done => some (.fault (.diagnostic first))
  | .closeClient none, .failed fault =>
    some (.fault (.diagnostic (fault.classify .serverError "failed to close client")))
  | .closeClient (some first), .failed fault =>
    some (.fault (.diagnostic
      (first.suppress (fault.classify .serverError "failed to close client"))))
  | _, _ => none

/-! ### All calls -/

def act (s : Session) : Point → Action
  | .register t p => s.actRegister t p
  | .begin p => s.actBegin p
  | .execute t p => s.actExecute t p
  | .commit p => s.actCommit p
  | .close p => s.actClose p

/-- How a call goes on when the request of its point, with the given ticket, is answered; none if
the reply does not fit the request. -/
def resume (ticket : Nat) : Point → Reply → Option Call
  | .register t p, r => resumeRegister t ticket p r
  | .begin p, r => resumeBegin ticket p r
  | .execute t p, r => resumeExecute t ticket p r
  | .commit p, r => resumeCommit p r
  | .close p, r => resumeClose p r

end DumpFlow.Session
