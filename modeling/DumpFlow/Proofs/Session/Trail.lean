import DumpFlow.Proofs.Session.Course

/-!
What a call that begins, commits or closes has done by the time it stands at one of its points.
Whatever the session and the other calls do in between, a call by itself runs straight on, so
where it stands tells what it has done.
-/

namespace DumpFlow.Session

/-- A begin that has asked for its transaction. -/
def openingPast (k : Nat) (o : TransactionOption) : List Effect :=
  [.called beginning, .changed .preparing .starting, .emitted (.verbose (startMessage o)),
    .issued k (.createTransaction o)]

inductive BeginTrail : Call → List Effect → Prop where
  | checkState : BeginTrail (.ready beginning) [.called beginning]
  | checkTargets : BeginTrail (.ready (.begin .checkTargets)) [.called beginning]
  | start : BeginTrail (.ready (.begin .start)) [.called beginning]
  | announce :
      BeginTrail (.ready (.begin .announce)) [.called beginning, .changed .preparing .starting]
  | create (o : TransactionOption) :
      BeginTrail (.ready (.begin (.create o)))
        [.called beginning, .changed .preparing .starting, .emitted (.verbose (startMessage o))]
  | creating (k : Nat) (o : TransactionOption) :
      BeginTrail (.waiting (.begin (.create o)) k) (openingPast k o)
  | fail (k : Nat) (o : TransactionOption) (clientFault : ClientFault) (fault : DumpFault) :
      BeginTrail (.ready (.begin (.fail fault)))
        (openingPast k o ++ [.answered k (.failed clientFault)])
  | store (k : Nat) (o : TransactionOption) :
      BeginTrail (.ready (.begin (.store ⟨k⟩))) (openingPast k o ++ [.answered k .done])
  | run (k : Nat) (o : TransactionOption) :
      BeginTrail (.ready (.begin .run)) (openingPast k o ++ [.answered k .done])
  | reclaim (k : Nat) (o : TransactionOption) (fault : StateFault) :
      BeginTrail (.ready (.begin (.reclaim fault))) (openingPast k o ++ [.answered k .done])
  | closeAbandoned (k : Nat) (o : TransactionOption) (transaction : Transaction)
      (fault : StateFault) :
      BeginTrail (.ready (.begin (.closeAbandoned transaction fault)))
        (openingPast k o ++ [.answered k .done])
  | closing (k k' : Nat) (o : TransactionOption) (transaction : Transaction) (fault : StateFault) :
      BeginTrail (.waiting (.begin (.closeAbandoned transaction fault)) k')
        (openingPast k o ++ [.answered k .done, .issued k' (.closeTransaction transaction)])
  | misused (fault : StateFault) :
      BeginTrail (.misuse fault) [.called beginning, .returned (.error (.state fault))]
  | failed (k : Nat) (o : TransactionOption) (clientFault : ClientFault) (fault : DumpFault) :
      BeginTrail (.fault fault) (openingPast k o ++ [.answered k (.failed clientFault),
        .changed .starting .failed, .returned (.error fault)])
  | left (k : Nat) (o : TransactionOption) (clientFault : ClientFault) (fault : DumpFault) :
      BeginTrail (.fault fault) (openingPast k o ++ [.answered k (.failed clientFault),
        .returned (.error fault)])
  | done (k : Nat) (o : TransactionOption) :
      BeginTrail .done (openingPast k o ++ [.answered k .done, .changed .starting .running,
        .returned (.ok ())])
  | taken (k : Nat) (o : TransactionOption) (fault : StateFault) :
      BeginTrail (.misuse fault) (openingPast k o ++ [.answered k .done,
        .returned (.error (.state fault))])
  | abandoned (k k' : Nat) (o : TransactionOption) (transaction : Transaction) (reply : Reply)
      (fault : StateFault) :
      BeginTrail (.misuse fault) (openingPast k o ++ [.answered k .done,
        .issued k' (.closeTransaction transaction), .answered k' reply,
        .returned (.error (.state fault))])
  | dropped {c : Call} {past : List Effect} :
      BeginTrail c past → BeginTrail .dropped (past ++ [.dropped])

/-- A commit that has found the session running. -/
def committingPast : List Effect := [.called committing, .changed .running .committing]

def grantingPast (k : Nat) (transaction : Transaction) (status : CommitStatus) : List Effect :=
  committingPast ++
    [.emitted (.verbose (commitMessage status)), .issued k (.commit transaction status)]

inductive CommitTrail (status : CommitStatus) : Call → List Effect → Prop where
  | start : CommitTrail status (.ready committing) [.called committing]
  | outrun (fault : StateFault) :
      CommitTrail status (.misuse fault) [.called committing, .returned (.error (.state fault))]
  | borrow : CommitTrail status (.ready (.commit .borrow)) committingPast
  | announce (transaction : Transaction) :
      CommitTrail status (.ready (.commit (.announce transaction))) committingPast
  | commit (transaction : Transaction) :
      CommitTrail status (.ready (.commit (.commit transaction)))
        (committingPast ++ [.emitted (.verbose (commitMessage status))])
  | granting (k : Nat) (transaction : Transaction) :
      CommitTrail status (.waiting (.commit (.commit transaction)) k)
        (grantingPast k transaction status)
  | settle (k : Nat) (transaction : Transaction) :
      CommitTrail status (.ready (.commit .settle))
        (grantingPast k transaction status ++ [.answered k .done])
  | settled (k : Nat) (transaction : Transaction) :
      CommitTrail status .done (grantingPast k transaction status ++ [.answered k .done,
        .changed .committing .committed, .returned (.ok ())])
  | unsettled (k : Nat) (transaction : Transaction) (fault : StateFault) :
      CommitTrail status (.misuse fault) (grantingPast k transaction status ++ [.answered k .done,
        .returned (.error (.state fault))])
  | noTransaction (fault : DumpFault) :
      CommitTrail status (.ready (.commit (.fail fault))) committingPast
  | refused (k : Nat) (transaction : Transaction) (clientFault : ClientFault) (fault : DumpFault) :
      CommitTrail status (.ready (.commit (.fail fault)))
        (grantingPast k transaction status ++ [.answered k (.failed clientFault)])
  | failed {past : List Effect} (fault : DumpFault) :
      CommitTrail status (.ready (.commit (.fail fault))) past →
      CommitTrail status (.fault fault)
        (past ++ [.changed .committing .failed, .returned (.error fault)])
  | left {past : List Effect} (fault : DumpFault) :
      CommitTrail status (.ready (.commit (.fail fault))) past →
      CommitTrail status (.fault fault) (past ++ [.returned (.error fault)])
  | dropped {c : Call} {past : List Effect} :
      CommitTrail status c past → CommitTrail status .dropped (past ++ [.dropped])

def replyOf : Option ClientFault → Reply
  | none => .done
  | some fault => .failed fault

/-- A request and its answer. -/
def attempt (k : Nat) (q : Request) (fault : Option ClientFault) : List Effect :=
  [.issued k q, .answered k (replyOf fault)]

/-- The attempt of a close to close the transaction that it took. -/
structure Release where
  ticket : Nat
  transaction : Transaction
  fault : Option ClientFault

/-- A close that has found the session open, and has done with its transaction. -/
def closingPast (state : Lifecycle) (release : Option Release) : List Effect :=
  [.called closing, .changed state .closed] ++
    release.elim [] fun r => attempt r.ticket (.closeTransaction r.transaction) r.fault

def transactionFailure (fault : ClientFault) : Diagnostic :=
  fault.classify .serverError "failed to close transaction"

def clientFailure (fault : ClientFault) : Diagnostic :=
  fault.classify .serverError "failed to close client"

/-- The outcome of a close, by the fault of closing the transaction and that of closing the
client. -/
def closeOutcome : Option ClientFault → Option ClientFault → Outcome
  | none, none => .ok ()
  | some fault, none => .error (.diagnostic (transactionFailure fault))
  | none, some fault => .error (.diagnostic (clientFailure fault))
  | some fault, some later =>
    .error (.diagnostic { transactionFailure fault with suppressed := [clientFailure later] })

inductive CloseTrail : Call → List Effect → Prop where
  | start : CloseTrail (.ready closing) [.called closing]
  | already : CloseTrail .done [.called closing, .returned (.ok ())]
  | take (state : Lifecycle) :
      CloseTrail (.ready (.close .take)) [.called closing, .changed state .closed]
  | closeTransaction (state : Lifecycle) (transaction : Transaction) :
      CloseTrail (.ready (.close (.closeTransaction transaction)))
        [.called closing, .changed state .closed]
  | closingTransaction (state : Lifecycle) (k : Nat) (transaction : Transaction) :
      CloseTrail (.waiting (.close (.closeTransaction transaction)) k)
        [.called closing, .changed state .closed, .issued k (.closeTransaction transaction)]
  | closeClient (state : Lifecycle) (release : Option Release) :
      CloseTrail
        (.ready (.close (.closeClient ((release.bind Release.fault).map transactionFailure))))
        (closingPast state release)
  | closingClient (state : Lifecycle) (release : Option Release) (k : Nat) :
      CloseTrail
        (.waiting (.close (.closeClient ((release.bind Release.fault).map transactionFailure))) k)
        (closingPast state release ++ [.issued k .closeClient])
  | ended (state : Lifecycle) (release : Option Release) (k : Nat) (fault : Option ClientFault) :
      CloseTrail (.returned (closeOutcome (release.bind Release.fault) fault))
        (closingPast state release ++ attempt k .closeClient fault ++
          [.returned (closeOutcome (release.bind Release.fault) fault)])
  | dropped {c : Call} {past : List Effect} :
      CloseTrail c past → CloseTrail .dropped (past ++ [.dropped])

/-- An effect of a registration or a dump, which have no part in the life of the session. -/
def Effect.isAside : Effect → Bool
  | .called (.register _ _) | .called (.execute _ _) => true
  | .called _ | .changed _ _ => false
  | .issued _ (.createTransaction _) | .issued _ (.commit _ _) | .issued _ (.closeTransaction _) |
    .issued _ .closeClient => false
  | _ => true

def Point.isAside : Point → Bool
  | .register _ _ | .execute _ _ => true
  | _ => false

inductive Trail (status : CommitStatus) (c : Call) (past : List Effect) : Prop where
  | aside : (∀ p, c.point? = some p → p.isAside = true) → (∀ e ∈ past, e.isAside = true) →
      Trail status c past
  | begin : BeginTrail c past → Trail status c past
  | commit : CommitTrail status c past → Trail status c past
  | close : CloseTrail c past → Trail status c past

variable {settings : TransactionSettings} {dispatch : Dispatch} {m : Machine}
  {s s' : Session} {k : Nat} {t : Target} {c next : Call} {past effects : List Effect}
  {status : CommitStatus}

theorem BeginTrail.point (h : BeginTrail c past) {p : Point} (stands : c.point? = some p) :
    ∃ b, p = .begin b := by
  cases h <;> cases stands <;> exact ⟨_, rfl⟩

theorem CommitTrail.point (h : CommitTrail status c past) {p : Point} (stands : c.point? = some p) :
    ∃ b, p = .commit b := by
  cases h <;> cases stands <;> exact ⟨_, rfl⟩

theorem CloseTrail.point (h : CloseTrail c past) {p : Point} (stands : c.point? = some p) :
    ∃ b, p = .close b := by
  cases h <;> cases stands <;> exact ⟨_, rfl⟩

theorem BeginTrail.turn (h : BeginTrail c past) (turn : BeginTurn s k c s' next effects) :
    BeginTrail next (past ++ (effects ++ Machine.returns next)) := by
  cases turn with
  | created ticket o => cases h; exact .store ticket o
  | refused ticket o clientFault => cases h; exact .fail ticket o clientFault _
  | failed fault right => cases h; exact .failed _ _ _ fault
  | left fault right => cases h; exact .left _ _ _ fault
  | running right => cases h; exact .done _ _
  | taken fault empty => cases h; exact .taken _ _ fault
  | closed ticket fault transaction reply fits =>
      cases h
      exact .abandoned _ ticket _ transaction reply fault
  | _ => cases h; constructor

theorem CommitTrail.turn (h : CommitTrail s.settings.commitStatus c past)
    (turn : CommitTurn s k c s' next effects) :
    CommitTrail s.settings.commitStatus next (past ++ (effects ++ Machine.returns next)) := by
  cases turn with
  | granted ticket transaction => cases h; exact .settle ticket transaction
  | refused ticket transaction fault => cases h; exact .refused ticket transaction fault _
  | failed fault right => exact .failed fault h
  | left fault right => exact .left fault h
  | settled right => cases h; exact .settled _ _
  | unsettled right => cases h; exact .unsettled _ _ _
  | _ => cases h; constructor

theorem CloseTrail.client {failure : Option Diagnostic}
    (h : CloseTrail (.waiting (.close (.closeClient failure)) k) past) :
    ∃ state release, failure = (release.bind Release.fault).map transactionFailure ∧
      past = closingPast state release ++ [.issued k .closeClient] := by
  cases h with
  | closingClient state release => exact ⟨state, release, rfl, rfl⟩

theorem CloseTrail.last {failure : Option Diagnostic} {outcome : Outcome}
    (h : CloseTrail (.waiting (.close (.closeClient failure)) k) past) (fault : Option ClientFault)
    (ends : ∀ first : Option ClientFault, first.map transactionFailure = failure →
      closeOutcome first fault = outcome) :
    CloseTrail (.returned outcome)
      (past ++ ([.answered k (replyOf fault)] ++ Machine.returns (.returned outcome))) := by
  obtain ⟨state, release, same, rfl⟩ := h.client
  rw [← ends _ same.symm]
  have ended := CloseTrail.ended state release k fault
  simpa [attempt, Machine.returns] using ended

theorem CloseTrail.turn (h : CloseTrail c past) (turn : CloseTurn s k c s' next effects) :
    CloseTrail next (past ++ (effects ++ Machine.returns next)) := by
  cases turn with
  | empty taken => cases h with | take state => exact .closeClient state none
  | released ticket transaction =>
      cases h with
      | closingTransaction state => exact .closeClient state (some ⟨ticket, transaction, none⟩)
  | unreleased ticket transaction fault =>
      cases h with
      | closingTransaction state =>
          exact .closeClient state (some ⟨ticket, transaction, some fault⟩)
  | askClient failure => cases h with | closeClient state release => exact .closingClient ..
  | ended ticket =>
      refine h.last none fun first same => ?_
      rw [Option.map_eq_none_iff.mp same]
      rfl
  | endedAfter ticket first =>
      refine h.last none fun fault same => ?_
      obtain ⟨fault, rfl, rfl⟩ := Option.map_eq_some_iff.mp same
      rfl
  | clientFailed ticket fault =>
      refine h.last (some fault) fun first same => ?_
      rw [Option.map_eq_none_iff.mp same]
      rfl
  | bothFailed ticket first fault =>
      refine h.last (some fault) fun earlier same => ?_
      obtain ⟨earlier, rfl, rfl⟩ := Option.map_eq_some_iff.mp same
      rfl
  | _ => cases h; constructor

theorem RegisterTurn.aside (turn : RegisterTurn s k t c s' next effects) :
    (∀ p, next.point? = some p → p.isAside = true) ∧
      ∀ e ∈ effects ++ Machine.returns next, e.isAside = true := by
  cases turn <;> simp [Call.point?, Call.misuse, Call.fault, Call.done, Machine.returns,
    Effect.isAside, Point.isAside]

theorem ExecuteTurn.aside (turn : ExecuteTurn s k t c s' next effects) :
    (∀ p, next.point? = some p → p.isAside = true) ∧
      ∀ e ∈ effects ++ Machine.returns next, e.isAside = true := by
  cases turn <;> simp [Call.point?, Call.misuse, Call.fault, giveUp, Machine.returns,
    Effect.isAside, Point.isAside]

theorem Trail.turn (h : Trail s.settings.commitStatus c past)
    (turn : Turn s k c s' next effects) :
    Trail s.settings.commitStatus next (past ++ (effects ++ Machine.returns next)) := by
  cases turn with
  | register t turn =>
      obtain ⟨p, stands⟩ := turn.point
      cases h with
      | aside _ quiet =>
          refine .aside turn.aside.1 fun e member => ?_
          exact (List.mem_append.mp member).elim (quiet e) (turn.aside.2 e)
      | begin trail => cases (trail.point stands).choose_spec
      | commit trail => cases (trail.point stands).choose_spec
      | close trail => cases (trail.point stands).choose_spec
  | execute t turn =>
      obtain ⟨p, stands⟩ := turn.point
      cases h with
      | aside _ quiet =>
          refine .aside turn.aside.1 fun e member => ?_
          exact (List.mem_append.mp member).elim (quiet e) (turn.aside.2 e)
      | begin trail => cases (trail.point stands).choose_spec
      | commit trail => cases (trail.point stands).choose_spec
      | close trail => cases (trail.point stands).choose_spec
  | begin turn =>
      obtain ⟨p, stands⟩ := turn.point
      cases h with
      | aside apart => cases apart _ stands
      | begin trail => exact .begin (trail.turn turn)
      | commit trail => cases (trail.point stands).choose_spec
      | close trail => cases (trail.point stands).choose_spec
  | commit turn =>
      obtain ⟨p, stands⟩ := turn.point
      cases h with
      | aside apart => cases apart _ stands
      | begin trail => cases (trail.point stands).choose_spec
      | commit trail => exact .commit (trail.turn turn)
      | close trail => cases (trail.point stands).choose_spec
  | close turn =>
      obtain ⟨p, stands⟩ := turn.point
      cases h with
      | aside apart => cases apart _ stands
      | begin trail => cases (trail.point stands).choose_spec
      | commit trail => cases (trail.point stands).choose_spec
      | close trail => exact .close (trail.turn turn)
  | drop p stands =>
      cases h with
      | aside _ quiet =>
          refine .aside (fun p gone => by cases gone) fun e member => ?_
          rcases List.mem_append.mp member with old | new
          · exact quiet e old
          · rw [List.mem_singleton.mp new]
            rfl
      | begin trail => exact .begin trail.dropped
      | commit trail => exact .commit trail.dropped
      | close trail => exact .close trail.dropped

def Effect.isOfBegin : Effect → Bool
  | .called (.begin _) | .changed .preparing .starting | .changed .starting .running |
    .changed .starting .failed | .issued _ (.createTransaction _) |
    .issued _ (.closeTransaction _) | .emitted _ | .answered _ _ | .returned _ | .dropped => true
  | _ => false

def Effect.isOfCommit : Effect → Bool
  | .called (.commit _) | .changed .running .committing | .changed .committing .committed |
    .changed .committing .failed | .issued _ (.commit _ _) | .emitted _ | .answered _ _ |
    .returned _ | .dropped => true
  | _ => false

def Effect.isOfClose : Effect → Bool
  | .called (.close _) | .changed _ .closed | .issued _ (.closeTransaction _) |
    .issued _ .closeClient | .answered _ _ | .returned _ | .dropped => true
  | _ => false

theorem BeginTrail.all_begin (h : BeginTrail c past) : past.all Effect.isOfBegin = true := by
  induction h with
  | dropped _ ih => simpa [Effect.isOfBegin] using ih
  | _ => rfl

theorem CommitTrail.all_commit (h : CommitTrail status c past) :
    past.all Effect.isOfCommit = true := by
  induction h with
  | failed _ _ ih | left _ _ ih | dropped _ ih => simpa [Effect.isOfCommit] using ih
  | _ => rfl

theorem CloseTrail.all_close (h : CloseTrail c past) : past.all Effect.isOfClose = true := by
  induction h with
  | dropped _ ih => simpa [Effect.isOfClose] using ih
  | closeClient state release | closingClient state release | ended state release =>
      cases release <;> rfl
  | _ => rfl

theorem Trail.of_mem (h : Trail status c past) {e : Effect} (member : e ∈ past) :
    e.isAside = true ∨ (e.isOfBegin = true ∧ BeginTrail c past) ∨
      (e.isOfCommit = true ∧ CommitTrail status c past) ∨
      (e.isOfClose = true ∧ CloseTrail c past) := by
  cases h with
  | aside _ quiet => exact .inl (quiet e member)
  | begin trail => exact .inr (.inl ⟨List.all_eq_true.mp trail.all_begin e member, trail⟩)
  | commit trail => exact .inr (.inr (.inl ⟨List.all_eq_true.mp trail.all_commit e member, trail⟩))
  | close trail => exact .inr (.inr (.inr ⟨List.all_eq_true.mp trail.all_close e member, trail⟩))

/-- What only a begin does tells the trail of one. -/
theorem Trail.begin_of_mem (h : Trail status c past) {e : Effect} (member : e ∈ past)
    (other : (e.isAside || e.isOfCommit || e.isOfClose) = false) : BeginTrail c past := by
  simp only [Bool.or_eq_false_iff] at other
  have here := h.of_mem member
  simp only [other, Bool.false_eq_true, false_and, or_false, false_or] at here
  exact here.2

theorem Trail.commit_of_mem (h : Trail status c past) {e : Effect} (member : e ∈ past)
    (other : (e.isAside || e.isOfBegin || e.isOfClose) = false) : CommitTrail status c past := by
  simp only [Bool.or_eq_false_iff] at other
  have here := h.of_mem member
  simp only [other, Bool.false_eq_true, false_and, or_false, false_or] at here
  exact here.2

theorem Trail.close_of_mem (h : Trail status c past) {e : Effect} (member : e ∈ past)
    (other : (e.isAside || e.isOfBegin || e.isOfCommit) = false) : CloseTrail c past := by
  simp only [Bool.or_eq_false_iff] at other
  have here := h.of_mem member
  simp only [other, Bool.false_eq_true, false_and, false_or] at here
  exact here.2

theorem Machine.Used.trail (h : Used settings dispatch m) :
    ∀ x ∈ m.threads, Trail settings.commitStatus x.call x.past := by
  refine h.each (Q := fun x => Trail settings.commitStatus x.call x.past) ?_ ?_
  · intro p entry
    cases entry with
    | registering t | executing t =>
        refine .aside (fun p stands => ?_) (by simp [Effect.isAside, registering, executing])
        cases stands
        rfl
    | beginning => exact .begin .checkState
    | committing => exact .commit .start
    | closing => exact .close .start
  · intro s k c past s' next effects setup turn trail
    rw [← setup.settings] at trail ⊢
    exact trail.turn turn

end DumpFlow.Session
