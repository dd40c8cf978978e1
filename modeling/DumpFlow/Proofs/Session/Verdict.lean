import DumpFlow.Proofs.Session.Exchanges
import DumpFlow.Proofs.Session.Slot

/-!
What the outcome of a call tells. A call that has the session to itself and ends in misuse has done
nothing; one that ends in a diagnostic reports the first of its failures that it does not pass over,
under the kind that belongs to what it had asked for.
-/

namespace DumpFlow.Session

def Reply.isFailure : Reply → Bool
  | .failed _ | .denied _ => true
  | _ => false

def Point.isRegister : Point → Bool
  | .register _ _ => true
  | _ => false

namespace Exchange

/-- Whether a failure is ignored: to close a statement always is, to close rows is once a row could
not be fetched. -/
def isPassedOver (earlier : List Exchange) (x : Exchange) : Bool :=
  match x.request with
  | .closeStatement _ => true
  | .closeRows rows => earlier.any fun y => y.request == .nextPath rows && Reply.isFailure y.reply
  | _ => false

/-- The kind under which a failure is reported, by registrations or by the other calls. -/
def kind (registers : Bool) (x : Exchange) : DiagnosticKind :=
  match x.reply, x.request with
  | .denied _, _ | .failed (.io _), _ => .ioError
  | .failed (.notFound _), .tableMetadata _ => .tableNotFound
  | .failed (.compile _), .prepare _ => .prepareFailure
  | _, .prepare _ => if registers then .serverError else .prepareFailure
  | _, .createTransaction _ => .beginFailure
  | _, .dump _ _ _ _ | _, .nextPath _ | _, .closeRows _ => .operationFailure
  | _, .commit _ _ => .commitFailure
  | _, _ => .serverError

end Exchange

/-- The first failure that is not passed over, of exchanges that follow `earlier`. -/
def firstFailure? (earlier : List Exchange) : List Exchange → Option Exchange
  | [] => none
  | x :: rest =>
    if Reply.isFailure x.reply && !x.isPassedOver earlier then some x
    else firstFailure? (earlier ++ [x]) rest

/-- The kind of the failure that a call has met and is going to report. -/
def Point.reported? : Point → Option DiagnosticKind
  | .begin (.fail (.diagnostic d)) | .commit (.fail (.diagnostic d))
  | .execute _ (.closeStatement _ (.error (.diagnostic d)))
  | .close (.closeClient (some d)) => some d.kind
  | .execute t (.closeRows _ _ (some fault)) => some (dumpDiagnostic t.label fault).kind
  | _ => none

def Call.reported? : Call → Option DiagnosticKind
  | .ready p | .waiting p _ => p.reported?
  | .returned (.error (.diagnostic d)) => some d.kind
  | _ => none

/-- Points that a call reaches without having done anything. -/
def Point.isFirst : Point → Bool
  | .register _ .checkState | .register _ .lookUp | .begin .checkState | .begin .checkTargets
  | .begin .start | .execute _ .checkState | .execute _ .borrow | .execute _ (.lookUp _)
  | .commit .start | .close .start => true
  | _ => false

/-- What a call that has the session to itself finds at a point. -/
def Point.Finds (s : Session) : Point → Prop
  | .begin (.reclaim _) | .begin (.closeAbandoned _ _) => False
  | .begin .announce | .begin (.create _) | .begin (.store _) | .begin .run => s.state = .starting
  | .commit .borrow => s.state = .committing ∧ s.slot ≠ none
  | .commit (.announce _) | .commit (.commit _) | .commit .settle => s.state = .committing
  | .begin (.fail fault) | .commit (.fail fault)
  | .execute _ (.closeStatement _ (.error fault)) => fault.isDiagnostic = true
  | _ => True

/-- Of a call that was made at `p` on the session `s₀`: nothing has happened before it got past its
first points, nor if it ends in misuse. -/
structure Innocent (s₀ : Session) (p : Point) (s : Session) (x : Thread) : Prop where
  finds : ∀ q, x.call.point? = some q → q.Finds s
  first : ∀ q, x.call.point? = some q → q.isFirst = true → s = s₀ ∧ x.past = [.called p]
  misused : ∀ fault, x.call = .returned (.error (.misuse fault)) →
    s = s₀ ∧ x.past = [.called p, .returned (.error (.misuse fault))]

variable {s₀ s s' : Session} {p : Point} {k : Nat} {t : Target} {c next : Call}
  {past effects : List Effect} {earlier xs ys : List Exchange} {x : Exchange} {registers : Bool}

theorem firstFailure?_append :
    firstFailure? earlier (xs ++ ys) =
      (firstFailure? earlier xs).or (firstFailure? (earlier ++ xs) ys) := by
  induction xs generalizing earlier with
  | nil => simp [firstFailure?]
  | cons x xs ih =>
      simp only [List.cons_append, firstFailure?]
      split
      · rfl
      · rw [ih, List.append_assoc, List.singleton_append]

theorem mem_of_firstFailure? (h : firstFailure? earlier xs = some x) : x ∈ xs := by
  induction xs generalizing earlier with
  | nil => cases h
  | cons y ys ih =>
      simp only [firstFailure?] at h
      split at h
      · cases h
        exact List.mem_cons_self ..
      · exact List.mem_cons_of_mem _ (ih h)

/-- Without a failure that counts no row failed. -/
theorem fetched_of_firstFailure? {rows : RowSet} (none_ : firstFailure? earlier xs = none) :
    (xs.any fun y => y.request == .nextPath rows && Reply.isFailure y.reply) = false := by
  induction xs generalizing earlier with
  | nil => rfl
  | cons x xs ih =>
      simp only [firstFailure?] at none_
      split at none_
      · cases none_
      · rename_i passed
        rw [List.any_cons, ih none_, Bool.or_false]
        by_contra failed
        simp only [Bool.not_eq_false, Bool.and_eq_true, beq_iff_eq] at failed
        simp [Exchange.isPassedOver, failed.1, failed.2] at passed

theorem misuse_of_refusal? {d : Dispatch} {fault : DumpFault} (h : d.refusal? t = some fault) :
    ∃ misuse, fault = .misuse misuse := by
  unfold Dispatch.refusal? at h
  split at h
  · cases h
  · cases h
    exact ⟨_, rfl⟩

theorem misuse_unregistered (t : Target) : ∃ misuse, Dispatch.unregistered t = .misuse misuse := by
  unfold Dispatch.unregistered
  split <;> exact ⟨_, rfl⟩

/-- A call goes on to a point where it has done something. -/
theorem innocent_of_point {q : Point} {es : List Effect} (stands : next.point? = some q)
    (finds : q.Finds s') (late : q.isFirst = false) : Innocent s₀ p s' ⟨next, es⟩ where
  finds r here := by
    obtain rfl : q = r := Option.some.inj (stands.symm.trans here)
    exact finds
  first r here early := by
    obtain rfl : q = r := Option.some.inj (stands.symm.trans here)
    rw [late] at early
    cases early
  misused fault here := by
    have here : next = _ := here
    rw [here] at stands
    cases stands

/-- A call ends otherwise than in misuse. -/
theorem innocent_of_outcome {outcome : Outcome} {es : List Effect}
    (fair : ∀ fault, outcome = .error fault → fault.isDiagnostic = true) :
    Innocent s₀ p s' ⟨.returned outcome, es⟩ where
  finds q here := by cases here
  first q here := by cases here
  misused fault here := by
    cases here
    cases fair _ rfl

/-- A call at one of its first points ends in misuse. -/
theorem Innocent.ends {q : Point} {outcome : Outcome} (ih : Innocent s₀ p s ⟨.ready q, past⟩)
    (early : q.isFirst = true) :
    Innocent s₀ p s ⟨.returned outcome, past ++ ([] ++ [.returned outcome])⟩ where
  finds q here := by cases here
  first q here := by cases here
  misused fault here := by
    obtain ⟨same, only⟩ := ih.first q rfl early
    cases here
    exact ⟨same, congrArg (· ++ _) only⟩

/-- A call goes on from one of its first points to another. -/
theorem Innocent.moves {q r : Point} (ih : Innocent s₀ p s ⟨.ready q, past⟩)
    (early : q.isFirst = true) (finds : r.Finds s) :
    Innocent s₀ p s ⟨.ready r, past ++ ([] ++ [])⟩ where
  finds r' here := by
    cases here
    exact finds
  first _ _ _ := by
    obtain ⟨same, only⟩ := ih.first q rfl early
    exact ⟨same, by simpa using only⟩
  misused fault here := by cases here

theorem RegisterTurn.innocent (h : RegisterTurn s k t c s' next effects)
    (ih : Innocent s₀ p s ⟨c, past⟩) :
    Innocent s₀ p s' ⟨next, past ++ (effects ++ Machine.returns next)⟩ := by
  cases h with
  | wrongState | refused | known => exact ih.ends rfl
  | handled => exact ih.moves rfl trivial
  | unknown =>
      exact innocent_of_point rfl (by cases t.kind <;> trivial) (by cases t.kind <;> rfl)
  | outrun | announce | missed | unprepared =>
      exact innocent_of_outcome (by simp [DumpFault.isDiagnostic])
  | _ => exact innocent_of_point rfl trivial rfl

theorem BeginTurn.innocent (h : BeginTurn s k c s' next effects)
    (ih : Innocent s₀ p s ⟨c, past⟩) :
    Innocent s₀ p s' ⟨next, past ++ (effects ++ Machine.returns next)⟩ := by
  cases h with
  | wrongState | noTargets | outrun => exact ih.ends rfl
  | rightState | someTargets => exact ih.moves rfl trivial
  | started | refused => exact innocent_of_point rfl rfl rfl
  | announce | ask | created | store =>
      have starting := ih.finds _ rfl
      exact innocent_of_point rfl starting rfl
  | failed fault | left fault =>
      have report := ih.finds _ rfl
      exact innocent_of_outcome fun _ same => by
        cases same
        exact report
  | running => exact innocent_of_outcome nofun
  | abandoned wrong => exact absurd (ih.finds _ rfl) wrong
  | reclaimed | taken | askClose | closed => exact (ih.finds _ rfl).elim

theorem ExecuteTurn.innocent (h : ExecuteTurn s k t c s' next effects)
    (ih : Innocent s₀ p s ⟨c, past⟩) :
    Innocent s₀ p s' ⟨next, past ++ (effects ++ Machine.returns next)⟩ := by
  cases h with
  | wrongState | noTransaction | refused | unknown => exact ih.ends rfl
  | rightState | borrowed => exact ih.moves rfl trivial
  | announceStart => exact innocent_of_point rfl (by split <;> trivial) (by split <;> rfl)
  | askClose =>
      have report := ih.finds _ rfl
      exact innocent_of_point rfl report rfl
  | unprepared =>
      exact innocent_of_outcome fun _ same => by
        cases same
        rfl
  | directoryDenied | undumped | rowsFailed | rowsLeft => exact innocent_of_point rfl rfl rfl
  | closed _ _ outcome =>
      have report := ih.finds _ rfl
      exact innocent_of_outcome fun _ same => by
        cases same
        exact report
  | _ => exact innocent_of_point rfl trivial rfl

/-- A commit that finds the session running finds a transaction as well. -/
theorem CommitTurn.innocent (h : CommitTurn s k c s' next effects)
    (stored : s₀.state = .running → s₀.slot ≠ none) (ih : Innocent s₀ p s ⟨c, past⟩) :
    Innocent s₀ p s' ⟨next, past ++ (effects ++ Machine.returns next)⟩ := by
  cases h with
  | outrun => exact ih.ends rfl
  | started right =>
      obtain ⟨rfl, -⟩ := ih.first _ rfl rfl
      exact innocent_of_point rfl ⟨rfl, stored right⟩ rfl
  | borrowed => exact innocent_of_point rfl (ih.finds _ rfl).1 rfl
  | noTransaction empty => exact absurd empty (ih.finds _ rfl).2
  | announce | ask | granted =>
      have committing := ih.finds _ rfl
      exact innocent_of_point rfl committing rfl
  | refused => exact innocent_of_point rfl rfl rfl
  | failed fault | left fault =>
      have report := ih.finds _ rfl
      exact innocent_of_outcome fun _ same => by
        cases same
        exact report
  | settled => exact innocent_of_outcome nofun
  | unsettled wrong => exact absurd (ih.finds _ rfl) wrong

theorem CloseTurn.innocent (h : CloseTurn s k c s' next effects) :
    Innocent s₀ p s' ⟨next, past ++ (effects ++ Machine.returns next)⟩ := by
  cases h with
  | already | ended => exact innocent_of_outcome nofun
  | endedAfter | clientFailed | bothFailed =>
      exact innocent_of_outcome fun _ same => by
        cases same
        rfl
  | _ => exact innocent_of_point rfl trivial rfl

theorem Turn.innocent (h : Turn s k c s' next effects)
    (stored : s₀.state = .running → s₀.slot ≠ none) (ih : Innocent s₀ p s ⟨c, past⟩) :
    Innocent s₀ p s' ⟨next, past ++ (effects ++ Machine.returns next)⟩ := by
  cases h with
  | register t turn => exact turn.innocent ih
  | begin turn => exact turn.innocent ih
  | execute t turn => exact turn.innocent ih
  | commit turn => exact turn.innocent stored ih
  | close turn => exact turn.innocent
  | drop =>
      refine ⟨fun q here => ?_, fun q here => ?_, fun fault here => ?_⟩ <;> cases here

/-- What has failed so far, and counts, is what the call is going to report. -/
def Frank (registers : Bool) (x : Thread) : Prop :=
  (firstFailure? [] (exchangesIn x.past)).map (Exchange.kind registers) = x.call.reported?

/-- What fails in a turn is reported unless something has failed before. -/
theorem Frank.turn (ih : Frank registers ⟨c, past⟩) (known : pendingIn past = c.pending? s)
    (reports : c.reported?.or ((firstFailure? (exchangesIn past)
      (exchangesFrom (c.pending? s) effects)).map (Exchange.kind registers)) = next.reported?) :
    Frank registers ⟨next, past ++ (effects ++ Machine.returns next)⟩ := by
  unfold Frank at ih ⊢
  rw [exchangesIn_turn known, firstFailure?_append, Option.map_or, ih]
  exact reports

theorem RegisterTurn.frank (h : RegisterTurn s k t c s' next effects)
    (known : pendingIn past = c.pending? s) (ih : Frank true ⟨c, past⟩) :
    Frank true ⟨next, past ++ (effects ++ Machine.returns next)⟩ := by
  refine ih.turn known ?_
  cases h with
  | refused fault _ refused =>
      obtain ⟨misuse, rfl⟩ := misuse_of_refusal? refused
      rfl
  | missed ticket fault => cases fault <;> rfl
  | unprepared ticket fault => cases fault <;> rfl
  | unknown => cases t.kind <;> rfl
  | closed ticket statement reply fits => rcases fits with rfl | ⟨fault, rfl⟩ <;> rfl
  | _ => rfl

/-- To close an abandoned transaction is not for a call that is alone. -/
theorem BeginTurn.frank (h : BeginTurn s k c s' next effects)
    (known : pendingIn past = c.pending? s) (ih : Frank false ⟨c, past⟩)
    (finds : ∀ q, c.point? = some q → q.Finds s) :
    Frank false ⟨next, past ++ (effects ++ Machine.returns next)⟩ := by
  refine ih.turn known ?_
  cases h with
  | refused ticket option fault => cases fault <;> rfl
  | failed fault | left fault => cases fault <;> rfl
  | closed => exact (finds _ rfl).elim
  | _ => rfl

theorem ExecuteTurn.frank (h : ExecuteTurn s k t c s' next effects)
    (known : pendingIn past = c.pending? s) (ih : Frank false ⟨c, past⟩) :
    Frank false ⟨next, past ++ (effects ++ Machine.returns next)⟩ := by
  refine ih.turn known ?_
  cases h with
  | refused transaction fault _ refused =>
      obtain ⟨misuse, rfl⟩ := misuse_of_refusal? refused
      rfl
  | unknown =>
      obtain ⟨misuse, same⟩ := misuse_unregistered t
      rw [same]
      rfl
  | announceStart => split <;> rfl
  | askCloseRows | askClose => exact Option.or_none
  | unprepared ticket transaction fault => cases fault <;> rfl
  | undumped ticket transaction statement fault => cases fault <;> rfl
  | fetchFailed ticket statement rows fault => cases fault <;> rfl
  | rowsFailed ticket statement rows fault =>
      have nothing : firstFailure? [] (exchangesIn past) = none := Option.map_eq_none_iff.mp ih
      have counts : ∀ x : Exchange, x.request = .closeRows rows →
          x.isPassedOver (exchangesIn past) = false := fun x asked => by
        rw [Exchange.isPassedOver, asked]
        exact fetched_of_firstFailure? nothing
      have failed : firstFailure? (exchangesIn past)
          [⟨ticket, .closeRows rows, .failed fault⟩] =
            some ⟨ticket, .closeRows rows, .failed fault⟩ := by
        rw [firstFailure?, counts _ rfl]
        rfl
      refine (congrArg (Option.map (Exchange.kind false)) failed).trans ?_
      cases fault <;> rfl
  | closed ticket statement outcome reply fits =>
      rcases fits with rfl | ⟨later, rfl⟩
      · cases outcome with
        | ok => rfl
        | error fault => cases fault <;> rfl
      · cases outcome with
        | ok => rfl
        | error fault => cases fault <;> rfl
  | _ => rfl

theorem CommitTurn.frank (h : CommitTurn s k c s' next effects)
    (known : pendingIn past = c.pending? s) (ih : Frank false ⟨c, past⟩) :
    Frank false ⟨next, past ++ (effects ++ Machine.returns next)⟩ := by
  refine ih.turn known ?_
  cases h with
  | refused ticket transaction fault => cases fault <;> rfl
  | failed fault | left fault => cases fault <;> rfl
  | _ => rfl

/-- The first of two failures is reported. -/
theorem CloseTurn.frank (h : CloseTurn s k c s' next effects)
    (known : pendingIn past = c.pending? s) (ih : Frank false ⟨c, past⟩) :
    Frank false ⟨next, past ++ (effects ++ Machine.returns next)⟩ := by
  refine ih.turn known ?_
  cases h with
  | unreleased ticket transaction fault => cases fault <;> rfl
  | askClient => exact Option.or_none
  | clientFailed ticket fault => cases fault <;> rfl
  | _ => rfl

/-- A call that was made at `p` on the session `s₀`, which it has to itself. -/
structure Alone (s₀ : Session) (p : Point) (s : Session) (x : Thread) : Prop where
  stands : ∀ q, x.call.point? = some q → q.isRegister = p.isRegister
  paired : Paired s x
  innocent : Innocent s₀ p s x
  frank : Frank p.isRegister x

theorem Alone.entry (s : Session) (entry : p.IsEntry) : Alone s p s ⟨.ready p, [.called p]⟩ where
  stands q here := by
    cases here
    rfl
  paired := Paired.entry s p
  innocent := by
    refine ⟨fun q here => ?_, fun q here _ => ⟨rfl, rfl⟩, fun fault here => ?_⟩
    · cases here
      cases entry <;> trivial
    · cases here
  frank := by cases entry <;> rfl

theorem Point.Turns.isRegister {q r : Point} (h : q.Turns s k c s' next effects)
    (goes : next.point? = some r) : r.isRegister = q.isRegister := by
  cases q with
  | register t q => cases h <;> cases goes <;> rfl
  | begin q => cases h <;> cases goes <;> rfl
  | execute t q => cases h <;> cases goes <;> rfl
  | commit q => cases h <;> cases goes <;> rfl
  | close q => cases h <;> cases goes <;> rfl

theorem Alone.turn (h : Turn s k c s' next effects) (kept : effects ≠ [.dropped])
    (stored : s₀.state = .running → s₀.slot ≠ none) (ih : Alone s₀ p s ⟨c, past⟩) :
    Alone s₀ p s' ⟨next, past ++ (effects ++ Machine.returns next)⟩ := by
  obtain ⟨q, live⟩ := h.live
  have stands := ih.stands q live
  have known := ih.paired.known (by rintro rfl; cases live)
  have own := h.own kept live
  refine ⟨fun r goes => (own.isRegister goes).trans stands, (ih.paired.turn h).congr h.setup,
    h.innocent stored ih.innocent, ?_⟩
  have frank := ih.frank
  rw [← stands] at frank ⊢
  cases q with
  | register t q => exact RegisterTurn.frank own known frank
  | begin q => exact BeginTurn.frank own known frank ih.innocent.finds
  | execute t q => exact ExecuteTurn.frank own known frank
  | commit q => exact CommitTurn.frank own known frank
  | close q => exact CloseTurn.frank own known frank

/-- A move that takes the call with the given number further. -/
@[simp] def Move.IsOf (i : Nat) : Move → Prop
  | .act j | .answer j _ => j = i
  | .call _ | .drop _ => False

namespace Machine

variable {settings : TransactionSettings} {dispatch : Dispatch} {m m₀ m' : Machine} {i : Nat}
  {moves : List Move} {outcome : Outcome}

/-- Call `i` is the only one that has done anything since it was made on `m₀`. -/
structure Lone (m₀ : Machine) (p : Point) (i : Nat) (m : Machine) : Prop where
  thread : ∃ x, m.threads[i]? = some x ∧ Alone m₀.session p m.session x
  record : m.record = m₀.record ++ (m.past i).map (Entry.mk i)

theorem Lone.step {move : Move} (h : Lone m₀ p i m) (own : move.IsOf i)
    (stored : m₀.session.state = .running → m₀.session.slot ≠ none)
    (step : m.step? move = some m') : Lone m₀ p i m' := by
  obtain ⟨x, stood, alone⟩ := h.thread
  have moved : ∃ x' effects y, effects ≠ [.dropped] ∧ Moved m i x' effects y m' := by
    cases move with
    | call | drop => exact own.elim
    | act j =>
        obtain rfl : j = i := own
        obtain ⟨_, x', effects, y, -, kept, moved⟩ := act?_moved step
        exact ⟨x', effects, y, kept, moved⟩
    | answer j reply =>
        obtain rfl : j = i := own
        obtain ⟨_, _, x', y, -, moved⟩ := answer?_moved step
        exact ⟨x', _, y, by simp, moved⟩
  obtain ⟨x', effects, y, kept, moved⟩ := moved
  obtain rfl : x = x' := Option.some.inj (stood.symm.trans moved.stood)
  have stands : m'.threads[i]? = some y := by
    rw [moved.threads, List.getElem?_set_self (by simpa using moved.lt)]
  refine ⟨⟨y, stands, ?_⟩, ?_⟩
  · have later := Alone.turn moved.turn kept stored alone
    rwa [← moved.past] at later
  · have grown : m'.past i = m.past i ++ (effects ++ returns y.call) := by
      rw [← past_of_getElem? stands, moved.past, past_of_getElem? stood]
    simp only [moved.record, h.record, grown, List.map_append, List.append_assoc]

theorem Lone.run (h : Lone m₀ p i m) (own : ∀ move ∈ moves, move.IsOf i)
    (stored : m₀.session.state = .running → m₀.session.slot ≠ none)
    (run : m.run? moves = some m') : Lone m₀ p i m' := by
  induction moves generalizing m with
  | nil => exact Option.some.inj run ▸ h
  | cons move moves ih =>
      obtain ⟨next, first, rest⟩ := Option.bind_eq_some_iff.mp run
      obtain ⟨this, others⟩ := List.forall_mem_cons.mp own
      exact ih (h.step this stored first) others rest

/-- What the outcome of call `i`, which was made at `p` on `m`, tells. -/
structure Verdict (p : Point) (i : Nat) (m m' : Machine) (outcome : Outcome) : Prop where
  /-- After misuse everything is as it was before. -/
  misuse : ∀ fault, outcome = .error (.misuse fault) →
    m'.session = m.session ∧ m'.record = m.record ++ [⟨i, .called p⟩, ⟨i, .returned outcome⟩]
  /-- A diagnostic reports a request of the call that failed. -/
  diagnostic : ∀ d, outcome = .error (.diagnostic d) →
    ∃ x, firstFailure? [] (exchangesIn (m'.past i)) = some x ∧ d.kind = x.kind p.isRegister ∧
      ⟨i, .issued x.ticket x.request⟩ ∈ m'.record ∧ ⟨i, .answered x.ticket x.reply⟩ ∈ m'.record
  success : outcome = .ok () → firstFailure? [] (exchangesIn (m'.past i)) = none

/-- Whatever has happened on a session before, and whoever still waits, the outcome of a call that
from then on has the session to itself tells what has happened in the call. -/
theorem Used.verdict (used : Used settings dispatch m) (entry : p.IsEntry)
    (own : ∀ move ∈ moves, move.IsOf m.calls.length) (run : (m.call p).run? moves = some m')
    (ended : m'.outcome? m.calls.length = some outcome) :
    Verdict p m.calls.length m m' outcome := by
  have lone : Lone m p m.calls.length (m.call p) := by
    have stood : (m.call p).threads[m.calls.length]? = some ⟨.ready p, [.called p]⟩ := by
      rw [used.threads_call]
      simp
    refine ⟨⟨_, stood, Alone.entry m.session entry⟩, ?_⟩
    rw [← past_of_getElem? stood]
    rfl
  have stored : m.session.state = .running → m.session.slot ≠ none := fun running =>
    used.filled.active (by rw [running]; rfl)
  obtain ⟨⟨x, stood, alone⟩, record⟩ := lone.run own stored run
  have ends : x.call = .returned outcome :=
    Option.some.inj ((call_of_getElem? stood).symm.trans (outcome?_eq_some.mp ended))
  have frank := alone.frank
  rw [Frank, ends] at frank
  rw [← past_of_getElem? stood] at record
  refine ⟨fun fault failed => ?_, fun d failed => ?_, fun well => ?_⟩
  · subst failed
    obtain ⟨same, only⟩ := alone.innocent.misused fault ends
    exact ⟨same, by rw [record, only]; rfl⟩
  · subst failed
    obtain ⟨e, first, kind⟩ := Option.map_eq_some_iff.mp frank
    have met := mem_of_firstFailure? first
    refine ⟨e, by rwa [← past_of_getElem? stood], kind.symm, ?_, ?_⟩
    · exact mem_past.mp (past_of_getElem? stood ▸ alone.paired.issued e met)
    · exact mem_past.mp (past_of_getElem? stood ▸ alone.paired.answered e met)
  · subst well
    rw [← past_of_getElem? stood]
    exact Option.map_eq_none_iff.mp frank

/-- A session that runs with one table. -/
def runningWithOne : Machine :=
  ((make (.make .standard (.standard ⟨.standard, false⟩))).run?
    [.call (registering (.table "a" ⟨"p/a"⟩)), .act 0, .act 0, .act 0,
      .answer 0 (.metadata (.named "a")), .act 0, .act 0, .call beginning, .act 1, .act 1, .act 1,
      .act 1, .act 1, .answer 1 .done, .act 1, .act 1]).get (by decide +kernel)

theorem used_runningWithOne : Used .standard (.standard ⟨.standard, false⟩) runningWithOne :=
  Used.start.run (by simp) (Option.some_get _).symm

/-- A dump whose rows can neither be fetched nor closed. -/
def failingDump : List Move :=
  [.act 2, .act 2, .act 2, .act 2, .answer 2 .done, .act 2, .act 2, .answer 2 .done, .act 2,
    .answer 2 (.failed (.server "lost")), .act 2, .answer 2 (.failed (.io "down")), .act 2,
    .answer 2 .done]

/-- The fetch is what is reported. -/
theorem verdict_first :
    ∃ m', m'.outcome? 2 = some (.error (.diagnostic (dumpDiagnostic "a" (.server "lost")))) ∧
      Verdict (executing (.table "a" ⟨"p/a"⟩)) 2 runningWithOne m'
        (.error (.diagnostic (dumpDiagnostic "a" (.server "lost")))) := by
  have run :
      ((runningWithOne.call (executing (.table "a" ⟨"p/a"⟩))).run? failingDump).isSome = true := by
    decide +kernel
  have own : ∀ move ∈ failingDump, move.IsOf 2 := by simp [failingDump]
  exact ⟨_, rfl, used_runningWithOne.verdict (.executing _) own (Option.some_get run).symm rfl⟩

end Machine

end DumpFlow.Session
