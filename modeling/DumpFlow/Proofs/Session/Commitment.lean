import DumpFlow.Proofs.Session.Release
import DumpFlow.Proofs.Session.Verdict

/-!
What the outcome of a commit tells about the database. A commit that returns well has committed;
one that has committed returns well unless the session was closed over it, which it then reports.
-/

namespace DumpFlow

namespace Lifecycle

variable {source s goal from_ : Lifecycle} {path : List (Lifecycle × Lifecycle)}

/-- What was left lies behind. -/
theorem Walk.left_lt (h : Walk source path s) : ∀ c ∈ path, c.1.code < s.code := by
  induction h with
  | rest => exact nofun
  | on _ next ih =>
      intro c member
      rcases List.mem_append.mp member with old | new
      · exact Nat.lt_trans (ih c old) next.code_lt
      · rw [List.mem_singleton.mp new]
        exact next.code_lt

/-- A state that was entered was left, unless the walk stands there. -/
theorem Walk.left_of_entered (h : Walk source path s) (entered : (from_, goal) ∈ path) :
    goal = s ∨ ∃ later, (goal, later) ∈ path := by
  induction h with
  | rest => cases entered
  | @on path s last walk next ih =>
      rcases List.mem_append.mp entered with old | new
      · rcases ih old with rfl | ⟨later, left⟩
        · exact .inr ⟨last, List.mem_append_right _ (List.mem_singleton_self _)⟩
        · exact .inr ⟨later, List.mem_append_left _ left⟩
      · cases List.mem_singleton.mp new
        exact .inl rfl

end Lifecycle

namespace Session

/-- By `record` the database has committed the transaction for call `i`. -/
def HasCommitted (record : List Entry) (i : Nat) : Prop :=
  ∃ k transaction status, ⟨i, .issued k (.commit transaction status)⟩ ∈ record ∧
    ⟨i, .answered k .done⟩ ∈ record

/-- By `record` a close has found the session committing. -/
def ClosedOver (record : List Entry) : Prop :=
  ∃ j, ⟨j, .called closing⟩ ∈ record ∧ ⟨j, .changed .committing .closed⟩ ∈ record

/-- How a commit ends over which the session was closed. -/
def closedOver : Outcome :=
  .error (.state (.transition .committing .committed .closed))

/-- What the outcome of commit `i` tells about what stands on record before it. -/
structure TellsTrue (past : List Entry) (i : Nat) (outcome : Outcome) : Prop where
  ok_iff : outcome = .ok () ↔ HasCommitted past i ∧ ¬ ClosedOver past
  closed_over : HasCommitted past i → ClosedOver past → outcome = closedOver

variable {settings : TransactionSettings} {dispatch : Dispatch} {m m' : Machine}
  {s s' : Session} {k i : Nat} {p : CommitPoint} {c next : Call} {past effects : List Effect}
  {record : List Entry} {status : CommitStatus} {x : Thread} {outcome : Outcome}

theorem HasCommitted.append (h : HasCommitted record i) (new : List Entry) :
    HasCommitted (record ++ new) i := by
  obtain ⟨k, transaction, status, asked, granted⟩ := h
  exact ⟨k, transaction, status, List.mem_append_left _ asked, List.mem_append_left _ granted⟩

theorem ClosedOver.append (h : ClosedOver record) (new : List Entry) :
    ClosedOver (record ++ new) := by
  obtain ⟨j, called, closed⟩ := h
  exact ⟨j, List.mem_append_left _ called, List.mem_append_left _ closed⟩

theorem CloseTrail.called (h : CloseTrail c past) : .called closing ∈ past := by
  induction h with
  | dropped _ ih => exact List.mem_append_left _ ih
  | _ => simp [closingPast]

/-- A commit has no further to go than to its outcome once the database has committed. -/
theorem CommitTrail.of_granted (h : CommitTrail status c past)
    (granted : .answered k .done ∈ past) :
    c = .dropped ∨ c = .ready (.commit .settle) ∨ ∃ outcome, c = .returned outcome := by
  induction h with
  | settle => exact .inr (.inl rfl)
  | settled | unsettled => exact .inr (.inr ⟨_, rfl⟩)
  | dropped => exact .inl rfl
  | failed | left => exact .inr (.inr ⟨_, rfl⟩)
  | _ => simp [grantingPast, committingPast] at granted

theorem CommitTrail.not_granted (h : CommitTrail status (.ready (.commit p)) past)
    (unsettled : p ≠ .settle) : .answered k .done ∉ past := by
  intro granted
  rcases h.of_granted granted with gone | same | ⟨outcome, ended⟩
  · cases gone
  · cases same
    exact unsettled rfl
  · cases ended

theorem Turn.of_commit (h : Turn s k c s' next effects) (trail : CommitTrail status c past) :
    CommitTurn s k c s' next effects ∨ next = .dropped := by
  cases h with
  | register t turn =>
      obtain ⟨p, stands⟩ := turn.point
      cases (trail.point stands).choose_spec
  | begin turn =>
      obtain ⟨p, stands⟩ := turn.point
      cases (trail.point stands).choose_spec
  | execute t turn =>
      obtain ⟨p, stands⟩ := turn.point
      cases (trail.point stands).choose_spec
  | commit turn => exact .inl turn
  | close turn =>
      obtain ⟨p, stands⟩ := turn.point
      cases (trail.point stands).choose_spec
  | drop => exact .inr rfl

/-- A commit returns without the database having committed, or when it settles. -/
theorem CommitTurn.returning (h : CommitTurn s k c s' (.returned outcome) effects)
    (trail : CommitTrail status c past) :
    (outcome ≠ .ok () ∧ ∀ ticket, .answered ticket .done ∉ past ++ effects) ∨
      c = .ready (.commit .settle) ∧
        (s.state = .committing ∧ outcome = .ok () ∧ effects = [.changed .committing .committed] ∨
          s.state ≠ .committing ∧
            outcome = .error (.state (.transition .committing .committed s.state))) := by
  generalize ends : Call.returned outcome = n at h
  cases h with
  | outrun =>
      cases ends
      exact .inl ⟨nofun, fun ticket => by simpa using trail.not_granted nofun⟩
  | failed | left =>
      cases ends
      exact .inl ⟨nofun, fun ticket => by simpa using trail.not_granted nofun⟩
  | settled right =>
      cases ends
      exact .inr ⟨rfl, .inl ⟨right, rfl, rfl⟩⟩
  | unsettled left =>
      cases ends
      exact .inr ⟨rfl, .inr ⟨left, rfl⟩⟩
  | _ => cases ends

theorem Trail.of_settle (h : Trail status (.ready (.commit .settle)) past) :
    ∃ k transaction, past = grantingPast k transaction status ++ [.answered k .done] := by
  cases h with
  | aside apart => cases apart _ rfl
  | begin trail => cases trail
  | commit trail => cases trail with | settle k transaction => exact ⟨k, transaction, rfl⟩
  | close trail => cases trail

/-- Only a commit that has found the session running takes it out of the commit. -/
theorem CommitTrail.entered (h : CommitTrail status c past) {goal : Lifecycle}
    (left : .changed .committing goal ∈ past) : .changed .running .committing ∈ past := by
  induction h with
  | start | outrun => simp at left
  | dropped _ ih => exact List.mem_append_left _ (ih (by simpa using left))
  | failed _ trail _ => cases trail <;> simp [grantingPast, committingPast]
  | left _ trail _ => cases trail <;> simp [grantingPast, committingPast]
  | _ => simp [grantingPast, committingPast]

namespace Machine

theorem Used.commit_trail (h : Used settings dispatch m)
    (called : ⟨i, .called committing⟩ ∈ m.record) :
    ∃ x, m.threads[i]? = some x ∧ CommitTrail settings.commitStatus x.call x.past := by
  obtain ⟨x, stood, member⟩ := h.exists_thread (mem_past.mpr called)
  exact ⟨x, stood, (h.trail x (List.mem_of_getElem? stood)).commit_of_mem member rfl⟩

theorem mem_record_of_thread {e : Effect} (stood : m.threads[i]? = some x) (member : e ∈ x.past) :
    ⟨i, e⟩ ∈ m.record :=
  mem_past.mp (past_of_getElem? stood ▸ member)

/-- While a commit waits to settle, no commit has taken the session out of the commit. -/
theorem Used.unsettled (h : Used settings dispatch m) (stood : m.threads[i]? = some x)
    (stands : x.call = .ready (.commit .settle)) {y : Thread} {j : Nat} {goal : Lifecycle}
    (stood' : m.threads[j]? = some y) (left : .changed .committing goal ∈ y.past) :
    ¬ CommitTrail settings.commitStatus y.call y.past := by
  intro trail'
  have trail := h.trail x (List.mem_of_getElem? stood)
  rw [stands] at trail
  obtain ⟨k, transaction, past⟩ := trail.of_settle
  have entered : .changed .running .committing ∈ x.past := by
    simp [past, grantingPast, committingPast]
  obtain rfl : i = j := thread_unique (h.enters_once .committing) stood stood' entered
    (trail'.entered left) rfl rfl
  obtain rfl : x = y := Option.some.inj (stood.symm.trans stood')
  simp [past, grantingPast, committingPast] at left

/-- A commit that the database has granted finds the session committing still, unless a close has
come between. -/
theorem Used.closed_over (h : Used settings dispatch m) (stood : m.threads[i]? = some x)
    (stands : x.call = .ready (.commit .settle)) (left : m.session.state ≠ .committing) :
    m.session.state = .closed ∧ ClosedOver m.record := by
  have member := List.mem_of_getElem? stood
  have allowed := h.allows x member (.commit .settle) (by rw [stands]; rfl)
  have closed := (allowed.owned .committing rfl).resolve_left left
  have trail := h.trail x member
  rw [stands] at trail
  obtain ⟨source, entered⟩ := trail.owned (p := .commit .settle) rfl rfl
  have walked := mem_changesIn.mpr (mem_effects_of_thread stood entered)
  obtain ⟨later, gone⟩ := (h.walk.left_of_entered walked).resolve_left (Ne.symm left)
  obtain ⟨j, change⟩ := mem_effects_iff.mp (mem_changesIn.mp gone)
  obtain ⟨y, stood', change⟩ := h.exists_thread change
  have trail' := h.trail y (List.mem_of_getElem? stood')
  cases h.walk.next _ gone with
  | settle | failCommitting =>
      exact absurd (trail'.commit_of_mem change rfl) (h.unsettled stood stands stood' change)
  | close =>
      have called := (trail'.close_of_mem change rfl).called
      exact ⟨closed, j, mem_record_of_thread stood' called, mem_record_of_thread stood' change⟩

/-- While the session is committing nobody has closed it over the commit. -/
theorem Used.not_closed_over (h : Used settings dispatch m)
    (right : m.session.state = .committing) : ¬ ClosedOver m.record := by
  rintro ⟨j, -, closed⟩
  have change : (.committing, .closed) ∈ changesIn m.effects :=
    mem_changesIn.mpr (mem_effects_iff.mpr ⟨j, mem_past.mpr closed⟩)
  have behind := h.walk.left_lt _ change
  rw [right] at behind
  exact Nat.lt_irrefl _ behind

theorem granted_of_committed (h : HasCommitted (m.record ++ effects.map (Entry.mk i)) i)
    (stood : m.threads[i]? = some x) : ∃ ticket, .answered ticket .done ∈ x.past ++ effects := by
  obtain ⟨ticket, -, -, -, granted⟩ := h
  refine ⟨ticket, ?_⟩
  rw [past_of_getElem? stood]
  simpa [mem_past] using granted

theorem Used.committed_of_settle (h : Used settings dispatch m) (stood : m.threads[i]? = some x)
    (stands : x.call = .ready (.commit .settle)) : HasCommitted m.record i := by
  have trail := h.trail x (List.mem_of_getElem? stood)
  rw [stands] at trail
  obtain ⟨k, transaction, past⟩ := trail.of_settle
  exact ⟨k, transaction, settings.commitStatus,
    mem_record_of_thread stood (by simp [past, grantingPast]),
    mem_record_of_thread stood (by simp [past])⟩

theorem Moved.tells_true {y : Thread} (moved : Moved m i x effects y m')
    (used : Used settings dispatch m) (trail : CommitTrail settings.commitStatus x.call x.past)
    (ends : y.call = .returned outcome) :
    TellsTrue (m.record ++ effects.map (Entry.mk i)) i outcome := by
  have turn := moved.turn
  rw [ends] at turn
  have turn := (turn.of_commit trail).resolve_right nofun
  rcases turn.returning trail with ⟨failed, ungranted⟩ | ⟨stands, ⟨right, rfl, rfl⟩ | ⟨left, rfl⟩⟩
  · have uncommitted : ¬ HasCommitted (m.record ++ effects.map (Entry.mk i)) i := by
      intro committed
      obtain ⟨ticket, granted⟩ := granted_of_committed committed moved.stood
      exact ungranted ticket granted
    exact ⟨iff_of_false failed fun well => uncommitted well.1, fun committed =>
      absurd committed uncommitted⟩
  · have committed := used.committed_of_settle moved.stood stands
    have open_ : ¬ ClosedOver (m.record ++ [⟨i, .changed .committing .committed⟩]) := by
      rintro ⟨j, called, closed⟩
      exact used.not_closed_over right ⟨j, by simpa using called, by simpa using closed⟩
    exact ⟨iff_of_true rfl ⟨committed.append _, open_⟩, fun _ closed => absurd closed open_⟩
  · obtain ⟨closed, ended⟩ := used.closed_over moved.stood stands left
    rw [closed]
    exact ⟨iff_of_false nofun fun well => well.2 (ended.append _), fun _ _ => rfl⟩

/-- What a commit returns is on record, after what it tells of. -/
theorem Used.tells (h : Used settings dispatch m) (stood : m.threads[i]? = some x)
    (called : .called committing ∈ x.past) (ends : x.call = .returned outcome) :
    ∃ past rest, m.record = past ++ ⟨i, .returned outcome⟩ :: rest ∧ TellsTrue past i outcome := by
  refine h.keep (P := fun m => ∀ (i : Nat) (x : Thread) (outcome : Outcome),
    m.threads[i]? = some x → .called committing ∈ x.past → x.call = .returned outcome →
      ∃ past rest, m.record = past ++ ⟨i, .returned outcome⟩ :: rest ∧ TellsTrue past i outcome)
    ?_ ?_ ?_ i x outcome stood called ends
  · simp [threads, make]
  · intro m p used _ ih i x outcome stood called ends
    rw [used.threads_call, List.getElem?_append] at stood
    split at stood
    · obtain ⟨past, rest, split, tells⟩ := ih i x outcome stood called ends
      exact ⟨past, rest ++ [⟨m.calls.length, .called p⟩], by simp [call, split], tells⟩
    · obtain rfl := List.mem_singleton.mp (List.mem_of_getElem? stood)
      cases ends
  · intro m i x effects y m' used _ moved ih j z outcome stood called ends
    rcases moved.cases stood with ⟨rfl, rfl⟩ | ⟨-, stood⟩
    · rw [moved.past] at called
      have called := (List.mem_append.mp called).resolve_right moved.turn.not_called
      have trail := (used.trail x moved.mem).commit_of_mem called rfl
      exact ⟨_, [], by simp [moved.record, ends, returns], moved.tells_true used trail ends⟩
    · obtain ⟨past, rest, split, tells⟩ := ih j z outcome stood called ends
      exact ⟨past, rest ++ (effects ++ returns y.call).map (Entry.mk i),
        by simp [moved.record, split], tells⟩

/-- What became of commit `i`. -/
structure CommitTruth (m : Machine) (i : Nat) : Prop where
  /-- It has told the truth when it returned. -/
  tells : ∀ outcome, m.outcome? i = some outcome → ∃ past rest,
    m.record = past ++ ⟨i, .returned outcome⟩ :: rest ∧ TellsTrue past i outcome
  /-- Once the database has committed, it is given up, has returned, or returns in its next turn. -/
  settles : HasCommitted m.record i → m.calls[i]? = some .dropped ∨ (m.outcome? i).isSome = true ∨
    ∃ m', m.act? i = some m' ∧ (m'.outcome? i).isSome = true

theorem settles_of_settle (stands : m.calls[i]? = some (.ready (.commit .settle))) :
    ∃ m', m.act? i = some m' ∧ (m'.outcome? i).isSome = true := by
  have inside := (List.getElem?_eq_some_iff.mp stands).1
  simp only [act?, stands, act, actCommit, transition]
  split
  · exact ⟨_, rfl, by simp [perform, put, outcome?, Call.done, inside]⟩
  · exact ⟨_, rfl, by simp [perform, put, outcome?, Call.misuse, Call.fault, inside]⟩

theorem Used.commit_truth (h : Used settings dispatch m)
    (called : ⟨i, .called committing⟩ ∈ m.record) : CommitTruth m i where
  tells outcome ended := by
    obtain ⟨x, stood, member⟩ := h.exists_thread (mem_past.mpr called)
    exact h.tells stood member (call_of_outcome? stood ended)
  settles committed := by
    obtain ⟨x, stood, trail⟩ := h.commit_trail called
    have committed : HasCommitted (m.record ++ [].map (Entry.mk i)) i := by simpa using committed
    obtain ⟨ticket, granted⟩ := granted_of_committed committed stood
    have call := call_of_getElem? stood
    rcases trail.of_granted (by simpa using granted) with gone | stands | ⟨outcome, ended⟩
    · exact .inl (gone ▸ call)
    · exact .inr (.inr (settles_of_settle (stands ▸ call)))
    · exact .inr (.inl (by rw [outcome?_eq_some.mpr (ended ▸ call)]; rfl))

/-- A close that is made during a commit, and finds it settled. -/
theorem commit_truth_settled :
    ∃ m, Used .standard (.standard ⟨.standard, false⟩) m ∧
      ⟨2, .called committing⟩ ∈ m.record ∧ HasCommitted m.record 2 ∧
      m.outcome? 2 = some (.ok ()) ∧ m.session.state = .closed ∧ CommitTruth m 2 := by
  have run : (runningWithOne.run? [.call committing, .act 2, .act 2, .act 2, .act 2, .call closing,
      .answer 2 .done, .act 2, .act 3]).isSome = true := by decide +kernel
  have used : Used .standard (.standard ⟨.standard, false⟩) _ :=
    used_runningWithOne.run (by simp) (Option.some_get run).symm
  have called : ⟨2, .called committing⟩ ∈ (Option.get _ run).record :=
    List.mem_of_getElem? (i := 12) rfl
  exact ⟨_, used, called, ⟨2, ⟨1⟩, .stored, List.mem_of_getElem? (i := 15) rfl,
    List.mem_of_getElem? (i := 17) rfl⟩, rfl, rfl, used.commit_truth called⟩

/-- A session over one table that is closed while its commit waits for the database, which then
grants it. -/
def closedWhileCommitting : Machine :=
  (runningWithOne.run? [.call committing, .act 2, .act 2, .act 2, .act 2, .call closing, .act 3,
    .answer 2 .done, .act 2]).get (by decide +kernel)

theorem used_closedWhileCommitting :
    Used .standard (.standard ⟨.standard, false⟩) closedWhileCommitting :=
  used_runningWithOne.run (by simp) (Option.some_get _).symm

/-- The database has committed, and the commit does not return well. -/
theorem committed_yet_refused :
    Used .standard (.standard ⟨.standard, false⟩) closedWhileCommitting ∧
      ⟨2, .called committing⟩ ∈ closedWhileCommitting.record ∧
      HasCommitted closedWhileCommitting.record 2 ∧
      ∃ outcome, closedWhileCommitting.outcome? 2 = some outcome ∧ outcome ≠ .ok () :=
  ⟨used_closedWhileCommitting, List.mem_of_getElem? (i := 12) rfl,
    ⟨2, ⟨1⟩, .stored, List.mem_of_getElem? (i := 15) rfl, List.mem_of_getElem? (i := 18) rfl⟩,
    closedOver, rfl, nofun⟩

end Machine

end Session

end DumpFlow
