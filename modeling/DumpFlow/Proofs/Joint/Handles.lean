import DumpFlow.Proofs.Engine.Stopping
import DumpFlow.Proofs.Joint.Linked
import DumpFlow.Proofs.Session.Handles

/-!
What is left open in the database when a run has returned. A call that has returned has closed all
that it was given, so only jobs that the engine has given up can leave something behind: those that
wait in a dump, for any of its requests but the last.
-/

namespace DumpFlow

namespace Joint

open Session (Machine Thread Effect Accounted pendingIn closing? executing)
open Session.Machine (Used Moved)

variable {settings : TransactionSettings} {dispatch : Dispatch} {config : EngineConfig}
  {targets : List Target} {j j' : Joint} {move : Move} {ending : Ending} {n : Nat}
  {c : Session.Call} {q : Request} {x : Thread}

theorem isAbandoned_iff : j.isAbandoned n = true ↔ ∃ job, j.droppedCall? job = some n := by
  simp only [isAbandoned, List.any_eq_true, List.mem_range, beq_iff_eq]
  constructor
  · rintro ⟨job, -, dropped⟩
    exact ⟨job, dropped⟩
  · rintro ⟨job, dropped⟩
    refine ⟨job, ?_, dropped⟩
    simp only [droppedCall?] at dropped
    split at dropped
    · rename_i call gone
      exact (List.getElem?_eq_some_iff.mp gone).1
    · cases dropped

/-- Once the engine has returned, a call has too, or belongs to a job that was given up. -/
theorem Linked.returned_or_abandoned (h : Linked settings dispatch config targets j)
    (returned : j.engine.stage = .returned ending) (stood : j.machine.calls[n]? = some c) :
    (∃ outcome, c = .returned outcome) ∨ j.isAbandoned n = true := by
  have small : n < j.engine.calls := h.length ▸ (List.getElem?_eq_some_iff.mp stood).1
  have known := h.engine.booked.ledger.mem_iff.mpr (List.mem_range.mpr small)
  rcases List.mem_append.mp known with waits | ended
  · rw [Engine.openCalls, returned] at waits
    obtain ⟨job, member, calls⟩ := List.mem_filterMap.mp waits
    obtain ⟨i, here⟩ := List.getElem?_of_mem member
    cases job with
    | running call => exact absurd here (h.engine.at_rest returned).not_running
    | dropped call =>
        obtain rfl : call = some n := calls
        refine .inr (isAbandoned_iff.mpr ⟨i, ?_⟩)
        rw [droppedCall?, here, h.numbered]
        exact List.getElem?_range small
    | queued | ended _ | joined => cases calls
  · obtain ⟨⟨number, ending'⟩, member, same⟩ := List.mem_map.mp ended
    obtain rfl : number = n := same
    obtain ⟨outcome, -, back⟩ := h.ended number ending' (Engine.mem_endedIn.mp member)
    exact .inl ⟨outcome, Option.some.inj (stood.symm.trans back)⟩

/-- Only calls that wait for an answer are dropped. -/
theorem waits_of_drop {job : Nat} {y : Thread} {effects : List Effect} {m : Machine}
    (step : j.step? (.drop job) = some j') (dropped : j.droppedCall? job = some n)
    (moved : Moved j.machine n x effects y m) : x.call.isWaiting = true := by
  obtain ⟨call, gone, step⟩ := Option.bind_eq_some_iff.mp step
  obtain rfl := Option.some.inj (dropped.symm.trans gone)
  split at step
  · rename_i stood
    rw [Option.some.inj ((Session.Machine.call_of_getElem? moved.stood).symm.trans stood)]
    rfl
  · cases step

/-- A call that was dropped had asked for something and not been answered. -/
theorem Reachable.unanswered (h : Reachable (.make (.make settings dispatch)) config targets j) :
    ∀ x ∈ j.machine.threads, x.call = .dropped → pendingIn x.past ≠ none := by
  induction h with
  | start =>
      intro x member
      rw [start_eq] at member
      cases member
  | @step j j' move before step ih =>
      intro z member dropped
      rcases before.linked.step?_cases step with ⟨engineMove, e, moves, answered, rfl⟩ |
        ⟨n, m, x, effects, y, used, moved, rfl, way⟩
      · rcases Engine.step?_record moves with ⟨what, record, -, -⟩ | ⟨new, record, silent, -⟩
        · rw [withEngine_issued record, before.linked.machine.threads_call] at member
          rcases List.mem_append.mp member with old | new
          · exact ih z old dropped
          · rw [List.mem_singleton.mp new] at dropped
            cases dropped
        · rw [withEngine_silent record silent] at member
          exact ih z member dropped
      · obtain ⟨i, stood⟩ := List.getElem?_of_mem member
        rcases moved.cases stood with ⟨rfl, rfl⟩ | ⟨-, stood⟩
        · have turn := moved.turn
          rw [dropped] at turn
          obtain ⟨-, gone⟩ := turn.of_dropped
          rcases way with ⟨p, -, -, kept⟩ | ⟨p, ticket, reply, -, -, heard⟩ | ⟨job, rfl, given⟩
          · exact absurd gone kept
          · cases gone.symm.trans heard
          · have waits := waits_of_drop step given moved
            have paired := before.linked.machine.paired x moved.mem
            have asked := paired.known (by intro gone'; rw [gone'] at waits; cases waits)
            rw [moved.past, dropped, gone]
            show pendingIn (x.past ++ [.dropped]) ≠ none
            rw [Session.pendingIn_append, asked]
            exact paired.waits waits
        · exact ih z (List.mem_of_getElem? stood) dropped

/-- What has become of the statements and row sets that were opened in a run by the time it has
returned. -/
structure HandlesClosed (ending : Ending) (j : Joint) : Prop where
  once : ∀ q k, q.closes? = some k → j.machine.effects.countP (Effect.makes q) ≤ 1
  closed : ∀ i k r q, ⟨i, .issued k r⟩ ∈ j.machine.record →
    ⟨i, .answered k .done⟩ ∈ j.machine.record → closing? k r = some q →
    j.isAbandoned i = false → j.machine.effects.countP (Effect.makes q) = 1
  /-- What a job that was given up leaves open it leaves open in a dump, when it has come to a
  request that strands it. -/
  stranded : ∀ i k r q, ⟨i, .issued k r⟩ ∈ j.machine.record →
    ⟨i, .answered k .done⟩ ∈ j.machine.record → closing? k r = some q →
    j.isAbandoned i = true → (∀ p, j.machine.calls[i]? ≠ some (.ready p)) →
    j.machine.effects.countP (Effect.makes q) = 1 ∨
      j.machine.effects.countP (Effect.makes q) = 0 ∧
      (∃ t, ⟨i, .called (executing t)⟩ ∈ j.machine.record) ∧
      ∃ k' r', pendingIn (j.machine.past i) = some (k', r') ∧ r'.strands q = true
  /-- Jobs are given up only after another one has failed. -/
  abandoned : ∀ i, j.isAbandoned i = true →
    ∃ fault, ending = .returned (.error fault) ∧ .stopped fault ∈ j.engine.record
  /-- A begin or a commit that failed was the last call of its run, and no job is given up. -/
  unbroken : ∀ call what cause, what = .begin ∨ what = .commit →
    .issued call what ∈ j.engine.record → .ended call cause ∈ j.engine.record →
    cause ≠ .success →
      (∀ fault, .stopped fault ∉ j.engine.record) ∧ ∀ i, j.isAbandoned i = false

/-- What a call that was not given up has opened is closed once the run has returned. -/
theorem Linked.closed_of_kept (h : Linked settings dispatch config targets j)
    (returned : j.engine.stage = .returned ending) {k : Nat} {r q : Request}
    (issued : ⟨n, .issued k r⟩ ∈ j.machine.record)
    (answered : ⟨n, .answered k .done⟩ ∈ j.machine.record) (due : closing? k r = some q)
    (kept : j.isAbandoned n = false) : j.machine.effects.countP (Effect.makes q) = 1 := by
  have used := h.machine
  obtain ⟨x, stood, opened⟩ := used.opened issued answered due
  obtain ⟨c, accounted⟩ := used.accounted x (List.mem_of_getElem? stood)
  have balance := used.closed_or_owed stood accounted opened
  rcases h.returned_or_abandoned returned (Session.Machine.call_of_getElem? stood) with
    ⟨outcome, back⟩ | gone
  · obtain rfl : .returned outcome = c :=
      back ▸ accounted.stands.resolve_right (by rw [back]; exact nofun)
    simpa [Session.Call.owes] using balance
  · rw [kept] at gone
    cases gone

/-- A call that has come to rest and owes something stands in a dump, at a request that strands
it. -/
theorem Reachable.strands_of_owes (h : Reachable (.make (.make settings dispatch)) config targets j)
    (stood : j.machine.threads[n]? = some x) (rest : ∀ p, j.machine.calls[n]? ≠ some (.ready p))
    (accounted : Accounted (.make settings dispatch) x c) (owed : q ∈ c.owes) :
    (∃ t, ⟨n, .called (executing t)⟩ ∈ j.machine.record) ∧
      ∃ k r, pendingIn (j.machine.past n) = some (k, r) ∧ r.strands q = true := by
  have waits : ∃ p ticket, c = .waiting p ticket := by
    cases c with
    | waiting p ticket => exact ⟨p, ticket, rfl⟩
    | ready p =>
        rcases accounted.stands with here | dropped
        · exact absurd (here ▸ Session.Machine.call_of_getElem? stood) (rest p)
        · exact absurd accounted.open_ (h.unanswered x (List.mem_of_getElem? stood) dropped)
    | returned | dropped => cases owed
  obtain ⟨p, ticket, rfl⟩ := waits
  obtain ⟨⟨t, e, rfl⟩, r, asked, strands⟩ := Session.strands_of_owes
    (s := .make settings dispatch) owed
  rw [← Session.Machine.past_of_getElem? stood]
  refine ⟨⟨t, ?_⟩, ticket, r, ?_, strands⟩
  · exact Session.Machine.mem_past.mp
      (Session.Machine.past_of_getElem? stood ▸ accounted.dumps t e rfl)
  · rw [accounted.open_, Session.Call.pending?, asked]
    rfl

/-- Jobs are given up by an engine that returns what another job has failed with. -/
theorem Linked.failed_of_abandoned (h : Linked settings dispatch config targets j)
    (returned : j.engine.stage = .returned ending) (gone : j.isAbandoned n = true) :
    ∃ fault, ending = .returned (.error fault) ∧ .stopped fault ∈ j.engine.record := by
  obtain ⟨job, dropped⟩ := isAbandoned_iff.mp gone
  cases h.engine.at_rest returned with
  | joined all _ =>
      simp only [droppedCall?] at dropped
      split at dropped
      · rename_i here
        cases all _ (List.mem_of_getElem? here)
      · cases dropped
  | cleared fault stopped => exact ⟨fault, rfl, stopped⟩

/-- Behind a call between the phases that failed, an engine returns before any stop. -/
theorem Linked.not_stopped_of_failed (h : Linked settings dispatch config targets j)
    (returned : j.engine.stage = .returned ending) {what : SessionCall} {cause : Ending}
    (follows : what = .begin ∨ what = .commit) (issued : .issued n what ∈ j.engine.record)
    (ended : .ended n cause ∈ j.engine.record) (failed : cause ≠ .success) :
    ∀ fault, .stopped fault ∉ j.engine.record := by
  cases h.engine.at_rest returned with
  | joined _ never => exact never
  | cleared fault _ passed _ =>
      rcases passed n what follows issued with waits | well
      · rw [returned] at waits
        cases waits
      · exact absurd (h.engine.booked.ending_unique ended well) failed

theorem Reachable.handles_closed
    (h : Reachable (.make (.make settings dispatch)) config targets j)
    (returned : j.engine.stage = .returned ending) : HandlesClosed ending j := by
  have linked := h.linked
  have used := linked.machine
  refine ⟨fun q k closes => used.closes_once closes, ?_, ?_, ?_, ?_⟩
  · exact fun i k r q issued answered due kept =>
      linked.closed_of_kept returned issued answered due kept
  · intro i k r q issued answered due _ rest
    obtain ⟨x, stood, opened⟩ := used.opened issued answered due
    obtain ⟨c, accounted⟩ := used.accounted x (List.mem_of_getElem? stood)
    have balance := used.closed_or_owed stood accounted opened
    by_cases owed : q ∈ c.owes
    · have some_owed : 0 < c.owes.count q := List.count_pos_iff.mpr owed
      exact .inr ⟨by omega, h.strands_of_owes stood rest accounted owed⟩
    · rw [List.count_eq_zero.mpr owed] at balance
      exact .inl balance
  · exact fun i gone => linked.failed_of_abandoned returned gone
  · intro call what cause follows issued ended failed
    have never := linked.not_stopped_of_failed returned follows issued ended failed
    refine ⟨never, fun i => Bool.eq_false_iff.mpr fun gone => ?_⟩
    obtain ⟨fault, -, stopped⟩ := linked.failed_of_abandoned returned gone
    exact never fault stopped

theorem Reachable.run {m : Machine} {moves : List Move} (h : Reachable m config targets j)
    (run : j.run? moves = some j') : Reachable m config targets j' := by
  induction moves generalizing j with
  | nil => exact Option.some.inj run ▸ h
  | cons move moves ih =>
      obtain ⟨next, first, rest⟩ := Option.bind_eq_some_iff.mp run
      exact ih (h.step move first) rest

/-- Two tables for two workers on a session that nobody has used. -/
def twoTables : Joint :=
  start (.make (.make .standard (.standard ⟨.standard, false⟩))) ⟨2⟩
    [.table "a" ⟨"p/a"⟩, .table "b" ⟨"p/b"⟩]

/-- Both tables are registered, and both dumps come to ask for their rows. -/
def bothDumping : List Move :=
  [.start 0, .act 0, .act 0, .act 0, .answer 0 (.metadata (.named "a")), .act 0, .act 0, .finish 0,
    .join 0, .start 1, .act 1, .act 1, .act 1, .answer 1 (.metadata (.named "b")), .act 1, .act 1,
    .finish 1, .join 1, .proceed, .act 2, .act 2, .act 2, .act 2, .act 2, .answer 2 .done, .act 2,
    .act 2, .settle, .start 0, .act 3, .act 3, .act 3, .act 3, .answer 3 .done, .act 3, .act 3,
    .start 1, .act 4, .act 4, .act 4, .act 4, .answer 4 .done, .act 4, .act 4]

/-- The first dump waits for a row while the second one fails, and is given up. -/
def abandoning : List Move :=
  bothDumping ++ [.answer 3 .done, .act 3, .answer 4 (.failed (.server "lost")), .act 4,
    .answer 4 .done, .finish 1, .join 1, .clear, .drop 0]

def abandonedRun : Joint :=
  (twoTables.run? abandoning).get (by decide +kernel)

theorem reachable_abandonedRun :
    Reachable (.make (.make .standard (.standard ⟨.standard, false⟩))) ⟨2⟩
      [.table "a" ⟨"p/a"⟩, .table "b" ⟨"p/b"⟩] abandonedRun :=
  Reachable.start.run (j := twoTables) (Option.some_get _).symm

theorem handles_closed_abandoned :
    ∃ ending, abandonedRun.engine.stage = .returned ending ∧
      abandonedRun.isAbandoned 3 = true ∧ HandlesClosed ending abandonedRun :=
  ⟨_, rfl, rfl, reachable_abandonedRun.handles_closed rfl⟩

/-- The run has returned and come to rest, with a statement and a row set of which nobody has asked
that they be closed. -/
theorem left_open_abandoned :
    ∃ j ending, Reachable (.make (.make .standard (.standard ⟨.standard, false⟩))) ⟨2⟩
        [.table "a" ⟨"p/a"⟩, .table "b" ⟨"p/b"⟩] j ∧
      j.engine.stage = .returned ending ∧ j.machine.isQuiet = true ∧
      (∃ text, ⟨3, .issued 3 (.prepare text)⟩ ∈ j.machine.record ∧
        ⟨3, .answered 3 .done⟩ ∈ j.machine.record ∧
        j.machine.effects.countP (Effect.makes (.closeStatement ⟨3, text⟩)) = 0) ∧
      (∃ q, ⟨3, .issued 4 q⟩ ∈ j.machine.record ∧ closing? 4 q = some (.closeRows ⟨4⟩) ∧
        ⟨3, .answered 4 .done⟩ ∈ j.machine.record ∧
        j.machine.effects.countP (Effect.makes (.closeRows ⟨4⟩)) = 0) := by
  have prepares : abandonedRun.machine.record[18]? =
    some ⟨3, .issued 3 (.prepare (Identifier.selectAll "a"))⟩ := rfl
  have prepared : abandonedRun.machine.record[19]? = some ⟨3, .answered 3 .done⟩ := rfl
  have dumps : abandonedRun.machine.record[21]? = some ⟨3, .issued 4
    (.dump ⟨2⟩ ⟨3, Identifier.selectAll "a"⟩ ⟨"p/a"⟩ .standard)⟩ := rfl
  have dumped : abandonedRun.machine.record[27]? = some ⟨3, .answered 4 .done⟩ := rfl
  exact ⟨abandonedRun, _, reachable_abandonedRun, rfl, rfl,
    ⟨_, List.mem_of_getElem? prepares, List.mem_of_getElem? prepared, rfl⟩,
    ⟨_, List.mem_of_getElem? dumps, rfl, List.mem_of_getElem? dumped, rfl⟩⟩

end Joint

end DumpFlow
