import DumpFlow.Proofs.Joint.Sound

/-!
A run on a database that never fails ends. Each move leaves something behind of which there is only
so much, and as long as the engine has not returned some move is possible.
-/

namespace DumpFlow

open scoped List

open Session (Thread)

namespace Session.Machine

/-- A call by its number, with what it has done. -/
def thread (m : Machine) (n : Nat) : Thread :=
  ⟨m.calls[n]?.getD .dropped, m.past n⟩

theorem thread_eq {m : Machine} {n : Nat} {x : Thread} (stood : m.threads[n]? = some x) :
    m.thread n = x := by
  obtain ⟨c, call, rfl⟩ := Option.map_eq_some_iff.mp (getElem?_threads m n ▸ stood)
  simp [thread, call]

theorem threads_eq (m : Machine) : m.threads = (List.range m.calls.length).map m.thread := by
  apply List.ext_getElem?
  intro n
  rw [getElem?_threads, List.getElem?_map]
  by_cases inside : n < m.calls.length
  · simp [thread, inside]
  · simp [inside]

end Session.Machine

namespace Plan

def files (P : Plan) (t : Target) : List String :=
  P.client.files (Dispatch.statementOf t) t.destination P.output.profile

def limit (P : Plan) : SessionCall → Nat
  | .register _ | .begin | .commit => 12
  | .execute t => 21 + 3 * (P.files t).length

/-- The most moves that a run makes. -/
def bound (P : Plan) : Nat :=
  26 + (P.targets.map fun t => 37 + 3 * (P.files t).length).sum

/-- How far a run has come. -/
def pace (j : Joint) : Nat :=
  j.engine.clock + (j.machine.threads.map Thread.pace).sum

variable {P : Plan} {j : Joint} {n : Nat} {what : SessionCall} {x : Thread} {s : Session}

theorem Fares.pace_le (h : P.Fares s what x) : x.pace ≤ P.limit what := by
  have idled : x.call.idled ≤ 5 := by
    cases x.call with
    | ready p | waiting p ticket => exact p.idled_le
    | returned _ | dropped => exact Nat.le_refl 5
  have past : x.past.length + 5 ≤ P.limit what := by
    cases what with
    | register t => exact Nat.add_le_add_right (Session.RegisterPath.length_le h) 5
    | begin =>
        obtain ⟨state, path⟩ := h
        exact Nat.add_le_add_right path.length_le 5
    | execute t =>
        obtain ⟨transaction, -, path⟩ := h
        have short := path.length_le
        simp only [limit]
        have same : (P.dumps transaction).files t = P.files t := rfl
        rw [same] at short
        omega
    | commit =>
        obtain ⟨transaction, state, -, path⟩ := h
        exact Nat.add_le_add_right path.length_le 5
  simp only [Thread.pace]
  omega

theorem Sound.pace_step {move : Joint.Move} {j' : Joint} (h : P.Sound j)
    (step : j.step? move = some j') : pace j < pace j' := by
  rcases h.linked.step?_cases step with ⟨engineMove, e, moves, answered, rfl⟩ |
    ⟨n, m, x, effects, y, used, moved, rfl, -⟩
  · have further := h.flawless.clock_step h.linked.engine moves (h.well answered)
    rcases Engine.step?_record moves with ⟨what, record, calls, -⟩ | ⟨new, record, silent, calls⟩
    · rw [Joint.withEngine_issued record]
      simp only [pace, h.linked.machine.threads_call, List.map_append, List.sum_append,
        List.map_cons, List.map_nil, List.sum_cons, List.sum_nil, Thread.pace, List.length_cons]
      omega
    · rw [Joint.withEngine_silent record silent]
      simp only [pace]
      omega
  · have further := moved.pace
    have changed := sum_map_set (b := y) moved.stood Thread.pace
    simp only [pace, Joint.withMachine, moved.threads]
    omega

theorem Run.length_le_pace {moves : List Joint.Move} (run : P.Run moves j) (accepted : P.Accepted) :
    moves.length ≤ pace j := by
  induction run with
  | start => exact Nat.zero_le _
  | step move before favours step ih =>
      have further := (before.sound accepted).pace_step step
      rw [List.length_append, List.length_singleton]
      omega

theorem Sound.threads_eq (h : P.Sound j) :
    j.machine.threads =
      (Engine.callsIn j.engine.record).map fun c => j.machine.thread c.1 := by
  rw [Session.Machine.threads_eq, h.linked.length, ← h.linked.engine.booked.numbered, List.map_map]
  rfl

theorem Sound.fares_thread (h : P.Sound j) {c : Nat × SessionCall}
    (member : c ∈ Engine.callsIn j.engine.record) :
    P.Fares j.machine.session c.2 (j.machine.thread c.1) := by
  have issued : .issued c.1 c.2 ∈ j.engine.record := Engine.mem_callsIn.mp member
  obtain ⟨x, stood, -⟩ := h.linked.exists_thread issued
  rw [Session.Machine.thread_eq stood]
  exact h.fares c.1 c.2 x issued stood

theorem sum_limit (P : Plan) :
    ((Engine.schedule P.targets).map P.limit).sum + (4 * P.targets.length + 2) = P.bound := by
  have both : ∀ targets : List Target,
      (targets.map fun _ => 12).sum + (targets.map fun t => 21 + 3 * (P.files t).length).sum +
        4 * targets.length = (targets.map fun t => 37 + 3 * (P.files t).length).sum := by
    intro targets
    induction targets with
    | nil => rfl
    | cons t targets ih =>
        simp only [List.map_cons, List.sum_cons, List.length_cons]
        omega
  have all := both P.targets
  simp only [Engine.schedule, List.map_append, List.map_cons, List.map_map, List.map_nil,
    List.sum_append, List.sum_cons, List.sum_nil, bound, Function.comp_def, limit]
  omega

theorem Sound.pace_le (h : P.Sound j) : pace j ≤ P.bound := by
  have engine := h.flawless.clock_le
  have calls : (j.machine.threads.map Thread.pace).sum ≤ (j.engine.issued.map P.limit).sum := by
    rw [h.threads_eq, Engine.issued_eq, List.map_map, List.map_map]
    exact List.sum_le_sum fun c member => (h.fares_thread member).pace_le
  have few : (j.engine.issued.map P.limit).sum ≤ ((Engine.schedule P.targets).map P.limit).sum := by
    obtain ⟨made, perm, sublist⟩ := h.linked.engine.staged.issued_subperm
    rw [← (perm.map P.limit).sum_nat]
    exact (sublist.map P.limit).sum_le_sum fun _ _ => Nat.zero_le _
  have all := P.sum_limit
  rw [h.linked.engine.staged.same_targets] at engine
  simp only [pace]
  omega

/-- A run has a move that its client allows. -/
def CanMove (P : Plan) (j : Joint) : Prop :=
  ∃ move, P.Favours j move ∧ (j.step? move).isSome = true

theorem Fares.answerable {p : Session.Point} {ticket : Nat} (h : P.Fares s what x)
    (waits : x.call = .waiting p ticket) (record : List Session.Entry) :
    ∃ q next, s.act p = .request q ∧
      Session.resume ticket p (P.client.reply record q) = some next := by
  obtain ⟨call, past⟩ := x
  obtain rfl : call = .waiting p ticket := waits
  cases what with
  | register t => exact Session.RegisterPath.answerable h s record
  | begin =>
      obtain ⟨state, path⟩ := h
      exact path.answerable s record
  | execute t =>
      obtain ⟨transaction, -, path⟩ := h
      exact path.answerable s record
  | commit =>
      obtain ⟨transaction, state, -, path⟩ := h
      exact path.answerable s record

theorem Sound.not_abandoned (h : P.Sound j) (n : Nat) : j.isAbandoned n = false := by
  simp only [Joint.isAbandoned, List.any_eq_false]
  intro job _
  simp only [Joint.droppedCall?]
  split
  · rename_i call dropped
    rcases h.flawless.jobs _ (List.mem_of_getElem? dropped) with same | ⟨_, same⟩ | same | same
    all_goals cases same
  · simp

/-- A call goes on until it has returned, and then it has returned well. -/
theorem Sound.call_moves (h : P.Sound j) (issued : .issued n what ∈ j.engine.record) :
    P.CanMove j ∨ j.machine.calls[n]? = some .done := by
  obtain ⟨x, stood, -⟩ := h.linked.exists_thread issued
  have call := Session.Machine.call_of_getElem? stood
  have fares := h.fares n what x issued stood
  cases stands : x.call with
  | ready p =>
      rw [stands] at call
      refine .inl ⟨.act n, trivial, ?_⟩
      simp [Joint.step?, Session.Machine.act?, call]
  | waiting p ticket =>
      rw [stands] at call
      obtain ⟨q, next, asks, resumes⟩ := fares.answerable stands j.machine.record
      have pending : j.machine.pending? n = some (ticket, q) := by
        simp [Session.Machine.pending?, call, asks]
      refine .inl ⟨.answer n (P.client.reply j.machine.record q), ?_, ?_⟩
      · simp [Favours, pending]
      · simp [Joint.step?, h.not_abandoned, Session.Machine.answer?, call, resumes]
  | returned outcome =>
      rw [stands, fares.returned stands] at call
      exact .inr call
  | dropped => exact absurd stands fares.not_dropped

theorem Sound.jobCall?_eq (h : P.Sound j) {i call : Nat}
    (running : j.engine.jobs[i]? = some (.running call)) :
    j.jobCall? i = some call ∧ ∃ what, .issued call what ∈ j.engine.record := by
  have known : call ∈ j.engine.openCalls :=
    List.mem_append_right _ (List.mem_filterMap.mpr ⟨_, List.mem_of_getElem? running, rfl⟩)
  have small : call ∈ List.range j.engine.calls :=
    h.linked.engine.booked.ledger.subset (List.mem_append_left _ known)
  constructor
  · rw [Joint.jobCall?, running, h.linked.numbered]
    exact List.getElem?_range (List.mem_range.mp small)
  · rw [← h.linked.engine.booked.numbered] at small
    obtain ⟨⟨_, what⟩, member, rfl⟩ := List.mem_map.mp small
    exact ⟨what, Engine.mem_callsIn.mp member⟩

theorem Sound.running_moves (h : P.Sound j) {i call : Nat} (busy : j.engine.hasJobs = true)
    (running : j.engine.jobs[i]? = some (.running call)) : P.CanMove j := by
  obtain ⟨own, what, issued⟩ := h.jobCall?_eq running
  rcases h.call_moves issued with moves | returned
  · exact moves
  · refine ⟨.finish i, trivial, ?_⟩
    simp [Joint.step?, own, Session.Machine.outcome?, returned, Session.Call.done, Engine.finish?,
      busy, running]

/-- A job that is not joined goes on, or it waits for one that does. -/
theorem Sound.job_moves (h : P.Sound j) (accepted : P.Accepted) {p : Engine.Phase} {i : Nat}
    {job : Job} (stage : j.engine.stage = p.stage) (stood : j.engine.jobs[i]? = some job)
    (unjoined : job ≠ .joined) : P.CanMove j := by
  have busy : j.engine.hasJobs = true := by
    rw [Engine.hasJobs, stage]
    cases p <;> rfl
  have phase := Engine.phaseCall?_of_stage stage
  rcases h.flawless.jobs job (List.mem_of_getElem? stood) with rfl | ⟨call, rfl⟩ | rfl | rfl
  · by_cases permits : j.engine.permits = 0
    · -- With no permit left there are as many jobs under way as workers.
      have all := h.flawless.permits
      have workers := h.linked.engine.workers_eq
      have some_worker := accepted.some_worker
      have running : 0 < j.engine.jobs.countP Job.isRunning := by omega
      obtain ⟨job, member, runs⟩ := List.countP_pos_iff.mp running
      obtain ⟨i', stood'⟩ := List.getElem?_of_mem member
      cases job with
      | running call => exact h.running_moves busy stood'
      | queued | ended _ | joined | dropped _ => cases runs
    · have inside := (List.getElem?_eq_some_iff.mp stood).1
      rw [h.flawless.length] at inside
      have target := List.getElem?_eq_getElem inside
      refine ⟨.start i, trivial, ?_⟩
      simp [Joint.step?, Engine.start?, phase, target, stood, permits]
  · exact h.running_moves busy stood
  · refine ⟨.join i, trivial, ?_⟩
    simp [Joint.step?, Engine.join?, phase, stood]
  · exact absurd rfl unjoined

theorem Sound.phase_moves (h : P.Sound j) (accepted : P.Accepted) {p : Engine.Phase}
    (stage : j.engine.stage = p.stage) : P.CanMove j := by
  by_cases joined : j.engine.jobs.all Job.isJoined = true
  · refine ⟨.proceed, trivial, ?_⟩
    cases p <;> simp [Joint.step?, Engine.proceed?, joined, stage, Engine.Phase.stage]
  · obtain ⟨job, member, unjoined⟩ : ∃ job ∈ j.engine.jobs, job.isJoined ≠ true := by
      simpa using joined
    obtain ⟨i, stood⟩ := List.getElem?_of_mem member
    exact h.job_moves accepted stage stood fun same => unjoined (same ▸ rfl)

/-- After a phase the engine waits for its call, and goes on when that has returned. -/
theorem Sound.call_follows (h : P.Sound j) (issued : .issued n what ∈ j.engine.record)
    (waits : j.engine.stage = .beginning n ∨ j.engine.stage = .committing n) : P.CanMove j := by
  rcases h.call_moves issued with moves | returned
  · exact moves
  · have small : n < j.engine.calls := by
      rw [← h.linked.length]
      exact (List.getElem?_eq_some_iff.mp returned).1
    have own : j.calls[n]? = some n := by
      rw [h.linked.numbered]
      exact List.getElem?_range small
    refine ⟨.settle, trivial, ?_⟩
    rcases waits with stage | stage
    all_goals
      simp [Joint.step?, Joint.stageCall?, stage, own, Session.Machine.outcome?, returned,
        Session.Call.done, Engine.settle?]

/-- As long as the engine has not returned, the run can go on. -/
theorem Sound.progress (h : P.Sound j) (accepted : P.Accepted) :
    j.engine.stage = .returned .success ∨ P.CanMove j := by
  have goes_well := h.flawless.goes_well
  have at_stage := h.linked.engine.staged.at_stage
  simp only [Engine.GoesWell] at goes_well
  simp only [Engine.AtStage] at at_stage
  cases stage : j.engine.stage with
  | registering => exact .inr (h.phase_moves accepted (p := .register) stage)
  | beginning n =>
      rw [stage] at at_stage
      exact .inr (h.call_follows at_stage (.inl stage))
  | executing => exact .inr (h.phase_moves accepted (p := .execute) stage)
  | committing n =>
      rw [stage] at at_stage
      exact .inr (h.call_follows at_stage (.inr stage))
  | stopping fault => simp [stage] at goes_well
  | returned ending =>
      rw [stage] at goes_well
      exact .inl (congrArg Stage.returned goes_well.1)

end Plan

end DumpFlow
