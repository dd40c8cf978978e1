import DumpFlow.Proofs.Engine.Flawless
import Mathlib.Data.List.Count

/-!
The calls of a run in which nothing goes wrong: which of them can be open at a stage, which have
been made when the run returns, and how many moves the engine makes for them.
-/

namespace DumpFlow

open scoped List

namespace Engine

/-- A call that is open while the engine is in a stage. -/
inductive Awaits (n : Nat) : SessionCall → Stage → Prop where
  | register (t : Target) : Awaits n (.register t) .registering
  | begin : Awaits n .begin (.beginning n)
  | execute (t : Target) : Awaits n (.execute t) .executing
  | commit : Awaits n .commit (.committing n)

def phaseCalls (targets : List Target) : Nat → List SessionCall
  | 0 => targets.map .register
  | 1 => [.begin]
  | 2 => targets.map .execute
  | 3 => [.commit]
  | _ => []

def schedule (targets : List Target) : List SessionCall :=
  targets.map .register ++ .begin :: targets.map .execute ++ [.commit]

variable {e e' : Engine} {move : Move} {config : EngineConfig} {targets : List Target}
  {p : Phase} {n : Nat} {what : SessionCall}

theorem filter_schedule (targets : List Target) (r : Nat) :
    (schedule targets).filter (fun what => what.rank = r) = phaseCalls targets r := by
  rcases r with _ | _ | _ | _ | r
  all_goals simp [schedule, phaseCalls, List.filter_map, Function.comp_def, SessionCall.rank]

theorem Awaits.rank_eq {stage : Stage} (h : Awaits n what stage) : what.rank = stage.rank := by
  cases h <;> rfl

theorem Staged.rank_le (h : Staged targets e) (issued : .issued n what ∈ e.record) :
    what.rank ≤ e.stage.rank :=
  h.ranked (n, what) (mem_callsIn.mpr issued)

theorem Staged.begin_unique (h : Staged targets e) {b : Nat} (issued : .issued n .begin ∈ e.record)
    (issued' : .issued b .begin ∈ e.record) : n = b := by
  have same : (n, SessionCall.begin) = (b, .begin) :=
    eq_of_countP_le_one h.begin_once (mem_callsIn.mpr issued) (mem_callsIn.mpr issued') rfl rfl
  cases same
  rfl

theorem Staged.commit_unique (h : Staged targets e) {c : Nat}
    (issued : .issued n .commit ∈ e.record) (issued' : .issued c .commit ∈ e.record) : n = c := by
  have same : (n, SessionCall.commit) = (c, .commit) :=
    eq_of_countP_le_one h.commit_once (mem_callsIn.mpr issued) (mem_callsIn.mpr issued') rfl rfl
  cases same
  rfl

theorem Booked.ended_or_open (h : e.Booked) (issued : .issued n what ∈ e.record) :
    n ∈ e.openCalls ∨ ∃ ending, .ended n ending ∈ e.record := by
  have known : n ∈ (callsIn e.record).map Prod.fst :=
    List.mem_map_of_mem (f := Prod.fst) (mem_callsIn.mpr issued)
  rw [h.numbered, ← h.ledger.mem_iff, List.mem_append] at known
  refine known.imp_right fun ended => ?_
  obtain ⟨⟨_, ending⟩, member, rfl⟩ := List.mem_map.mp ended
  exact ⟨ending, mem_endedIn.mp member⟩

/-- Calls of an earlier phase are not open any more. -/
theorem Flawless.awaits (h : e.Flawless) (reached : Reachable config targets e)
    (issued : .issued n what ∈ e.record) (open_ : ∀ ending, .ended n ending ∉ e.record) :
    Awaits n what e.stage := by
  have staged := reached.staged
  have low := staged.rank_le issued
  have at_stage := staged.at_stage
  have goes_well := h.goes_well
  simp only [GoesWell] at goes_well
  simp only [AtStage] at at_stage
  cases stage : e.stage with
  | registering =>
      rw [stage] at low
      cases what with
      | register t => exact .register t
      | begin | execute _ | commit => simp [SessionCall.rank, Stage.rank] at low
  | beginning b =>
      rw [stage] at low at_stage
      cases what with
      | register t =>
          exact absurd (staged.register_well issued at_stage (by decide)) (open_ _)
      | begin => exact staged.begin_unique issued at_stage ▸ .begin
      | execute _ | commit => simp [SessionCall.rank, Stage.rank] at low
  | executing =>
      rw [stage] at low at_stage
      obtain ⟨b, begun, well⟩ := at_stage.1
      cases what with
      | register t => exact absurd (staged.register_well issued begun (by decide)) (open_ _)
      | begin => exact absurd (staged.begin_unique issued begun ▸ well) (open_ _)
      | execute t => exact .execute t
      | commit => simp [SessionCall.rank, Stage.rank] at low
  | committing c =>
      rw [stage] at at_stage
      cases what with
      | register t => exact absurd (staged.register_well issued at_stage (by decide)) (open_ _)
      | begin => exact absurd (staged.begin_well issued at_stage (by decide)) (open_ _)
      | execute t => exact absurd (staged.execute_well issued at_stage) (open_ _)
      | commit => exact staged.commit_unique issued at_stage ▸ .commit
  | stopping fault => simp [stage] at goes_well
  | returned ending =>
      rw [stage] at goes_well
      obtain ⟨-, joined, -⟩ := goes_well
      rcases reached.booked.ended_or_open issued with waits | ⟨ending, ended⟩
      · simp [openCalls, stage, Stage.call?, calls_joined joined] at waits
      · exact absurd ended (open_ ending)

theorem issued_eq (e : Engine) : e.issued = (callsIn e.record).map Prod.snd := by
  rw [issued, callsIn, List.map_filterMap]
  congr 1
  funext effect
  cases effect <;> rfl

theorem count_issued (e : Engine) (p : Phase) (t : Target) :
    e.issued.count (p.call t) = (targetsIn p e.record).count t := by
  rw [issued_eq, targetsIn, List.count, List.countP_map, List.count, List.countP_filterMap]
  refine List.countP_congr fun c _ => ?_
  cases found : p.target? c.2 with
  | none =>
      have other : c.2 ≠ p.call t := by
        intro same
        simp [same] at found
      simp [other]
  | some u =>
      have same : c.2 = p.call u := Phase.target?_eq_some.mp found
      simp [same]

theorem count_calls_of_other (other : ∀ t, p.call t ≠ what) :
    (targets.map p.call).count what = 0 := by
  refine List.count_eq_zero.mpr fun member => ?_
  obtain ⟨u, -, same⟩ := List.mem_map.mp member
  exact other u same

theorem schedule_eq (targets : List Target) :
    schedule targets = targets.map Phase.register.call ++ .begin ::
      targets.map Phase.execute.call ++ [.commit] := rfl

theorem count_schedule (p : Phase) (t : Target) :
    (schedule targets).count (p.call t) = targets.count t := by
  have own : (targets.map p.call).count (p.call t) = targets.count t :=
    List.count_map_of_injective _ _ (fun _ _ same => (Phase.call_inj.mp same).2) _
  have foreign : ∀ q : Phase, q ≠ p → (targets.map q.call).count (p.call t) = 0 :=
    fun q other => count_calls_of_other fun u same => other (Phase.call_inj.mp same).1
  rw [schedule_eq]
  cases p with
  | register =>
      simp [List.count_append, own, foreign .execute nofun, (Phase.call_ne_begin _ t).symm,
        (Phase.call_ne_commit _ t).symm]
  | execute =>
      simp [List.count_append, own, foreign .register nofun, (Phase.call_ne_begin _ t).symm,
        (Phase.call_ne_commit _ t).symm]

theorem count_schedule_begin : (schedule targets).count .begin = 1 := by
  have foreign : ∀ p : Phase, (targets.map p.call).count .begin = 0 :=
    fun p => count_calls_of_other p.call_ne_begin
  rw [schedule_eq]
  simp [List.count_append, foreign]

theorem count_schedule_commit : (schedule targets).count .commit = 1 := by
  have foreign : ∀ p : Phase, (targets.map p.call).count .commit = 0 :=
    fun p => count_calls_of_other p.call_ne_commit
  rw [schedule_eq]
  simp [List.count_append, foreign]

/-- A run never makes a call too many. -/
theorem Staged.issued_subperm (h : Staged targets e) : e.issued <+~ schedule targets := by
  refine List.subperm_ext_iff.mpr fun what _ => ?_
  cases what with
  | register t =>
      rw [show SessionCall.register t = Phase.register.call t from rfl, count_issued,
        count_schedule]
      exact (h.once .register).count_le t
  | begin =>
      rw [count_schedule_begin, issued_eq, List.count, List.countP_map]
      exact h.begin_once
  | execute t =>
      rw [show SessionCall.execute t = Phase.execute.call t from rfl, count_issued,
        count_schedule]
      exact (h.once .execute).count_le t
  | commit =>
      rw [count_schedule_commit, issued_eq, List.count, List.countP_map]
      exact h.commit_once

/-- A run in which nothing goes wrong has made all its calls when it returns. -/
theorem Flawless.issued_perm {ending : Ending} (h : e.Flawless)
    (reached : Reachable config targets e) (returned : e.stage = .returned ending) :
    e.issued ~ schedule targets := by
  have staged := reached.staged
  have goes_well := h.goes_well
  simp only [GoesWell, returned] at goes_well
  obtain ⟨-, -, ⟨c, commits⟩, -⟩ := goes_well
  obtain ⟨b, begun, -⟩ := staged.begun_of_rank commits (by decide)
  obtain ⟨past, rest, split, due⟩ := exists_past commits staged.preceded
  obtain ⟨past', rest', split', due'⟩ := exists_past begun staged.preceded
  have all : ∀ p, targets.Subperm (targetsIn p e.record) := by
    intro p
    cases p with
    | register =>
        rw [split', targetsIn_append]
        exact due'.1.each_once.symm.subperm.trans (List.sublist_append_left _ _).subperm
    | execute =>
        rw [split, targetsIn_append]
        exact due.2.1.each_once.symm.subperm.trans (List.sublist_append_left _ _).subperm
  refine List.Subperm.antisymm staged.issued_subperm (List.subperm_ext_iff.mpr fun what _ => ?_)
  cases what with
  | register t =>
      rw [show SessionCall.register t = Phase.register.call t from rfl, count_issued,
        count_schedule]
      exact (all .register).count_le t
  | begin =>
      rw [count_schedule_begin, issued_eq]
      exact List.count_pos_iff.mpr
        (List.mem_map_of_mem (f := Prod.snd) (mem_callsIn.mpr begun))
  | execute t =>
      rw [show SessionCall.execute t = Phase.execute.call t from rfl, count_issued,
        count_schedule]
      exact (all .execute).count_le t
  | commit =>
      rw [count_schedule_commit, issued_eq]
      exact List.count_pos_iff.mpr
        (List.mem_map_of_mem (f := Prod.snd) (mem_callsIn.mpr commits))

/-! ### How many moves -/

theorem clock_set {job : Job} {i : Nat} (next : Job) (stood : e.jobs[i]? = some job) :
    (e.setJob i next).clock + job.clock = e.clock + next.clock := by
  have changed := sum_map_set (b := next) stood Job.clock
  simp only [clock, setJob]
  omega

theorem clock_joined (h : e.Flawless) (joined : ∀ job ∈ e.jobs, job = .joined) :
    (e.jobs.map Job.clock).sum = 2 * e.targets.length := by
  have all : e.jobs.map Job.clock = e.jobs.map fun _ => 2 :=
    List.map_congr_left fun job member => by rw [joined job member]; rfl
  rw [all, ← h.length]
  simp [Nat.mul_comm]

/-- Every move of the engine is a call, or brings the run further. -/
theorem Flawless.clock_step (h : e.Flawless) (reached : Reachable config targets e)
    (hs : e.step? move = some e') (well : move.IsWell) :
    e.clock + e.calls < e'.clock + e'.calls := by
  have no_stop : ∀ fault, e.stage ≠ .stopping fault := by
    intro fault stage
    have goes_well := h.goes_well
    simp only [GoesWell, stage] at goes_well
  cases move with
  | start i =>
      obtain ⟨p, t, stage, -, queued, permits, rfl⟩ := start?_eq_some hs
      have changed := clock_set (.running e.calls) queued
      simp only [clock, setJob, issuing, Job.clock] at changed ⊢
      omega
  | finish i ending =>
      obtain ⟨call, busy, running, rfl⟩ := finish?_eq_some hs
      have changed := clock_set (.ended ending) running
      simp only [clock, setJob, answered, Job.clock] at changed ⊢
      omega
  | refuse i =>
      obtain ⟨fault, stage, -⟩ := refuse?_eq_some hs
      exact absurd stage (no_stop fault)
  | join i =>
      obtain ⟨p, ending, stage, ended, ⟨-, rfl⟩ | ⟨fault, failed, -⟩⟩ := join?_eq_some hs
      · have changed := clock_set .joined ended
        simp only [clock, setJob, Job.clock] at changed ⊢
        omega
      · rcases h.jobs _ (List.mem_of_getElem? ended) with same | ⟨_, same⟩ | same | same
        · cases same
        · cases same
        · cases same
          cases failed
        · cases same
  | clear =>
      obtain ⟨fault, stage, -⟩ := clear?_eq_some hs
      exact absurd stage (no_stop fault)
  | proceed =>
      obtain ⟨-, ⟨stage, rfl⟩ | ⟨stage, rfl⟩⟩ := proceed?_eq_some hs
      all_goals
        simp only [clock, issuing, stage, Stage.clock]
        omega
  | settle ending =>
      obtain rfl : ending = .success := well
      rcases settle?_eq_some hs with ⟨call, stage, -, rfl⟩ | ⟨call, stage, failed, -⟩ |
        ⟨call, stage, rfl⟩
      · have full := clock_joined h (reached.booked.idle (by simp [stage, Stage.call?]))
        simp only [clock, entering, announcing, answered, stage, Stage.clock]
        omega
      · exact absurd rfl failed
      · simp only [clock, returning, answered, stage, Stage.clock]
        omega

theorem sum_clock_le (jobs : List Job) : (jobs.map Job.clock).sum ≤ 2 * jobs.length := by
  induction jobs with
  | nil => simp
  | cons job jobs ih =>
      have one : job.clock ≤ 2 := by cases job <;> simp [Job.clock]
      simp only [List.map_cons, List.sum_cons, List.length_cons]
      omega

theorem Flawless.clock_le (h : e.Flawless) : e.clock ≤ 4 * e.targets.length + 2 := by
  have each := sum_clock_le e.jobs
  have stage : e.stage.clock e.targets.length ≤ 2 * e.targets.length + 2 := by
    cases e.stage <;> simp [Stage.clock]
  rw [h.length] at each
  simp only [clock]
  omega

end Engine

end DumpFlow
