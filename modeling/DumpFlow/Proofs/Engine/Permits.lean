import DumpFlow.Proofs.Engine.Report

/-!
The permits of an engine. A call for a target holds a permit from the move that makes it to the move
that sees it end, however it ends, and one whose job is given up keeps its permit. The same permits
serve both phases, so that in each of them no more calls are under way than there are workers.
-/

namespace DumpFlow

open scoped List

/-- Whether it is a job that makes the call. -/
def SessionCall.isForTarget : SessionCall → Bool
  | register _ | execute _ => true
  | begin | commit => false

namespace Engine

/-- The calls for targets that are under way, by their numbers. -/
def inProgress (e : Engine) : List Nat :=
  ((callsIn e.record).filter fun c =>
    c.2.isForTarget && !((endedIn e.record).map Prod.fst).contains c.1).map Prod.fst

/-- The calls of the jobs that have not been seen to end. -/
def jobCalls (e : Engine) : List Nat :=
  e.jobs.filterMap Job.call?

/-- Where the permits are: each of them is left, or with the call of one job. -/
structure Permitted (e : Engine) : Prop where
  balance : e.permits + e.jobCalls.length = e.workers
  called : ∀ n ∈ e.jobCalls, ∃ p t, .issued n (Phase.call p t) ∈ e.record

variable {e e' : Engine} {config : EngineConfig} {targets : List Target} {p : Phase}
  {i n : Nat} {what : SessionCall} {job next : Job} {ending : Ending} {move : Move}

theorem Phase.isForTarget_call (p : Phase) (t : Target) : (p.call t).isForTarget = true := by
  cases p <;> rfl

theorem mem_inProgress :
    n ∈ e.inProgress ↔ ∃ what, .issued n what ∈ e.record ∧ what.isForTarget = true ∧
      ∀ ending, .ended n ending ∉ e.record := by
  have known : ((endedIn e.record).map Prod.fst).contains n = true ↔
      ∃ ending, .ended n ending ∈ e.record := by
    rw [List.contains_iff_mem, List.mem_map]
    constructor
    · rintro ⟨⟨_, ending⟩, member, rfl⟩
      exact ⟨ending, mem_endedIn.mp member⟩
    · rintro ⟨ending, member⟩
      exact ⟨(n, ending), mem_endedIn.mpr member, rfl⟩
  simp only [inProgress, List.mem_map, List.mem_filter, Bool.and_eq_true, Bool.not_eq_true',
    Bool.eq_false_iff, Prod.exists]
  constructor
  · rintro ⟨_, what, ⟨issued, ours, open_⟩, rfl⟩
    exact ⟨what, mem_callsIn.mp issued, ours, fun ending ended => open_ (known.mpr ⟨ending, ended⟩)⟩
  · rintro ⟨what, issued, ours, open_⟩
    refine ⟨n, what, ⟨mem_callsIn.mpr issued, ours, fun ended => ?_⟩, rfl⟩
    obtain ⟨ending, member⟩ := known.mp ended
    exact open_ ending member

/-- One job changes; a permit goes with its call. -/
theorem Permitted.replacing (h : e.Permitted) (next : Job) (stood : e.jobs[i]? = some job)
    (jobs_eq : e'.jobs = e.jobs.set i next) (workers_eq : e'.workers = e.workers)
    (recorded : e.record ⊆ e'.record)
    (balance : e'.permits + next.call?.toList.length = e.permits + job.call?.toList.length)
    (called : ∀ n, next.call? = some n → ∃ p t, .issued n (Phase.call p t) ∈ e'.record) :
    e'.Permitted := by
  obtain ⟨others, before, after⟩ := calls_set stood
  have now : e'.jobCalls ~ next.call?.toList ++ others := by
    rw [jobCalls, jobs_eq]
    exact after next
  have all := h.balance
  constructor
  · rw [jobCalls, before.length_eq, List.length_append] at all
    rw [now.length_eq, List.length_append, workers_eq]
    omega
  · intro n member
    rcases List.mem_append.mp (now.subset member) with new | old
    · exact called n (Option.mem_toList.mp new)
    · obtain ⟨p, t, issued⟩ := h.called n (before.symm.subset (List.mem_append_right _ old))
      exact ⟨p, t, recorded issued⟩

/-- No call of a job changes hands. -/
theorem Permitted.keep (h : e.Permitted) (jobs_eq : e'.jobCalls = e.jobCalls)
    (workers_eq : e'.workers = e.workers) (permits_eq : e'.permits = e.permits)
    (recorded : e.record ⊆ e'.record) : e'.Permitted where
  balance := by rw [jobs_eq, workers_eq, permits_eq, h.balance]
  called n member := by
    obtain ⟨p, t, issued⟩ := h.called n (jobs_eq ▸ member)
    exact ⟨p, t, recorded issued⟩

theorem jobCalls_entering (e : Engine) (stage : Stage) : (e.entering stage).jobCalls = [] := by
  simp [jobCalls, entering, Job.call?]

theorem permitted_start (config : EngineConfig) (targets : List Target) :
    (start config targets).Permitted := by
  rcases start_cases config targets with ⟨ending, same, -⟩ | ⟨-, -, same⟩
  all_goals
    rw [same]
    constructor <;> simp [jobCalls, Job.call?]

theorem permitted_step (h : e.Permitted) (booked : e.Booked) (hs : e.step? move = some e') :
    e'.Permitted := by
  cases move with
  | start i =>
      obtain ⟨p, t, -, -, queued, permits, rfl⟩ := start?_eq_some hs
      refine h.replacing (.running e.calls) queued rfl rfl (List.subset_append_left ..) ?_ ?_
      · show e.permits - 1 + 1 = e.permits + 0
        omega
      · rintro n same
        cases same
        exact ⟨p, t, List.mem_append_right _ (List.mem_singleton_self _)⟩
  | finish i ending =>
      obtain ⟨call, -, running, rfl⟩ := finish?_eq_some hs
      exact h.replacing (.ended ending) running rfl rfl (List.subset_append_left ..) rfl nofun
  | refuse i =>
      obtain ⟨fault, -, queued, rfl⟩ := refuse?_eq_some hs
      exact h.replacing (.ended refusal) queued rfl rfl (List.Subset.refl _) rfl nofun
  | join i =>
      obtain ⟨p, ending, -, ended, ⟨-, rfl⟩ | ⟨fault, -, rfl⟩⟩ := join?_eq_some hs
      · exact h.replacing .joined ended rfl rfl (List.Subset.refl _) rfl nofun
      · exact h.replacing .joined ended rfl rfl (List.subset_append_left ..) rfl nofun
  | clear =>
      obtain ⟨fault, -, rfl⟩ := clear?_eq_some hs
      refine h.keep ?_ rfl rfl (List.subset_append_left ..)
      simp [jobCalls, returning, List.filterMap_map]
  | proceed =>
      obtain ⟨-, ⟨-, rfl⟩ | ⟨-, rfl⟩⟩ := proceed?_eq_some hs
      all_goals exact h.keep rfl rfl rfl (List.subset_append_left ..)
  | settle ending =>
      rcases settle?_eq_some hs with ⟨call, stage, -, rfl⟩ | ⟨call, -, -, rfl⟩ | ⟨call, -, rfl⟩
      · -- The jobs of the phase that is over give way to those of the next.
        have idle := calls_joined (booked.idle (by simp [stage, Stage.call?]))
        refine h.keep ((jobCalls_entering ..).trans idle.symm) rfl rfl ?_
        exact List.Subset.trans (List.subset_append_left ..) (List.subset_append_left ..)
      all_goals
        refine h.keep rfl rfl rfl ?_
        exact List.Subset.trans (List.subset_append_left ..) (List.subset_append_left ..)

theorem Reachable.permitted (h : Reachable config targets e) : e.Permitted := by
  induction h with
  | start => exact permitted_start config targets
  | step _ reached hs ih => exact permitted_step ih reached.booked hs

/-- What the record calls under way is what the jobs hold permits for. -/
theorem Reachable.inProgress_perm (h : Reachable config targets e) :
    e.inProgress ~ e.jobCalls := by
  have booked := h.booked
  have distinct : e.inProgress.Nodup := by
    have numbered : ((callsIn e.record).map Prod.fst).Nodup := booked.numbered ▸ List.nodup_range
    exact numbered.sublist (List.filter_sublist.map Prod.fst)
  have distinct' : e.jobCalls.Nodup :=
    (List.nodup_append.mp (List.nodup_append.mp
      (booked.ledger.nodup_iff.mpr List.nodup_range)).1).2.1
  refine (List.perm_ext_iff_of_nodup distinct distinct').mpr fun n => mem_inProgress.trans ⟨?_, ?_⟩
  · rintro ⟨what, issued, ours, open_⟩
    rcases booked.ended_or_open issued with waits | ⟨ending, ended⟩
    · refine (List.mem_append.mp waits).resolve_left fun alone => ?_
      -- The call that a stage waits for is for no target.
      have at_stage := h.staged.at_stage
      simp only [AtStage] at at_stage
      cases stage : e.stage with
      | beginning b | committing b =>
          rw [stage] at at_stage alone
          obtain rfl : n = b := by simpa [Stage.call?, eq_comm] using alone
          rw [booked.call_unique issued at_stage] at ours
          cases ours
      | registering | executing | stopping _ | returned _ =>
          rw [stage] at alone
          cases alone
    · exact absurd ended (open_ ending)
  · intro member
    obtain ⟨p, t, issued⟩ := h.permitted.called n member
    exact ⟨p.call t, issued, p.isForTarget_call t,
      booked.not_ended (List.mem_append_right _ member)⟩

/-- How the permits of `w` workers are used. -/
structure Rationed (w : Nat) (e : Engine) : Prop where
  bounded : e.inProgress.length ≤ w
  /-- A permit is left for every worker without a call, whatever became of the calls before. -/
  conserved : e.permits + e.inProgress.length = w
  /-- After a phase in which all jobs went well all permits are back, -/
  restored : e.stage.call? ≠ none ∨ (∀ job ∈ e.jobs, job = .joined) →
    e.inProgress = [] ∧ e.permits = w
  /-- and they are there for the phase that follows. -/
  renewed : ∀ ending e', e.step? (.settle ending) = some e' → e'.inProgress = [] ∧ e'.permits = w
  /-- As long as fewer calls are under way, any job that waits can start. -/
  granted : ∀ (p : Phase) (i : Nat), e.stage = p.stage → e.jobs[i]? = some .queued →
    e.inProgress.length < w →
    ∃ e', e.step? (.start i) = some e' ∧ e'.inProgress.length = e.inProgress.length + 1

theorem Reachable.permits_eq (h : Reachable config targets e) :
    e.permits + e.inProgress.length = config.workerCount := by
  rw [h.inProgress_perm.length_eq, h.permitted.balance, h.workers_eq]

theorem Reachable.idle_of_none (h : Reachable config targets e) (none_left : e.jobCalls = []) :
    e.inProgress = [] ∧ e.permits = config.workerCount := by
  have none_open : e.inProgress = [] := List.Perm.eq_nil (none_left ▸ h.inProgress_perm)
  have all := h.permits_eq
  rw [none_open] at all
  exact ⟨none_open, all⟩

theorem Reachable.idle_of_joined (h : Reachable config targets e)
    (joined : ∀ job ∈ e.jobs, job = .joined) :
    e.inProgress = [] ∧ e.permits = config.workerCount :=
  h.idle_of_none (calls_joined joined)

theorem Reachable.idle_of_settled (h : Reachable config targets e)
    (settled : e.step? (.settle ending) = some e') :
    e'.inProgress = [] ∧ e'.permits = config.workerCount := by
  refine (h.step _ settled).idle_of_none ?_
  rcases settle?_eq_some settled with ⟨call, stage, -, rfl⟩ | ⟨call, stage, -, rfl⟩ |
    ⟨call, stage, rfl⟩
  · exact jobCalls_entering ..
  all_goals exact calls_joined (h.booked.idle (by simp [stage, Stage.call?]))

theorem Reachable.start_of_permit (h : Reachable config targets e) (stage : e.stage = p.stage)
    (queued : e.jobs[i]? = some .queued) (left : e.permits ≠ 0) :
    ∃ e', e.step? (.start i) = some e' ∧ e'.permits + 1 = e.permits := by
  obtain ⟨t, htarget⟩ := (h.staged.at_stage.underWay stage).target_of_job queued
  have phase := phaseCall?_of_stage stage
  refine ⟨_, by simp only [step?, start?, phase, htarget, queued, if_neg left]; rfl, ?_⟩
  show e.permits - 1 + 1 = e.permits
  omega

/-- Whatever the session answers, and in whichever order and way the jobs run and end. -/
theorem Reachable.rationed (h : Reachable config targets e) :
    Rationed config.workerCount e where
  bounded := h.permits_eq ▸ Nat.le_add_left ..
  conserved := h.permits_eq
  restored finished := by
    rcases finished with waits | joined
    · exact h.idle_of_joined (h.booked.idle waits)
    · exact h.idle_of_joined joined
  renewed ending e' settled := h.idle_of_settled settled
  granted p i stage queued fewer := by
    have all := h.permits_eq
    obtain ⟨e', started, permits⟩ := h.start_of_permit stage queued (by omega)
    have all' := (h.step _ started).permits_eq
    exact ⟨e', started, by omega⟩

/-- In the second phase one job has panicked, and the job that waited has got its permit. -/
theorem rationed_after_panic :
    ∃ e, Reachable ⟨2⟩
        [.table "a" ⟨"p/a"⟩, .query "q" "SELECT 1" ⟨"p/q"⟩, .table "b" ⟨"p/b"⟩] e ∧
      e.stage = .executing ∧ e.inProgress = [5, 6] ∧ e.permits = 0 ∧ Rationed 2 e := by
  have run : ((start ⟨2⟩
      [.table "a" ⟨"p/a"⟩, .query "q" "SELECT 1" ⟨"p/q"⟩, .table "b" ⟨"p/b"⟩]).run?
      [.start 2, .start 0, .finish 0 .success, .start 1, .finish 1 .success, .join 1,
        .finish 2 .success, .join 0, .join 2, .proceed, .settle .success, .start 1, .start 0,
        .finish 1 (.panicked "out of memory"), .start 2]).isSome = true := by decide
  have reached := reachable_of_run? .start (Option.some_get run).symm
  exact ⟨_, reached, rfl, rfl, rfl, reached.rationed⟩

end Engine

end DumpFlow
