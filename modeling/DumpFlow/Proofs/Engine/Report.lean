import DumpFlow.Proofs.Engine.Blame

/-!
What an engine gives back, and that it gives something back. A run that has not returned waits for
the end of an open call or makes a move by itself, and the number of its moves is bounded; when it
returns, it does so well if and only if all its calls did, and otherwise with what one of them
failed with.
-/

namespace DumpFlow

open scoped List

namespace Engine

/-- It is not the session that ends a call. -/
def Move.isOwn : Move → Bool
  | .finish _ _ | .settle _ => false
  | _ => true

/-- Until a job is known to have failed, none is given up and no permit is lost. -/
def Whole (e : Engine) : Prop :=
  match e.stage with
  | .stopping _ | .returned _ => True
  | _ => (∀ call, .dropped call ∉ e.jobs) ∧
      e.permits + e.jobs.countP Job.isRunning = e.workers

/-- What a run that has not returned does next. -/
inductive GoesOn (e : Engine) : Prop where
  | moves (move : Move) (e' : Engine) : move.isOwn = true → e.step? move = some e' → GoesOn e
  /-- A call is open, and the engine takes whatever it ends with. -/
  | waits (call : Nat) (what : SessionCall) : .issued call what ∈ e.record →
      (∀ ending, .ended call ending ∉ e.record) →
      (∀ ending, ∃ move e' rest, e.step? move = some e' ∧
        e'.record = e.record ++ .ended call ending :: rest) → GoesOn e

/-- How far a run has come, every move counted. -/
def reach (e : Engine) : Nat :=
  e.clock + e.calls + e.ending?.toList.length

variable {e e' : Engine} {config : EngineConfig} {targets : List Target} {p : Phase}
  {call i : Nat} {what : SessionCall} {t : Target} {job : Job} {ending : Ending} {move : Move}

theorem Whole.of_phase (stage : e.stage = p.stage) (kept : ∀ call, .dropped call ∉ e.jobs)
    (permits : e.permits + e.jobs.countP Job.isRunning = e.workers) : e.Whole := by
  simp only [Whole, stage]
  cases p <;> exact ⟨kept, permits⟩

theorem Whole.in_phase (h : e.Whole) (stage : e.stage = p.stage) :
    (∀ call, .dropped call ∉ e.jobs) ∧
      e.permits + e.jobs.countP Job.isRunning = e.workers := by
  simp only [Whole, stage] at h
  cases p <;> exact h

/-- One job changes; a permit goes with it if it starts or stops running. -/
theorem Whole.replacing (h : e.Whole) (next : Job) (stage : e.stage = p.stage)
    (stood : e.jobs[i]? = some job) (kept : ∀ call, next ≠ .dropped call)
    (stage_eq : e'.stage = e.stage) (jobs_eq : e'.jobs = e.jobs.set i next)
    (workers_eq : e'.workers = e.workers)
    (balance : e'.permits + [next].countP Job.isRunning =
      e.permits + [job].countP Job.isRunning) : e'.Whole := by
  obtain ⟨none_dropped, permits⟩ := h.in_phase stage
  refine Whole.of_phase (stage_eq.trans stage) (fun call member => ?_) ?_
  · rw [jobs_eq] at member
    rcases List.mem_or_eq_of_mem_set member with old | new
    · exact none_dropped call old
    · exact kept call new.symm
  · have changed := countP_set (b := next) stood Job.isRunning
    rw [jobs_eq, workers_eq]
    omega

theorem Whole.entering (e : Engine) (stage : Stage) (permits : e.permits = e.workers) :
    (e.entering stage).Whole := by
  have queued : ∀ job ∈ (e.entering stage).jobs, job = .queued := by
    intro job member
    obtain ⟨-, -, rfl⟩ := List.mem_map.mp member
    rfl
  have kept : ∀ call, .dropped call ∉ (e.entering stage).jobs :=
    fun call member => nomatch queued _ member
  have balance : e.permits + (e.entering stage).jobs.countP Job.isRunning = e.workers := by
    rw [none_running fun job member => by rw [queued job member]; rfl]
    exact permits
  cases stage with
  | stopping _ | returned _ => trivial
  | registering | beginning _ | executing | committing _ => exact ⟨kept, balance⟩

theorem whole_start (config : EngineConfig) (targets : List Target) :
    (start config targets).Whole := by
  rcases start_cases config targets with ⟨ending, same, -⟩ | ⟨-, -, same⟩
  · rw [same]
    trivial
  · rw [same]
    exact Whole.entering ⟨config.workerCount, targets, .registering, config.workerCount, [], 0,
      [.announced (registerMessage targets.length)]⟩ .registering rfl

theorem whole_step (h : e.Whole) (booked : e.Booked) (hs : e.step? move = some e') : e'.Whole := by
  cases move with
  | start i =>
      obtain ⟨p, t, stage, -, queued, permits, rfl⟩ := start?_eq_some hs
      refine h.replacing (.running e.calls) stage queued (by simp) rfl rfl rfl ?_
      show e.permits - 1 + [Job.running e.calls].countP Job.isRunning = _
      simp only [List.countP_cons, List.countP_nil, Job.isRunning]
      simp
      omega
  | finish i ending =>
      obtain ⟨call, busy, running, rfl⟩ := finish?_eq_some hs
      have in_phase (p : Phase) (stage : e.stage = p.stage) : Whole
          { (e.setJob i (.ended ending)).answered call ending with permits := e.permits + 1 } :=
        h.replacing (.ended ending) stage running (by simp) rfl rfl rfl
          (by simp [Job.isRunning])
      simp only [hasJobs] at busy
      split at busy
      · exact in_phase .register ‹_›
      · exact in_phase .execute ‹_›
      · rename_i stage
        simp [Whole, answered, setJob, stage]
      · cases busy
  | refuse i =>
      obtain ⟨fault, stage, -, rfl⟩ := refuse?_eq_some hs
      simp [Whole, setJob, stage]
  | join i =>
      obtain ⟨p, ending, stage, ended, ⟨-, rfl⟩ | ⟨fault, -, rfl⟩⟩ := join?_eq_some hs
      · exact h.replacing .joined stage ended (by simp) rfl rfl rfl rfl
      · trivial
  | clear =>
      obtain ⟨fault, -, rfl⟩ := clear?_eq_some hs
      trivial
  | proceed =>
      obtain ⟨-, ⟨stage, rfl⟩ | ⟨stage, rfl⟩⟩ := proceed?_eq_some hs
      · have before := h.in_phase (p := .register) stage
        exact before
      · have before := h.in_phase (p := .execute) stage
        exact before
  | settle ending =>
      rcases settle?_eq_some hs with ⟨call, stage, -, rfl⟩ | ⟨call, -, -, rfl⟩ | ⟨call, -, rfl⟩
      · have idle := booked.idle (by simp [stage, Stage.call?])
        simp only [Whole, stage] at h
        rw [none_running fun job member => by rw [idle job member]; rfl] at h
        exact Whole.entering _ _ h.2
      all_goals trivial

theorem Reachable.whole (h : Reachable config targets e) : e.Whole := by
  induction h with
  | start => exact whole_start config targets
  | step _ reached hs ih => exact whole_step ih reached.booked hs

/-! ### Going on -/

theorem Booked.not_ended (h : e.Booked) (waits : call ∈ e.openCalls) (ending : Ending) :
    .ended call ending ∉ e.record := by
  intro ended
  have distinct := h.ledger.nodup_iff.mpr List.nodup_range
  have known : call ∈ (endedIn e.record).map Prod.fst :=
    List.mem_map_of_mem (f := Prod.fst) (mem_endedIn.mpr ended)
  exact (List.nodup_append.mp distinct).2.2 call waits call known rfl

theorem Booked.issued_of_ended (h : e.Booked) (ended : .ended call ending ∈ e.record) :
    ∃ what, .issued call what ∈ e.record := by
  have known : call ∈ e.openCalls ++ (endedIn e.record).map Prod.fst :=
    List.mem_append_right _ (List.mem_map_of_mem (f := Prod.fst) (mem_endedIn.mpr ended))
  rw [h.ledger.mem_iff, ← h.numbered] at known
  obtain ⟨⟨_, what⟩, member, rfl⟩ := List.mem_map.mp known
  exact ⟨what, mem_callsIn.mp member⟩

/-- A job that runs is one whose end the engine takes. -/
theorem goesOn_running (booked : e.Booked) (backed : Backed p e) (stage : e.stage = p.stage)
    (htarget : e.targets[i]? = some t) (running : e.jobs[i]? = some (.running call)) :
    GoesOn e := by
  have busy : e.hasJobs = true := by cases p <;> simp [hasJobs, stage, Phase.stage]
  have waits : call ∈ e.openCalls := by
    rw [openCalls_of_phase stage]
    exact List.mem_filterMap.mpr ⟨_, List.mem_of_getElem? running, rfl⟩
  refine .waits call (p.call t) (backed i t _ htarget running) (booked.not_ended waits) ?_
  intro ending
  have taken : e.step? (.finish i ending) = some
      { (e.setJob i (.ended ending)).answered call ending with permits := e.permits + 1 } := by
    simp only [step?, finish?, busy, running]
  exact ⟨_, _, [], taken, rfl⟩

/-- The end of the call that a stage waits for is taken, whatever it is. -/
theorem exists_settled (waits : e.stage.call? = some call) (ending : Ending) :
    ∃ move e' rest,
      e.step? move = some e' ∧ e'.record = e.record ++ .ended call ending :: rest := by
  cases stage : e.stage with
  | beginning b =>
      rw [stage] at waits
      cases waits
      match ending with
      | .returned (.ok _) =>
          have taken : e.step? (.settle .success) =
              some (((e.answered call .success).announcing
                (executeMessage e.targets.length)).entering .executing) := by
            simp only [step?, settle?, stage, Ending.success]
          exact ⟨_, _, _, taken, List.append_assoc ..⟩
      | .returned (.error fault) =>
          have taken : e.step? (.settle (.returned (.error fault))) =
              some ((e.answered call (.returned (.error fault))).returning
                (.returned (.error fault))) := by
            simp only [step?, settle?, stage]
          exact ⟨_, _, _, taken, List.append_assoc ..⟩
      | .panicked payload =>
          have taken : e.step? (.settle (.panicked payload)) =
              some ((e.answered call (.panicked payload)).returning (.panicked payload)) := by
            simp only [step?, settle?, stage]
          exact ⟨_, _, _, taken, List.append_assoc ..⟩
  | committing c =>
      rw [stage] at waits
      cases waits
      have taken : e.step? (.settle ending) =
          some ((e.answered call ending).returning ending) := by
        simp only [step?, settle?, stage]
      exact ⟨_, _, _, taken, List.append_assoc ..⟩
  | registering | executing | stopping _ | returned _ =>
      rw [stage] at waits
      cases waits

theorem exists_not_joined {jobs : List Job} (h : ¬ jobs.all Job.isJoined = true) :
    ∃ (i : Nat) (job : Job), jobs[i]? = some job ∧ job.isJoined = false := by
  simp only [List.all_eq_true, not_forall] at h
  obtain ⟨job, member, open_⟩ := h
  obtain ⟨i, stood⟩ := List.getElem?_of_mem member
  exact ⟨i, job, stood, by simpa using open_⟩

/-- In a phase there is a job to look at, to wait for or to start, or all of them are joined. -/
theorem goesOn_phase (reached : Reachable config targets e) (workers : 0 < config.workerCount)
    (backed : Backed p e) (stage : e.stage = p.stage) : GoesOn e := by
  have phase := phaseCall?_of_stage stage
  obtain ⟨kept, permits⟩ := reached.whole.in_phase stage
  have target_of {i : Nat} {job : Job} (stood : e.jobs[i]? = some job) :=
    (reached.staged.at_stage.underWay stage).target_of_job stood
  by_cases joined : e.jobs.all Job.isJoined = true
  · cases p with
    | register => exact .moves .proceed _ rfl (by simp only [step?, proceed?, joined, stage]; rfl)
    | execute => exact .moves .proceed _ rfl (by simp only [step?, proceed?, joined, stage]; rfl)
  obtain ⟨i, job, stood, open_⟩ := exists_not_joined joined
  obtain ⟨t, htarget⟩ := target_of stood
  cases job with
  | queued =>
      by_cases taken : e.permits = 0
      · -- All permits are with running jobs.
        rw [reached.workers_eq, taken] at permits
        obtain ⟨job, member, runs⟩ := List.countP_pos_iff.mp (Nat.lt_of_lt_of_le workers
          (Nat.le_of_eq (permits.symm.trans (Nat.zero_add _))))
        obtain ⟨j, running⟩ := List.getElem?_of_mem member
        obtain ⟨u, hu⟩ := target_of running
        cases job with
        | running call => exact goesOn_running reached.booked backed stage hu running
        | queued | ended _ | joined | dropped _ => cases runs
      · exact .moves (.start i) _ rfl (by
          simp only [step?, start?, phase, htarget, stood, if_neg taken]; rfl)
  | running call => exact goesOn_running reached.booked backed stage htarget stood
  | ended ending =>
      cases failed : ending.failure? with
      | none =>
          exact .moves (.join i) _ rfl (by simp only [step?, join?, phase, stood, failed]; rfl)
      | some fault =>
          exact .moves (.join i) _ rfl (by simp only [step?, join?, phase, stood, failed]; rfl)
  | joined => cases open_
  | dropped call => exact absurd (List.mem_of_getElem? stood) (kept call)

theorem Reachable.goesOn (reached : Reachable config targets e) (accounts : e.Accounts)
    (workers : 0 < config.workerCount) (unfinished : e.ending? = none) : GoesOn e := by
  have at_stage := reached.staged.at_stage
  have waiting {call : Nat} {what : SessionCall} (issued : .issued call what ∈ e.record)
      (waits : e.stage.call? = some call) : GoesOn e :=
    .waits call what issued
      (reached.booked.not_ended (List.mem_append_left _ (by simp [waits]))) (exists_settled waits)
  cases stage : e.stage with
  | registering => exact goesOn_phase reached workers (accounts.backed (p := .register) stage) stage
  | executing => exact goesOn_phase reached workers (accounts.backed (p := .execute) stage) stage
  | beginning call | committing call =>
      simp only [AtStage, stage] at at_stage
      exact waiting at_stage (by rw [stage]; rfl)
  | stopping fault => exact .moves .clear _ rfl (by simp only [step?, clear?, stage]; rfl)
  | returned ending => simp [ending?, stage] at unfinished

/-! ### How many moves -/

theorem Reachable.jobs_length (h : Reachable config targets e) :
    e.jobs.length ≤ e.targets.length := by
  induction h with
  | start =>
      rcases start_cases config targets with ⟨ending, same, -⟩ | ⟨-, -, same⟩ <;> simp [same]
  | step move _ hs ih =>
      cases move with
      | start i =>
          obtain ⟨p, t, -, -, -, -, rfl⟩ := start?_eq_some hs
          simpa [issuing, setJob] using ih
      | finish i ending =>
          obtain ⟨call, -, -, rfl⟩ := finish?_eq_some hs
          simpa [answered, setJob] using ih
      | refuse i =>
          obtain ⟨fault, -, -, rfl⟩ := refuse?_eq_some hs
          simpa [setJob] using ih
      | join i =>
          obtain ⟨p, ending, -, -, ⟨-, rfl⟩ | ⟨fault, -, rfl⟩⟩ := join?_eq_some hs <;>
            simpa [stopping, setJob] using ih
      | clear =>
          obtain ⟨fault, -, rfl⟩ := clear?_eq_some hs
          simpa [returning] using ih
      | proceed =>
          obtain ⟨-, ⟨-, rfl⟩ | ⟨-, rfl⟩⟩ := proceed?_eq_some hs <;> exact ih
      | settle ending =>
          rcases settle?_eq_some hs with ⟨call, -, -, rfl⟩ | ⟨call, -, -, rfl⟩ | ⟨call, -, rfl⟩
          · exact Nat.le_of_eq (List.length_map ..)
          all_goals exact ih

theorem clock_giveUp (jobs : List Job) :
    (jobs.map Job.clock).sum ≤ ((jobs.map giveUp).map Job.clock).sum := by
  induction jobs with
  | nil => exact Nat.le_refl _
  | cons job jobs ih =>
      have one : job.clock ≤ (giveUp job).clock := by cases job <;> simp [Job.clock, giveUp]
      simpa using Nat.add_le_add one ih

/-- Every move brings the run further. -/
theorem reach_step (reached : Reachable config targets e) (hs : e.step? move = some e') :
    e.reach < e'.reach := by
  cases move with
  | start i =>
      obtain ⟨p, t, stage, -, queued, -, rfl⟩ := start?_eq_some hs
      have changed := clock_set (.running e.calls) queued
      simp only [reach, ending?, clock, setJob, issuing, Job.clock] at changed ⊢
      omega
  | finish i ending =>
      obtain ⟨call, -, running, rfl⟩ := finish?_eq_some hs
      have changed := clock_set (.ended ending) running
      simp only [reach, ending?, clock, setJob, answered, Job.clock] at changed ⊢
      omega
  | refuse i =>
      obtain ⟨fault, -, queued, rfl⟩ := refuse?_eq_some hs
      have changed := clock_set (.ended refusal) queued
      simp only [reach, ending?, clock, setJob, Job.clock] at changed ⊢
      omega
  | join i =>
      obtain ⟨p, ending, stage, ended, ⟨-, rfl⟩ | ⟨fault, -, rfl⟩⟩ := join?_eq_some hs
      all_goals
        have changed := clock_set .joined ended
      · simp only [reach, ending?, clock, setJob, Job.clock] at changed ⊢
        omega
      · cases p
        all_goals
          simp only [reach, ending?, clock, setJob, stopping, stage, Phase.stage, Stage.clock,
            Job.clock] at changed ⊢
          omega
  | clear =>
      obtain ⟨fault, stage, rfl⟩ := clear?_eq_some hs
      have more := clock_giveUp e.jobs
      simp only [reach, ending?, clock, returning, stage, Stage.clock, Option.toList_none,
        Option.toList_some, List.length_nil, List.length_singleton]
      omega
  | proceed =>
      obtain ⟨-, ⟨stage, rfl⟩ | ⟨stage, rfl⟩⟩ := proceed?_eq_some hs
      all_goals
        simp only [reach, ending?, clock, issuing, stage, Stage.clock]
        omega
  | settle ending =>
      have full := sum_clock_le e.jobs
      have few := reached.jobs_length
      rcases settle?_eq_some hs with ⟨call, stage, -, rfl⟩ | ⟨call, stage, -, rfl⟩ |
        ⟨call, stage, rfl⟩
      all_goals
        simp only [reach, ending?, clock, entering, returning, announcing, answered, stage,
          Stage.clock, Option.toList_none, Option.toList_some, List.length_nil,
          List.length_singleton]
        omega

theorem reach_run {moves : List Move} (reached : Reachable config targets e)
    (run : e.run? moves = some e') : e.reach + moves.length ≤ e'.reach := by
  induction moves generalizing e with
  | nil => exact Nat.le_of_eq (congrArg reach (Option.some.inj run))
  | cons move moves ih =>
      obtain ⟨next, first, rest⟩ := Option.bind_eq_some_iff.mp run
      have further := reach_step reached first
      have all := ih (reached.step move first) rest
      rw [List.length_cons]
      omega

theorem Reachable.reach_le (h : Reachable config targets e) : e.reach ≤ 6 * targets.length + 5 := by
  have staged := h.staged
  have same := staged.same_targets
  have jobs := sum_clock_le e.jobs
  have few := h.jobs_length
  have stage : e.stage.clock e.targets.length ≤ 2 * e.targets.length + 2 := by
    cases e.stage <;> simp [Stage.clock]
  have calls : e.calls ≤ (schedule targets).length := by
    have made := staged.issued_subperm.length_le
    rwa [issued_eq, List.length_map, ← List.length_map (f := Prod.fst), h.booked.numbered,
      List.length_range] at made
  have scheduled : (schedule targets).length = 2 * targets.length + 2 := by
    simp [schedule]
    omega
  have ending : e.ending?.toList.length ≤ 1 := by cases e.ending? <;> simp
  rw [same] at few stage
  simp only [reach, clock, same]
  omega

/-! ### What is reported -/

/-- Once commit has ended, the run has returned. -/
theorem Reachable.returned_of_allWell (h : Reachable config targets e) (accounts : e.Accounts)
    (all : AllWell targets e.record) : e.stage = .returned .success := by
  have staged := h.staged
  have booked := h.booked
  obtain ⟨c, commits, well⟩ := all.committed
  have low := staged.rank_le commits
  have at_stage := staged.at_stage
  simp only [AtStage] at at_stage
  simp only [Accounts] at accounts
  cases stage : e.stage with
  | registering | beginning _ | executing =>
      rw [stage] at low
      simp [SessionCall.rank, Stage.rank] at low
  | committing b =>
      rw [stage] at at_stage
      obtain rfl := staged.commit_unique commits at_stage
      exact absurd well (booked.not_ended (by simp [openCalls, stage, Stage.call?]) _)
  | stopping fault =>
      rw [stage] at accounts
      exact absurd accounts (all.not_blamed staged booked)
  | returned ending =>
      rw [stage] at accounts
      rcases accounts with ⟨rfl, -⟩ | blamed
      · rfl
      · exact absurd blamed (all.not_blamed staged booked)

theorem Blames.rank_eq {later : Nat} {what' : SessionCall} {ending' : Ending}
    (h : Blames e.record call what ending) (staged : Staged targets e) (booked : e.Booked)
    (issued : .issued call what ∈ e.record) (issued' : .issued later what' ∈ e.record)
    (ended' : .ended later ending' ∈ e.record) (failed' : ending' ≠ .success) :
    what.rank = what'.rank := by
  obtain ⟨cause, ended, failed⟩ := h.ended
  obtain ⟨fault, told⟩ := Ending.exists_failure failed
  obtain ⟨fault', told'⟩ := Ending.exists_failure failed'
  exact Nat.le_antisymm (staged.failure_last booked issued' ended' told' issued)
    (staged.failure_last booked issued ended told issued')

/-- What an engine reports of its run. -/
structure Reported (targets : List Target) (e : Engine) : Prop where
  /-- A run that has not returned goes on, and it cannot do so for ever. -/
  goes_on : e.ending? = none → GoesOn e
  bounded : ∀ moves e', e.run? moves = some e' → moves.length ≤ 6 * targets.length + 5
  ok_iff : e.stage = .returned .success ↔ AllWell targets e.record
  none_failed : e.stage = .returned .success → ∀ call ending, .ended call ending ∈ e.record →
    ending = .success
  /-- The failure that is reported is one of the last phase that was reached. -/
  blames : ∀ ending, e.stage = .returned ending → ending ≠ .success →
    ∃ call what, .issued call what ∈ e.record ∧ Blames e.record call what ending ∧
      ∀ later what', .issued later what' ∈ e.record → what'.rank ≤ what.rank
  /-- A call that failed is not made up for by others that did not. -/
  not_lost : ∀ call what cause ending, .issued call what ∈ e.record → .ended call cause ∈ e.record →
    cause ≠ .success → e.stage = .returned ending →
    ∃ call' what', .issued call' what' ∈ e.record ∧ Blames e.record call' what' ending ∧
      what'.rank = what.rank
  /-- The refusal of a permit is not reported for the failure of a job. -/
  no_refusal : e.stage = .returned refusal →
    ∃ call ending, .ended call ending ∈ e.record ∧ ending.failure? = refusal.failure?

/-- Whatever the session answers and in whichever order the jobs run. The targets and the number of
workers are such that the run enters its first phase and can start a job. -/
theorem Reachable.reported (h : Reachable config targets e) (valid : validate targets = .ok ())
    (workers : 0 < config.workerCount) (few : config.workerCount ≤ greatestWorkers) :
    Reported targets e := by
  have accounts := h.accounts valid few
  have staged := h.staged
  have booked := h.booked
  have all_of_success (stage : e.stage = .returned .success) : AllWell targets e.record := by
    simp only [Accounts, stage] at accounts
    rcases accounts with ⟨-, all⟩ | ⟨call, what, -, blames⟩
    · exact staged.same_targets ▸ all
    · exact absurd rfl blames.failed
  have blamed {ending : Ending} (stage : e.stage = .returned ending) (failed : ending ≠ .success) :
      Blamed e.record ending := by
    simp only [Accounts, stage] at accounts
    exact accounts.resolve_left fun well => failed well.1
  constructor
  · exact h.goesOn accounts workers
  · intro moves e' run
    have made := reach_run h run
    have bound := (reachable_of_run? h run).reach_le
    omega
  · exact ⟨all_of_success, h.returned_of_allWell accounts⟩
  · intro stage call ending ended
    obtain ⟨what, issued⟩ := booked.issued_of_ended ended
    exact (all_of_success stage).well staged booked issued ended
  · intro ending stage failed
    obtain ⟨call, what, issued, blames⟩ := blamed stage failed
    refine ⟨call, what, issued, blames, fun later what' after => ?_⟩
    obtain ⟨cause, ended, bad⟩ := blames.ended
    obtain ⟨fault, told⟩ := Ending.exists_failure bad
    exact staged.failure_last booked issued ended told after
  · intro call what cause ending issued ended failed stage
    have bad : ending ≠ .success := by
      rintro rfl
      exact failed ((all_of_success stage).well staged booked issued ended)
    obtain ⟨call', what', issued', blames⟩ := blamed stage bad
    exact ⟨call', what', issued', blames, blames.rank_eq staged booked issued' issued ended failed⟩
  · intro stage
    obtain ⟨call, what, -, blames⟩ := blamed stage (by simp [refusal, Ending.success])
    generalize refused : refusal = ending at blames
    cases blames with
    | passed _ ended _ => exact ⟨call, _, ended, rfl⟩
    | job _ ended told =>
        refine ⟨call, _, ended, (Ending.failure?_eq_some.mpr told).trans ?_⟩
        cases refused
        rfl

/-- Two jobs fail, one after the other, a third one is refused its permit, and the one that was
looked at first is reported. -/
theorem reported_first :
    ∃ e, Reachable ⟨2⟩
        [.table "a" ⟨"p/a"⟩, .query "q" "SELECT 1" ⟨"p/q"⟩, .table "b" ⟨"p/b"⟩] e ∧
      e.stage = .returned (.returned (.error (.diagnostic
        ⟨.unknown, (Misuse.argument (.tableNotRegistered "a")).message,
          some (.misuse (.argument (.tableNotRegistered "a"))), []⟩))) ∧
      Reported [.table "a" ⟨"p/a"⟩, .query "q" "SELECT 1" ⟨"p/q"⟩, .table "b" ⟨"p/b"⟩] e := by
  have run : ((start ⟨2⟩
      [.table "a" ⟨"p/a"⟩, .query "q" "SELECT 1" ⟨"p/q"⟩, .table "b" ⟨"p/b"⟩]).run?
      [.start 0, .start 2, .finish 0 .success, .start 1, .finish 1 .success, .finish 2 .success,
        .join 0, .join 2, .join 1, .proceed, .settle .success, .start 0, .start 1,
        .finish 0 (.returned (.error (.argument (.tableNotRegistered "a")))), .join 0, .refuse 2,
        .finish 1 (.panicked "out of memory"), .clear]).isSome = true := by decide
  have reached := reachable_of_run? .start (Option.some_get run).symm
  exact ⟨_, reached, rfl, reached.reported rfl (by decide) (by decide)⟩

end Engine

end DumpFlow
