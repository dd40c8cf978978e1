import DumpFlow.Engine.Step

/-!
The moves of an engine, each by what it needs and what it leaves behind. Later proofs about runs
open no move themselves.
-/

namespace DumpFlow

theorem Ending.eq_success_of_failure?_eq_none {ending : Ending} (h : ending.failure? = none) :
    ending = .success := by
  match ending with
  | .returned (.ok _) => rfl
  | .returned (.error _) | .panicked _ => simp [failure?] at h

@[simp]
theorem Ending.failure?_success : Ending.success.failure? = none := rfl

namespace Engine

/-- The phases in which every target is a job. -/
inductive Phase where
  | register
  | execute
  deriving DecidableEq, Repr

namespace Phase

def stage : Phase → Stage
  | register => .registering
  | execute => .executing

def call : Phase → Target → SessionCall
  | register => .register
  | execute => .execute

def target? : Phase → SessionCall → Option Target
  | register, .register t | execute, .execute t => some t
  | _, _ => none

@[simp]
theorem target?_eq_some {p : Phase} {what : SessionCall} {t : Target} :
    p.target? what = some t ↔ what = p.call t := by
  cases p <;> cases what <;> simp [target?, call]

@[simp]
theorem target?_call (p : Phase) (t : Target) : p.target? (p.call t) = some t :=
  target?_eq_some.mpr rfl

@[simp]
theorem call_inj {p q : Phase} {t u : Target} : p.call t = q.call u ↔ p = q ∧ t = u := by
  cases p <;> cases q <;> simp [call]

@[simp]
theorem call_ne_begin (p : Phase) (t : Target) : p.call t ≠ .begin := by
  cases p <;> nofun

@[simp]
theorem call_ne_commit (p : Phase) (t : Target) : p.call t ≠ .commit := by
  cases p <;> nofun

end Phase

variable {e e' : Engine} {i : Nat}

theorem phaseCall?_eq_some {what : Target → SessionCall} (h : e.phaseCall? = some what) :
    ∃ p : Phase, e.stage = p.stage ∧ what = p.call := by
  simp only [phaseCall?] at h
  split at h
  · rename_i stage
    exact ⟨.register, stage, (Option.some.inj h).symm⟩
  · rename_i stage
    exact ⟨.execute, stage, (Option.some.inj h).symm⟩
  · cases h

theorem phaseCall?_of_stage {p : Phase} (h : e.stage = p.stage) : e.phaseCall? = some p.call := by
  cases p <;> simp [phaseCall?, h, Phase.stage, Phase.call]

theorem start?_eq_some (h : e.start? i = some e') :
    ∃ (p : Phase) (t : Target), e.stage = p.stage ∧ e.targets[i]? = some t ∧
      e.jobs[i]? = some .queued ∧ e.permits ≠ 0 ∧
      e' = { e.setJob i (.running e.calls) with permits := e.permits - 1 }.issuing (p.call t) := by
  simp only [start?] at h
  split at h
  · rename_i what t hwhat htarget hjob
    obtain ⟨p, stage, rfl⟩ := phaseCall?_eq_some hwhat
    split at h
    · cases h
    · rename_i permits
      exact ⟨p, t, stage, htarget, hjob, permits, (Option.some.inj h).symm⟩
  · cases h

theorem finish?_eq_some {ending : Ending} (h : e.finish? i ending = some e') :
    ∃ call, e.hasJobs = true ∧ e.jobs[i]? = some (.running call) ∧
      e' = { (e.setJob i (.ended ending)).answered call ending with permits := e.permits + 1 } := by
  simp only [finish?] at h
  split at h
  · rename_i call busy hjob
    exact ⟨call, busy, hjob, (Option.some.inj h).symm⟩
  · cases h

theorem refuse?_eq_some (h : e.refuse? i = some e') :
    ∃ fault, e.stage = .stopping fault ∧ e.jobs[i]? = some .queued ∧
      e' = e.setJob i (.ended refusal) := by
  simp only [refuse?] at h
  split at h
  · rename_i fault stage hjob
    exact ⟨fault, stage, hjob, (Option.some.inj h).symm⟩
  · cases h

theorem join?_eq_some (h : e.join? i = some e') :
    ∃ (p : Phase) (ending : Ending), e.stage = p.stage ∧ e.jobs[i]? = some (.ended ending) ∧
      ((ending = .success ∧ e' = e.setJob i .joined) ∨
        ∃ fault, ending.failure? = some fault ∧ e' = (e.setJob i .joined).stopping fault) := by
  simp only [join?] at h
  split at h
  · rename_i what ending hwhat hjob
    obtain ⟨p, stage, -⟩ := phaseCall?_eq_some hwhat
    refine ⟨p, ending, stage, hjob, ?_⟩
    split at h
    · rename_i well
      exact .inl ⟨Ending.eq_success_of_failure?_eq_none well, (Option.some.inj h).symm⟩
    · rename_i fault failed
      exact .inr ⟨fault, failed, (Option.some.inj h).symm⟩
  · cases h

theorem clear?_eq_some (h : e.clear? = some e') :
    ∃ fault, e.stage = .stopping fault ∧
      e' = { e with jobs := e.jobs.map giveUp }.returning (.returned (.error fault)) := by
  simp only [clear?] at h
  split at h
  · rename_i fault stage
    exact ⟨fault, stage, (Option.some.inj h).symm⟩
  · cases h

theorem proceed?_eq_some (h : e.proceed? = some e') :
    e.jobs.all Job.isJoined = true ∧
      ((e.stage = .registering ∧ e' = { e with stage := .beginning e.calls }.issuing .begin) ∨
        (e.stage = .executing ∧ e' = { e with stage := .committing e.calls }.issuing .commit)) := by
  simp only [proceed?] at h
  split at h
  · rename_i joined
    refine ⟨joined, ?_⟩
    split at h
    · rename_i stage
      exact .inl ⟨stage, (Option.some.inj h).symm⟩
    · rename_i stage
      exact .inr ⟨stage, (Option.some.inj h).symm⟩
    · cases h
  · cases h

theorem settle?_eq_some {ending : Ending} (h : e.settle? ending = some e') :
    (∃ call, e.stage = .beginning call ∧ ending = .success ∧
      e' = ((e.answered call ending).announcing (executeMessage e.targets.length)).entering
        .executing) ∨
    (∃ call, e.stage = .beginning call ∧ ending ≠ .success ∧
      e' = (e.answered call ending).returning ending) ∨
    ∃ call, e.stage = .committing call ∧ e' = (e.answered call ending).returning ending := by
  simp only [settle?] at h
  split at h
  · rename_i call _ stage
    exact .inl ⟨call, stage, rfl, (Option.some.inj h).symm⟩
  · rename_i call stage failed
    exact .inr (.inl ⟨call, stage, fun same => failed () same, (Option.some.inj h).symm⟩)
  · rename_i call stage
    exact .inr (.inr ⟨call, stage, (Option.some.inj h).symm⟩)
  · cases h

/-- The two ways in which a run can start: it is over at once without a call, or it enters the
first phase. -/
theorem start_cases (config : EngineConfig) (targets : List Target) :
    (∃ ending, start config targets =
      ⟨config.workerCount, targets, .returned ending, config.workerCount, [], 0,
        [.returned ending]⟩ ∧
      ((∃ fault, validate targets = .error fault ∧ ending = .returned (.error fault)) ∨
        validate targets = .ok () ∧ greatestWorkers < config.workerCount)) ∨
    (validate targets = .ok () ∧ config.workerCount ≤ greatestWorkers ∧ start config targets =
      ⟨config.workerCount, targets, .registering, config.workerCount,
        targets.map fun _ => .queued, 0, [.announced (registerMessage targets.length)]⟩) := by
  simp only [start]
  split
  · rename_i fault invalid
    exact .inl ⟨.returned (.error fault), rfl, .inl ⟨fault, invalid, rfl⟩⟩
  · rename_i u valid
    split
    · rename_i many
      exact .inl ⟨.panicked "too many workers", rfl, .inr ⟨valid, many⟩⟩
    · rename_i few
      exact .inr ⟨valid, Nat.le_of_not_lt few, rfl⟩

/-- A run that has returned makes no move any more. -/
theorem step?_of_returned {ending : Ending} (stage : e.stage = .returned ending) (move : Move) :
    e.step? move = none := by
  have no_phase (p : Phase) : e.stage ≠ p.stage := by
    rw [stage]
    cases p <;> nofun
  cases hs : e.step? move with
  | none => rfl
  | some e' =>
      exfalso
      cases move with
      | start i =>
          obtain ⟨p, t, in_phase, -⟩ := start?_eq_some hs
          exact no_phase p in_phase
      | finish i ending' =>
          obtain ⟨call, busy, -⟩ := finish?_eq_some hs
          simp [hasJobs, stage] at busy
      | refuse i =>
          obtain ⟨fault, stopping, -⟩ := refuse?_eq_some hs
          simp [stage] at stopping
      | join i =>
          obtain ⟨p, ending', in_phase, -⟩ := join?_eq_some hs
          exact no_phase p in_phase
      | clear =>
          obtain ⟨fault, stopping, -⟩ := clear?_eq_some hs
          simp [stage] at stopping
      | proceed =>
          obtain ⟨-, ⟨in_phase, -⟩ | ⟨in_phase, -⟩⟩ := proceed?_eq_some hs
          · exact no_phase .register in_phase
          · exact no_phase .execute in_phase
      | settle ending' =>
          obtain ⟨call, waiting, -⟩ | ⟨call, waiting, -⟩ | ⟨call, waiting, -⟩ :=
            settle?_eq_some hs
          all_goals simp [stage] at waiting

theorem reachable_of_run? {config : EngineConfig} {targets : List Target} {moves : List Move}
    (h : Reachable config targets e) (run : e.run? moves = some e') :
    Reachable config targets e' := by
  induction moves generalizing e with
  | nil => exact Option.some.inj run ▸ h
  | cons move moves ih =>
      obtain ⟨next, first, rest⟩ := Option.bind_eq_some_iff.mp run
      exact ih (h.step move first) rest

theorem step?_workers {move : Move} (hs : e.step? move = some e') : e'.workers = e.workers := by
  cases move with
  | start i =>
      obtain ⟨p, t, -, -, -, -, rfl⟩ := start?_eq_some hs
      rfl
  | finish i ending =>
      obtain ⟨call, -, -, rfl⟩ := finish?_eq_some hs
      rfl
  | refuse i =>
      obtain ⟨fault, -, -, rfl⟩ := refuse?_eq_some hs
      rfl
  | join i =>
      obtain ⟨p, ending, -, -, ⟨-, rfl⟩ | ⟨fault, -, rfl⟩⟩ := join?_eq_some hs <;> rfl
  | clear =>
      obtain ⟨fault, -, rfl⟩ := clear?_eq_some hs
      rfl
  | proceed =>
      obtain ⟨-, ⟨-, rfl⟩ | ⟨-, rfl⟩⟩ := proceed?_eq_some hs <;> rfl
  | settle ending =>
      rcases settle?_eq_some hs with ⟨call, -, -, rfl⟩ | ⟨call, -, -, rfl⟩ | ⟨call, -, rfl⟩
      all_goals rfl

theorem Reachable.workers_eq {config : EngineConfig} {targets : List Target}
    (h : Reachable config targets e) : e.workers = config.workerCount := by
  induction h with
  | start =>
      rcases start_cases config targets with ⟨ending, same, -⟩ | ⟨-, -, same⟩
      all_goals
        rw [same]
  | step move _ hs ih => exact (step?_workers hs).trans ih

end Engine

end DumpFlow
