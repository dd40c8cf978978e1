import DumpFlow.Proofs.Engine.Barrier

/-!
Runs in which nothing goes wrong. All jobs are joined, all permits come back, and what the engine
says and which calls it makes is the same in every order of the jobs.
-/

namespace DumpFlow

open scoped List

/-- How far a job has come. -/
def Job.clock : Job → Nat
  | .queued | .running _ => 0
  | .ended _ => 1
  | .joined | .dropped _ => 2

/-- How far a run over `n` targets has come when it enters a stage, its calls not counted. -/
def Stage.clock (n : Nat) : Stage → Nat
  | .registering | .beginning _ => 0
  | .executing | .committing _ => 2 * n + 1
  | .stopping _ | .returned _ => 2 * n + 2

namespace Engine

def eventsIn (record : List EngineEffect) : List MonitorEvent :=
  record.filterMap fun
    | .announced message => some (.verbose message)
    | _ => none

theorem eventsIn_append (r s : List EngineEffect) :
    eventsIn (r ++ s) = eventsIn r ++ eventsIn s :=
  List.filterMap_append

/-- Nothing that the engine sees end has failed. -/
def Move.IsWell : Move → Prop
  | .finish _ ending | .settle ending => ending = .success
  | _ => True

def clock (e : Engine) : Nat :=
  e.stage.clock e.targets.length + (e.jobs.map Job.clock).sum

def registerEvents (n : Nat) : List MonitorEvent := [.verbose (registerMessage n)]

def executeEvents (n : Nat) : List MonitorEvent :=
  [.verbose (registerMessage n), .verbose (executeMessage n)]

/-- A stage of a run in which nothing has gone wrong. -/
def GoesWell (e : Engine) : Prop :=
  match e.stage with
  | .registering | .beginning _ => eventsIn e.record = registerEvents e.targets.length
  | .executing | .committing _ => eventsIn e.record = executeEvents e.targets.length
  | .stopping _ => False
  | .returned ending => ending = .success ∧ (∀ job ∈ e.jobs, job = .joined) ∧
      (∃ call, .issued call .commit ∈ e.record) ∧
      eventsIn e.record = executeEvents e.targets.length

def Unharmed (job : Job) : Prop :=
  job = .queued ∨ (∃ call, job = .running call) ∨ job = .ended .success ∨ job = .joined

structure Flawless (e : Engine) : Prop where
  jobs : ∀ job ∈ e.jobs, Unharmed job
  length : e.jobs.length = e.targets.length
  permits : e.permits + e.jobs.countP Job.isRunning = e.workers
  ended : ∀ call ending, .ended call ending ∈ e.record → ending = .success
  goes_well : e.GoesWell

variable {e e' : Engine} {move : Move} {config : EngineConfig} {targets : List Target}
  {p : Phase} {i : Nat} {job next : Job}

def Phase.events (n : Nat) : Phase → List MonitorEvent
  | .register => registerEvents n
  | .execute => executeEvents n

theorem GoesWell.of_phase (stage : e.stage = p.stage)
    (events : eventsIn e.record = p.events e.targets.length) : e.GoesWell := by
  simp only [GoesWell, stage]
  cases p <;> exact events

theorem GoesWell.events (h : e.GoesWell) (stage : e.stage = p.stage) :
    eventsIn e.record = p.events e.targets.length := by
  simp only [GoesWell, stage] at h
  cases p <;> exact h

theorem none_running {jobs : List Job} (h : ∀ job ∈ jobs, job.isRunning = false) :
    jobs.countP Job.isRunning = 0 := by
  rw [List.countP_eq_zero]
  intro job member running
  rw [h job member] at running
  cases running

theorem Flawless.start (valid : validate targets = .ok ())
    (few : config.workerCount ≤ greatestWorkers) : (start config targets).Flawless := by
  rcases start_cases config targets with ⟨-, -, ⟨fault, refused, -⟩ | ⟨-, many⟩⟩ | ⟨-, -, same⟩
  · rw [valid] at refused
    cases refused
  · exact absurd few (Nat.not_le_of_lt many)
  · rw [same]
    constructor
    · intro job member
      obtain ⟨-, -, rfl⟩ := List.mem_map.mp member
      exact .inl rfl
    · exact List.length_map ..
    · show config.workerCount + (targets.map fun _ => Job.queued).countP Job.isRunning = _
      rw [none_running]
      · rfl
      · intro job member
        obtain ⟨-, -, rfl⟩ := List.mem_map.mp member
        rfl
    · simp
    · rfl

theorem Flawless.replacing (h : e.Flawless) (permits : Nat) (stage : e.stage = p.stage)
    (stood : e.jobs[i]? = some job) (unharmed : Unharmed next)
    (balance : permits + [next].countP Job.isRunning =
      e.permits + [job].countP Job.isRunning) :
    { e.setJob i next with permits := permits }.Flawless := by
  constructor
  · intro other member
    rcases List.mem_or_eq_of_mem_set member with old | rfl
    · exact h.jobs other old
    · exact unharmed
  · exact (List.length_set ..).trans h.length
  · have all := h.permits
    have changed := countP_set (b := next) stood Job.isRunning
    show permits + (e.jobs.set i next).countP Job.isRunning = e.workers
    omega
  · exact h.ended
  · refine GoesWell.of_phase (p := p) ?_ ?_
    · exact stage
    · exact h.goes_well.events stage

/-- In a phase something is put on record that is no message. -/
theorem Flawless.recording {calls : Nat} {new : List EngineEffect} (h : e.Flawless)
    (stage : e.stage = p.stage) (silent : eventsIn new = [])
    (well : ∀ call ending, .ended call ending ∈ new → ending = .success) :
    { e with calls := calls, record := e.record ++ new }.Flawless := by
  constructor
  · exact h.jobs
  · exact h.length
  · exact h.permits
  · intro call ending member
    rcases List.mem_append.mp member with old | new
    · exact h.ended call ending old
    · exact well call ending new
  · refine GoesWell.of_phase (p := p) ?_ ?_
    · exact stage
    · show eventsIn (e.record ++ new) = _
      rw [eventsIn_append, silent, List.append_nil]
      exact h.goes_well.events stage

/-- All jobs are joined, and the engine makes the call that follows the phase. -/
theorem Flawless.leaving {stage : Stage} {what : SessionCall} (h : e.Flawless)
    (goes_well : ({ e with stage := stage }.issuing what).GoesWell) :
    ({ e with stage := stage }.issuing what).Flawless := by
  constructor
  · exact h.jobs
  · exact h.length
  · exact h.permits
  · intro call ending member
    rcases List.mem_append.mp member with old | new
    · exact h.ended call ending old
    · cases List.mem_singleton.mp new
  · exact goes_well

theorem ended_success {call call' : Nat} {ending : Ending} {others : List EngineEffect}
    (h : ∀ call ending, .ended call ending ∈ e.record → ending = .success)
    (silent : endedIn others = [])
    (member : .ended call' ending ∈ e.record ++ [.ended call .success] ++ others) :
    ending = .success := by
  rcases List.mem_append.mp member with earlier | other
  · rcases List.mem_append.mp earlier with old | new
    · exact h call' ending old
    · cases List.mem_singleton.mp new
      rfl
  · rw [← mem_endedIn, silent] at other
    cases other

theorem Flawless.step (h : e.Flawless) (reached : Reachable config targets e)
    (hs : e.step? move = some e') (well : move.IsWell) : e'.Flawless := by
  cases move with
  | start i =>
      obtain ⟨p, t, stage, -, queued, permits, rfl⟩ := start?_eq_some hs
      have moved := h.replacing (e.permits - 1) stage queued (.inr (.inl ⟨e.calls, rfl⟩)) (by
        simp only [List.countP_cons, List.countP_nil, Job.isRunning]
        simp
        omega)
      refine moved.recording (p := p) stage rfl fun call ending member => ?_
      cases List.mem_singleton.mp member
  | finish i ending =>
      obtain ⟨call, busy, running, rfl⟩ := finish?_eq_some hs
      obtain rfl : ending = .success := well
      have in_phase : ∃ p : Phase, e.stage = p.stage := by
        simp only [hasJobs] at busy
        split at busy
        · exact ⟨.register, ‹_›⟩
        · exact ⟨.execute, ‹_›⟩
        · rename_i stage
          have goes_well := h.goes_well
          simp only [GoesWell, stage] at goes_well
        · cases busy
      obtain ⟨p, stage⟩ := in_phase
      have moved := h.replacing (e.permits + 1) stage running (.inr (.inr (.inl rfl))) (by
        simp [Job.isRunning])
      refine moved.recording (p := p) stage rfl fun call ending member => ?_
      cases List.mem_singleton.mp member
      rfl
  | refuse i =>
      obtain ⟨fault, stage, -, rfl⟩ := refuse?_eq_some hs
      have goes_well := h.goes_well
      simp only [GoesWell, stage] at goes_well
  | join i =>
      obtain ⟨p, ending, stage, ended, ⟨-, rfl⟩ | ⟨fault, failed, -⟩⟩ := join?_eq_some hs
      · exact h.replacing e.permits stage ended (.inr (.inr (.inr rfl))) rfl
      · rcases h.jobs _ (List.mem_of_getElem? ended) with same | ⟨_, same⟩ | same | same
        · cases same
        · cases same
        · cases same
          cases failed
        · cases same
  | clear =>
      obtain ⟨fault, stage, -⟩ := clear?_eq_some hs
      have goes_well := h.goes_well
      simp only [GoesWell, stage] at goes_well
  | proceed =>
      have goes_well := h.goes_well
      obtain ⟨-, ⟨stage, rfl⟩ | ⟨stage, rfl⟩⟩ := proceed?_eq_some hs
      all_goals
        refine h.leaving ?_
        simp only [GoesWell, stage, issuing, eventsIn_append] at goes_well ⊢
        rw [goes_well]
        rfl
  | settle ending =>
      have goes_well := h.goes_well
      obtain rfl : ending = .success := well
      rcases settle?_eq_some hs with ⟨call, stage, -, rfl⟩ | ⟨call, stage, failed, -⟩ |
        ⟨call, stage, rfl⟩
      · have idle := reached.booked.idle (by simp [stage, Stage.call?])
        simp only [GoesWell, stage] at goes_well
        constructor
        · intro job member
          obtain ⟨-, -, rfl⟩ := List.mem_map.mp member
          exact .inl rfl
        · exact List.length_map ..
        · have all := h.permits
          rw [none_running (fun job member => by rw [idle job member]; rfl)] at all
          show e.permits + (e.targets.map fun _ => Job.queued).countP Job.isRunning = e.workers
          rw [none_running]
          · exact all
          · intro job member
            obtain ⟨-, -, rfl⟩ := List.mem_map.mp member
            rfl
        · intro call' ending member
          change .ended call' ending ∈ e.record ++ [.ended call .success] ++
            [.announced (executeMessage e.targets.length)] at member
          exact ended_success h.ended rfl member
        · refine GoesWell.of_phase (p := .execute) rfl ?_
          show eventsIn (e.record ++ [.ended call .success] ++
            [.announced (executeMessage e.targets.length)]) = _
          rw [eventsIn_append, eventsIn_append, goes_well]
          rfl
      · exact absurd rfl failed
      · have idle := reached.booked.idle (by simp [stage, Stage.call?])
        have made := reached.staged.at_stage
        simp only [AtStage, stage] at made
        simp only [GoesWell, stage] at goes_well
        constructor
        · exact h.jobs
        · exact h.length
        · exact h.permits
        · intro call' ending member
          change .ended call' ending ∈ e.record ++ [.ended call .success] ++
            [.returned .success] at member
          exact ended_success h.ended rfl member
        · refine ⟨rfl, idle, ⟨call, ?_⟩, ?_⟩
          · exact List.mem_append_left _ (List.mem_append_left _ made)
          · show eventsIn (e.record ++ [.ended call .success] ++ [.returned .success]) = _
            rw [eventsIn_append, eventsIn_append, goes_well]
            rfl

end Engine

end DumpFlow
