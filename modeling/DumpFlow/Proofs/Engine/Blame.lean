import DumpFlow.Proofs.Engine.Schedule

/-!
Where the end of a run comes from. Every job on which the engine still waits stands for a call on
record, and so does the failure that a stopped run reports; a job that was refused a permit is no
such job, because the engine looks at no ending after the first that failed.
-/

namespace DumpFlow

/-- How the failure of a job is told: a diagnostic as it is, everything else as one of unknown kind
that goes back to it. -/
inductive Told : Ending → DumpFault → Prop where
  | diagnostic (d : Diagnostic) : Told (.returned (.error (.diagnostic d))) (.diagnostic d)
  | misuse (fault : Misuse) :
      Told (.returned (.error (.misuse fault)))
        (.diagnostic ⟨.unknown, fault.message, some (.misuse fault), []⟩)
  | panicked (payload : String) :
      Told (.panicked payload)
        (.diagnostic ⟨.unknown, "worker terminated abnormally: " ++ Cause.panicText payload,
          some (.panic payload), []⟩)

theorem Ending.failure?_eq_some {ending : Ending} {fault : DumpFault} :
    ending.failure? = some fault ↔ Told ending fault := by
  constructor
  · intro failed
    match ending with
    | .returned (.ok _) => cases failed
    | .returned (.error (.diagnostic d)) =>
        cases failed
        exact .diagnostic d
    | .returned (.error (.misuse fault)) =>
        cases failed
        exact .misuse fault
    | .panicked payload =>
        cases failed
        exact .panicked payload
  · rintro (_ | _ | _) <;> rfl

namespace Engine

/-- What a job that is still there has on record. -/
def Backs (p : Phase) (record : List EngineEffect) (t : Target) : Job → Prop
  | .queued | .joined => True
  | .running call => .issued call (p.call t) ∈ record
  | .ended ending =>
    ∃ call, .issued call (p.call t) ∈ record ∧ .ended call ending ∈ record
  | .dropped _ => False

def Backed (p : Phase) (e : Engine) : Prop :=
  ∀ (i : Nat) (t : Target) (job : Job), e.targets[i]? = some t → e.jobs[i]? = some job →
    Backs p e.record t job

/-- The end of a run is that of one of its calls, which failed. -/
inductive Blames (record : List EngineEffect) (call : Nat) (what : SessionCall) :
    Ending → Prop where
  /-- What begin and commit give back is given back unchanged. -/
  | passed {ending : Ending} : what = .begin ∨ what = .commit → .ended call ending ∈ record →
      ending ≠ .success → Blames record call what ending
  | job {p : Phase} {t : Target} {ending : Ending} {fault : DumpFault} : what = p.call t →
      .ended call ending ∈ record → Told ending fault →
      Blames record call what (.returned (.error fault))

def Blamed (record : List EngineEffect) (ending : Ending) : Prop :=
  ∃ call what, .issued call what ∈ record ∧ Blames record call what ending

/-- All calls of a run are made, and all of them have returned well. -/
structure AllWell (targets : List Target) (record : List EngineEffect) : Prop where
  registered : PhaseDone .register targets record
  begun : Begun record
  executed : PhaseDone .execute targets record
  committed : ∃ call, .issued call .commit ∈ record ∧ .ended call .success ∈ record

def Accounts (e : Engine) : Prop :=
  match e.stage with
  | .registering => Backed .register e
  | .executing => Backed .execute e
  | .beginning _ | .committing _ => True
  | .stopping fault => Blamed e.record (.returned (.error fault))
  | .returned ending => ending = .success ∧ AllWell e.targets e.record ∨ Blamed e.record ending

variable {e e' : Engine} {config : EngineConfig} {targets : List Target} {p : Phase}
  {record new : List EngineEffect} {call i : Nat} {what : SessionCall} {t : Target} {job : Job}
  {ending : Ending} {fault : DumpFault}

theorem Backs.append (h : Backs p record t job) : Backs p (record ++ new) t job := by
  cases job with
  | queued | joined => trivial
  | running call => exact List.mem_append_left _ h
  | ended ending =>
      obtain ⟨call, issued, ended⟩ := h
      exact ⟨call, List.mem_append_left _ issued, List.mem_append_left _ ended⟩
  | dropped _ => cases h

theorem Blames.append (h : Blames record call what ending) :
    Blames (record ++ new) call what ending := by
  cases h with
  | passed alone ended failed => exact .passed alone (List.mem_append_left _ ended) failed
  | job ours ended told => exact .job ours (List.mem_append_left _ ended) told

theorem Blamed.append (h : Blamed record ending) : Blamed (record ++ new) ending := by
  obtain ⟨call, what, issued, blames⟩ := h
  exact ⟨call, what, List.mem_append_left _ issued, blames.append⟩

theorem Blames.ended (h : Blames record call what ending) :
    ∃ cause, .ended call cause ∈ record ∧ cause ≠ .success := by
  cases h with
  | passed _ ended failed => exact ⟨_, ended, failed⟩
  | job _ ended told =>
      refine ⟨_, ended, ?_⟩
      rintro rfl
      cases told

theorem Blames.failed (h : Blames record call what ending) : ending ≠ .success := by
  cases h with
  | passed _ _ failed => exact failed
  | job => nofun

theorem Ending.exists_failure {ending : Ending} (h : ending ≠ .success) :
    ∃ fault, ending.failure? = some fault := by
  cases failed : ending.failure? with
  | none => exact absurd (Ending.eq_success_of_failure?_eq_none failed) h
  | some fault => exact ⟨fault, rfl⟩

/-- The call of a job that failed is to blame for the end of the run. -/
theorem Backed.blamed (h : Backed p e) (htarget : e.targets[i]? = some t)
    (hjob : e.jobs[i]? = some (.ended ending)) (failed : ending.failure? = some fault) :
    Blamed e.record (.returned (.error fault)) := by
  obtain ⟨call, issued, ended⟩ := h i t _ htarget hjob
  exact ⟨call, p.call t, issued, .job rfl ended (Ending.failure?_eq_some.mp failed)⟩

/-- One job changes and something joins the record. -/
theorem Backed.replacing {next : Job} (h : Backed p e) (htarget : e.targets[i]? = some t)
    (targets_eq : e'.targets = e.targets) (jobs_eq : e'.jobs = e.jobs.set i next)
    (record_eq : e'.record = e.record ++ new) (backs : Backs p (e.record ++ new) t next) :
    Backed p e' := by
  intro j u job hu hj
  rw [targets_eq] at hu
  rw [jobs_eq, List.getElem?_set] at hj
  rw [record_eq]
  split at hj
  · rename_i same
    subst same
    split at hj
    · cases hj
      cases htarget.symm.trans hu
      exact backs
    · cases hj
  · exact (h j u job hu hj).append

theorem Backed.entering (e : Engine) (stage : Stage) : Backed p (e.entering stage) := by
  intro i t job _ hjob
  obtain ⟨-, -, rfl⟩ := List.mem_map.mp (List.mem_of_getElem? hjob)
  trivial

theorem Accounts.of_phase (stage : e.stage = p.stage) (backed : Backed p e) : e.Accounts := by
  simp only [Accounts, stage]
  cases p <;> exact backed

theorem Accounts.backed (h : e.Accounts) (stage : e.stage = p.stage) : Backed p e := by
  simp only [Accounts, stage] at h
  cases p <;> exact h

theorem PhaseDone.append (done : PhaseDone p targets record)
    (once : (targetsIn p (record ++ new)).Subperm targets) :
    PhaseDone p targets (record ++ new) where
  each_once := by
    have all : targets.Subperm (targetsIn p (record ++ new)) := by
      rw [targetsIn_append]
      exact done.each_once.symm.subperm.trans (List.sublist_append_left _ _).subperm
    exact once.antisymm all
  all_well _ _ issued := done.well_of_once once issued

/-- Commit is not asked for before everything else has gone well. -/
theorem Staged.allWell (h : Staged targets e) (issued : .issued call .commit ∈ e.record)
    (well : .ended call .success ∈ e.record) : AllWell targets e.record := by
  obtain ⟨past, rest, split, due⟩ := exists_past issued h.preceded
  have begun : Begun e.record := split ▸ due.1.append _
  refine ⟨?_, begun, ?_, call, issued, well⟩
  · obtain ⟨b, asked, -⟩ := begun
    obtain ⟨past, rest, split, due⟩ := exists_past asked h.preceded
    have once := h.once .register
    rw [split] at once ⊢
    exact due.1.append once
  · have once := h.once .execute
    rw [split] at once ⊢
    exact due.2.1.append once

/-- Where everything went well, no call has failed. -/
theorem AllWell.well (h : AllWell targets e.record) (staged : Staged targets e) (booked : e.Booked)
    (issued : .issued call what ∈ e.record) (ended : .ended call ending ∈ e.record) :
    ending = .success := by
  cases what with
  | register t => exact booked.ending_unique ended (h.registered.all_well call t issued)
  | begin =>
      obtain ⟨b, asked, well⟩ := h.begun
      obtain rfl := staged.begin_unique issued asked
      exact booked.ending_unique ended well
  | execute t => exact booked.ending_unique ended (h.executed.all_well call t issued)
  | commit =>
      obtain ⟨c, asked, well⟩ := h.committed
      obtain rfl := staged.commit_unique issued asked
      exact booked.ending_unique ended well

theorem AllWell.not_blamed (h : AllWell targets e.record) (staged : Staged targets e)
    (booked : e.Booked) : ¬ Blamed e.record ending := by
  rintro ⟨call, what, issued, blames⟩
  obtain ⟨cause, ended, failed⟩ := blames.ended
  exact failed (h.well staged booked issued ended)

theorem accounts_start (valid : validate targets = .ok ())
    (few : config.workerCount ≤ greatestWorkers) : (start config targets).Accounts := by
  rcases start_cases config targets with ⟨-, -, ⟨fault, refused, -⟩ | ⟨-, many⟩⟩ | ⟨-, -, same⟩
  · cases valid.symm.trans refused
  · exact absurd few (Nat.not_le_of_lt many)
  · rw [same]
    have queued : Backed .register (entering ⟨config.workerCount, targets, .registering,
        config.workerCount, [], 0, [.announced (registerMessage targets.length)]⟩ .registering) :=
      Backed.entering _ _
    exact queued

theorem accounts_step (h : e.Accounts) (staged : Staged targets e) {move : Move}
    (hs : e.step? move = some e') : e'.Accounts := by
  cases move with
  | start i =>
      obtain ⟨p, t, stage, htarget, -, -, rfl⟩ := start?_eq_some hs
      refine Accounts.of_phase (p := p) stage ?_
      exact (h.backed stage).replacing htarget rfl rfl rfl
        (List.mem_append_right _ (List.mem_singleton_self _))
  | finish i ending =>
      obtain ⟨call, busy, running, rfl⟩ := finish?_eq_some hs
      have in_phase (p : Phase) (stage : e.stage = p.stage) : Accounts
          { (e.setJob i (.ended ending)).answered call ending with permits := e.permits + 1 } := by
        obtain ⟨t, htarget⟩ := (staged.at_stage.underWay stage).target_of_job running
        have issued := h.backed stage i t _ htarget running
        refine Accounts.of_phase (p := p) stage ((h.backed stage).replacing htarget rfl rfl rfl ?_)
        exact ⟨call, List.mem_append_left _ issued,
          List.mem_append_right _ (List.mem_singleton_self _)⟩
      simp only [hasJobs] at busy
      split at busy
      · exact in_phase .register ‹_›
      · exact in_phase .execute ‹_›
      · rename_i stage
        simp only [Accounts, answered, setJob, stage] at h ⊢
        exact h.append
      · cases busy
  | refuse i =>
      obtain ⟨fault, stage, -, rfl⟩ := refuse?_eq_some hs
      simp only [Accounts, setJob, stage] at h ⊢
      exact h
  | join i =>
      obtain ⟨p, ending, stage, ended, ⟨-, rfl⟩ | ⟨fault, failed, rfl⟩⟩ := join?_eq_some hs
      all_goals
        obtain ⟨t, htarget⟩ := (staged.at_stage.underWay stage).target_of_job ended
      · refine Accounts.of_phase (p := p) stage ?_
        exact (h.backed stage).replacing htarget rfl rfl (List.append_nil _).symm trivial
      · have blamed := (h.backed stage).blamed htarget ended failed
        exact blamed.append
  | clear =>
      obtain ⟨fault, stage, rfl⟩ := clear?_eq_some hs
      simp only [Accounts, stage] at h
      exact .inr h.append
  | proceed =>
      obtain ⟨-, ⟨-, rfl⟩ | ⟨-, rfl⟩⟩ := proceed?_eq_some hs <;> trivial
  | settle ending =>
      have answered_mem {call : Nat} : .ended call ending ∈
          ((e.answered call ending).returning ending).record := by
        simp [returning, answered]
      have at_stage := staged.at_stage
      rcases settle?_eq_some hs with ⟨call, stage, rfl, rfl⟩ | ⟨call, stage, failed, rfl⟩ |
        ⟨call, stage, rfl⟩
      · exact Accounts.of_phase (p := .execute) rfl (Backed.entering _ _)
      all_goals
        simp only [AtStage, stage] at at_stage
        have issued := List.mem_append_left [.returned ending]
          (List.mem_append_left [.ended call ending] at_stage)
      · exact .inr ⟨call, .begin, issued, .passed (.inl rfl) answered_mem failed⟩
      · by_cases well : ending = .success
        · subst well
          have staged' := staged_step staged hs
          refine .inl ⟨rfl, ?_⟩
          rw [staged'.same_targets]
          exact staged'.allWell issued answered_mem
        · exact .inr ⟨call, .commit, issued, .passed (.inr rfl) answered_mem well⟩

theorem Reachable.accounts (h : Reachable config targets e) (valid : validate targets = .ok ())
    (few : config.workerCount ≤ greatestWorkers) : e.Accounts := by
  induction h with
  | start => exact accounts_start valid few
  | step _ reached hs ih => exact accounts_step ih reached.staged hs

end Engine

end DumpFlow
