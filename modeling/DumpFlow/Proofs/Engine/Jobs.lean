import DumpFlow.Proofs.Engine.Ledger
import Mathlib.Data.List.Perm.Subperm

/-!
The jobs of a phase and the calls that they have made. Jobs are started, ended and joined one by
one, in any order; `UnderWay` says what they amount to at any time, and `UnderWay.done` what that
comes to once all of them are joined.
-/

namespace DumpFlow.Engine

open scoped List

/-- The targets of the calls that the jobs of a phase have made. -/
def targetsIn (p : Phase) (record : List EngineEffect) : List Target :=
  (callsIn record).filterMap fun c => p.target? c.2

@[simp]
theorem targetsIn_append (p : Phase) (r s : List EngineEffect) :
    targetsIn p (r ++ s) = targetsIn p r ++ targetsIn p s := by
  simp [targetsIn]

theorem mem_targetsIn {p : Phase} {record : List EngineEffect} {t : Target} :
    t ∈ targetsIn p record ↔ ∃ call, .issued call (p.call t) ∈ record := by
  simp [targetsIn]

theorem targetsIn_issued (p : Phase) (call : Nat) (what : SessionCall) :
    targetsIn p [.issued call what] = (p.target? what).toList := by
  simp only [targetsIn, callsIn, List.filterMap_cons, List.filterMap_nil]
  cases p.target? what <;> rfl

/-- All calls of a phase are made, one for each target, and all of them have returned well. -/
structure PhaseDone (p : Phase) (targets : List Target) (record : List EngineEffect) : Prop where
  each_once : targetsIn p record ~ targets
  all_well : ∀ call t, .issued call (p.call t) ∈ record → .ended call .success ∈ record

def started? : Target × Job → Option Target
  | (_, .queued) => none
  | (t, _) => some t

/-- The targets whose jobs have made their call. -/
def startedTargets (e : Engine) : List Target :=
  (e.targets.zip e.jobs).filterMap started?

/-- What is known of a phase that the engine is in. -/
structure UnderWay (p : Phase) (e : Engine) : Prop where
  jobs_length : e.jobs.length = e.targets.length
  started : targetsIn p e.record ~ e.startedTargets
  /-- A call whose end the engine has not looked at is that of a job. -/
  accounted : ∀ call t, .issued call (p.call t) ∈ e.record →
    (∃ i : Nat, e.jobs[i]? = some (.running call)) ∨
    ∃ ending, .ended call ending ∈ e.record ∧
      (ending = .success ∨ ∃ i : Nat, e.jobs[i]? = some (.ended ending))

variable {e : Engine} {p : Phase} {i : Nat} {t : Target}

theorem startedTargets_subperm (e : Engine) : e.startedTargets <+~ e.targets := by
  have sublist : ∀ (targets : List Target) (jobs : List Job),
      (targets.zip jobs).filterMap started? <+ targets := by
    intro targets
    induction targets with
    | nil => intro jobs; simp
    | cons t targets ih =>
        intro jobs
        cases jobs with
        | nil => simp
        | cons job jobs =>
            rw [List.zip_cons_cons, List.filterMap_cons]
            cases job with
            | queued => exact (ih jobs).cons t
            | running _ | ended _ | joined | dropped _ => exact (ih jobs).cons_cons t
  exact (sublist e.targets e.jobs).subperm

theorem started_set {job : Job} (htarget : e.targets[i]? = some t) (hjob : e.jobs[i]? = some job) :
    ∃ others, e.startedTargets ~ (started? (t, job)).toList ++ others ∧
      ∀ next : Job, (e.setJob i next).startedTargets ~ (started? (t, next)).toList ++ others := by
  have split (pair : Target × Job) (rest : List (Target × Job)) :
      (pair :: rest).filterMap started? = (started? pair).toList ++ rest.filterMap started? := by
    rw [List.filterMap_cons]
    cases started? pair <;> rfl
  have here : (e.targets.zip e.jobs)[i]? = some (t, job) := by
    simp [List.getElem?_zip_eq_some, htarget, hjob]
  obtain ⟨rest, before, after⟩ := exists_perm_set here
  refine ⟨rest.filterMap started?, ?_, fun next => ?_⟩
  · simpa only [startedTargets, split] using before.filterMap started?
  · have replaced := (after (t, next)).filterMap started?
    rw [split, ← zip_set next htarget] at replaced
    exact replaced

namespace UnderWay

theorem target_of_job (h : UnderWay p e) {job : Job} (hjob : e.jobs[i]? = some job) :
    ∃ t, e.targets[i]? = some t := by
  have small : i < e.targets.length := by
    rw [← h.jobs_length]
    exact (List.getElem?_eq_some_iff.mp hjob).1
  exact ⟨e.targets[i], List.getElem?_eq_getElem small⟩

theorem done (h : UnderWay p e) (joined : ∀ job ∈ e.jobs, job = .joined) :
    PhaseDone p e.targets e.record where
  each_once := by
    have all_started : e.startedTargets = e.targets := by
      have keep : e.startedTargets = (e.targets.zip e.jobs).map Prod.fst := by
        rw [startedTargets, ← List.filterMap_eq_map]
        refine List.filterMap_congr fun pair member => ?_
        rw [show pair = (pair.1, Job.joined) from
          Prod.ext rfl (joined _ (List.of_mem_zip member).2)]
        rfl
      rw [keep, List.map_fst_zip (Nat.le_of_eq h.jobs_length.symm)]
    exact all_started ▸ h.started
  all_well call t issued := by
    rcases h.accounted call t issued with ⟨i, running⟩ | ⟨ending, ended, rfl | ⟨i, waiting⟩⟩
    · cases joined _ (List.mem_of_getElem? running)
    · exact ended
    · cases joined _ (List.mem_of_getElem? waiting)

theorem start (h : UnderWay p e) (htarget : e.targets[i]? = some t)
    (hjob : e.jobs[i]? = some .queued) :
    UnderWay p
      ({ e.setJob i (.running e.calls) with permits := e.permits - 1 }.issuing (p.call t)) where
  jobs_length := by simpa [issuing, setJob] using h.jobs_length
  started := by
    obtain ⟨others, before, after⟩ := started_set htarget hjob
    have made : targetsIn p (e.record ++ [.issued e.calls (p.call t)]) ~ t :: others := by
      rw [targetsIn_append, targetsIn_issued, Phase.target?_call]
      exact ((h.started.trans before).append_right [t]).trans (List.perm_append_singleton t others)
    exact made.trans (after (.running e.calls)).symm
  accounted call u issued := by
    have small : i < e.jobs.length := (List.getElem?_eq_some_iff.mp hjob).1
    rcases List.mem_append.mp issued with old | new
    · rcases h.accounted call u old with ⟨j, running⟩ | ⟨ending, ended, well | ⟨j, waiting⟩⟩
      · have other : i ≠ j := by rintro rfl; simp [hjob] at running
        exact .inl ⟨j, by simpa [issuing, setJob, List.getElem?_set_ne other] using running⟩
      · exact .inr ⟨ending, List.mem_append_left _ ended, .inl well⟩
      · have other : i ≠ j := by rintro rfl; simp [hjob] at waiting
        exact .inr ⟨ending, List.mem_append_left _ ended,
          .inr ⟨j, by simpa [issuing, setJob, List.getElem?_set_ne other] using waiting⟩⟩
    · obtain ⟨rfl, -⟩ : call = e.calls ∧ p.call u = p.call t := by
        simpa [setJob] using new
      exact .inl ⟨i, by simp [issuing, setJob, small]⟩

theorem finish {call : Nat} {ending : Ending} (h : UnderWay p e)
    (hjob : e.jobs[i]? = some (.running call)) :
    UnderWay p
      { (e.setJob i (.ended ending)).answered call ending with permits := e.permits + 1 } where
  jobs_length := by simpa [answered, setJob] using h.jobs_length
  started := by
    obtain ⟨t, htarget⟩ := h.target_of_job hjob
    obtain ⟨others, before, after⟩ := started_set htarget hjob
    have unchanged : targetsIn p (e.record ++ [.ended call ending]) = targetsIn p e.record := by
      simp [targetsIn, callsIn]
    exact unchanged ▸ (h.started.trans before).trans (after (.ended ending)).symm
  accounted call' u issued := by
    have small : i < e.jobs.length := (List.getElem?_eq_some_iff.mp hjob).1
    have old : .issued call' (p.call u) ∈ e.record := by simpa [answered, setJob] using issued
    rcases h.accounted call' u old with ⟨j, running⟩ | ⟨ending', ended, well | ⟨j, waiting⟩⟩
    · by_cases same : i = j
      · subst same
        obtain rfl : call = call' := by simpa [hjob] using running
        exact .inr ⟨ending, List.mem_append_right _ (List.mem_singleton.mpr rfl),
          .inr ⟨i, by simp [answered, setJob, small]⟩⟩
      · exact .inl ⟨j, by simpa [answered, setJob, List.getElem?_set_ne same] using running⟩
    · exact .inr ⟨ending', List.mem_append_left _ ended, .inl well⟩
    · have other : i ≠ j := by rintro rfl; simp [hjob] at waiting
      exact .inr ⟨ending', List.mem_append_left _ ended,
        .inr ⟨j, by simpa [answered, setJob, List.getElem?_set_ne other] using waiting⟩⟩

theorem join (h : UnderWay p e) (hjob : e.jobs[i]? = some (.ended .success)) :
    UnderWay p (e.setJob i .joined) where
  jobs_length := by simpa [setJob] using h.jobs_length
  started := by
    obtain ⟨t, htarget⟩ := h.target_of_job hjob
    obtain ⟨others, before, after⟩ := started_set htarget hjob
    exact (h.started.trans before).trans (after .joined).symm
  accounted call u issued := by
    rcases h.accounted call u issued with ⟨j, running⟩ | ⟨ending, ended, well | ⟨j, waiting⟩⟩
    · have other : i ≠ j := by rintro rfl; simp [hjob] at running
      exact .inl ⟨j, by simpa [setJob, List.getElem?_set_ne other] using running⟩
    · exact .inr ⟨ending, ended, .inl well⟩
    · by_cases same : i = j
      · subst same
        obtain rfl : Ending.success = ending := by simpa [hjob] using waiting
        exact .inr ⟨.success, ended, .inl rfl⟩
      · exact .inr ⟨ending, ended,
          .inr ⟨j, by simpa [setJob, List.getElem?_set_ne same] using waiting⟩⟩

theorem entering {stage : Stage} (none_made : targetsIn p e.record = []) :
    UnderWay p (e.entering stage) where
  jobs_length := by simp [Engine.entering]
  started := by
    have none_started : (e.entering stage).startedTargets = [] := by
      rw [startedTargets, List.filterMap_eq_nil_iff]
      rintro ⟨t, job⟩ member
      obtain ⟨-, queued⟩ := List.of_mem_zip member
      obtain ⟨-, -, rfl⟩ := List.mem_map.mp queued
      rfl
    rw [none_started, show (e.entering stage).record = e.record from rfl, none_made]
  accounted call t issued := by
    have made : t ∈ targetsIn p e.record := mem_targetsIn.mpr ⟨call, issued⟩
    simp [none_made] at made

end UnderWay

end DumpFlow.Engine
