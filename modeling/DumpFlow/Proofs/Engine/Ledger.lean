import DumpFlow.Proofs.Engine.Moves
import DumpFlow.Proofs.Precedence
import Mathlib.Data.List.Nodup

/-!
The calls of an engine, counted. Calls are numbered without gaps, and each of them is either open or
has ended once. What a single call was asked for and how it ended can therefore be read off the
record by its number.
-/

namespace DumpFlow

open scoped List

namespace Engine

/-- The calls in a record with their numbers, oldest first. -/
def callsIn (record : List EngineEffect) : List (Nat × SessionCall) :=
  record.filterMap fun
    | .issued call what => some (call, what)
    | _ => none

def endedIn (record : List EngineEffect) : List (Nat × Ending) :=
  record.filterMap fun
    | .ended call ending => some (call, ending)
    | _ => none

@[simp]
theorem callsIn_append (r s : List EngineEffect) : callsIn (r ++ s) = callsIn r ++ callsIn s :=
  List.filterMap_append

@[simp]
theorem endedIn_append (r s : List EngineEffect) : endedIn (r ++ s) = endedIn r ++ endedIn s :=
  List.filterMap_append

@[simp]
theorem mem_callsIn {record : List EngineEffect} {call : Nat} {what : SessionCall} :
    (call, what) ∈ callsIn record ↔ .issued call what ∈ record := by
  simp only [callsIn, List.mem_filterMap]
  constructor
  · rintro ⟨effect, member, same⟩
    split at same <;> simp_all
  · intro member
    exact ⟨_, member, rfl⟩

@[simp]
theorem mem_endedIn {record : List EngineEffect} {call : Nat} {ending : Ending} :
    (call, ending) ∈ endedIn record ↔ .ended call ending ∈ record := by
  simp only [endedIn, List.mem_filterMap]
  constructor
  · rintro ⟨effect, member, same⟩
    split at same <;> simp_all
  · intro member
    exact ⟨_, member, rfl⟩

end Engine

/-- The call that a stage waits for. -/
def Stage.call? : Stage → Option Nat
  | .beginning call | .committing call => some call
  | _ => none

/-- The call that a job has made, unless it has ended. -/
def Job.call? : Job → Option Nat
  | .running call => some call
  | .dropped call => call
  | _ => none

namespace Engine

@[simp]
theorem Phase.stage_call? (p : Phase) : p.stage.call? = none := by
  cases p <;> rfl

@[simp]
theorem call?_giveUp (job : Job) : (giveUp job).call? = job.call? := by
  cases job <;> rfl

def openCalls (e : Engine) : List Nat :=
  e.stage.call?.toList ++ e.jobs.filterMap Job.call?

structure Booked (e : Engine) : Prop where
  numbered : (callsIn e.record).map Prod.fst = List.range e.calls
  ledger : (e.openCalls ++ (endedIn e.record).map Prod.fst).Perm (List.range e.calls)
  /-- While a call that follows a phase is open, no job is left. -/
  idle : e.stage.call? ≠ none → ∀ job ∈ e.jobs, job = .joined

theorem calls_set {jobs : List Job} {i : Nat} {job : Job} (h : jobs[i]? = some job) :
    ∃ others, (jobs.filterMap Job.call?).Perm (job.call?.toList ++ others) ∧
      ∀ next : Job, ((jobs.set i next).filterMap Job.call?).Perm (next.call?.toList ++ others) := by
  have split (job : Job) (rest : List Job) :
      (job :: rest).filterMap Job.call? = job.call?.toList ++ rest.filterMap Job.call? := by
    rw [List.filterMap_cons]
    cases job.call? <;> rfl
  obtain ⟨rest, before, after⟩ := exists_perm_set h
  refine ⟨rest.filterMap Job.call?, ?_, fun next => ?_⟩
  · simpa only [split] using before.filterMap Job.call?
  · simpa only [split] using (after next).filterMap Job.call?

theorem all_isJoined {jobs : List Job} (h : jobs.all Job.isJoined = true) :
    ∀ job ∈ jobs, job = .joined := by
  intro job member
  have joined := List.all_eq_true.mp h job member
  cases job <;> first | rfl | cases joined

theorem calls_joined {jobs : List Job} (h : ∀ job ∈ jobs, job = .joined) :
    jobs.filterMap Job.call? = [] := by
  rw [List.filterMap_eq_nil_iff]
  intro job member
  rw [h job member]
  rfl

variable {e e' : Engine}

/-- A step that makes the next call. -/
theorem Booked.issue (h : e.Booked) {what : SessionCall}
    (hcalls : e'.calls = e.calls + 1)
    (hrecord : e'.record = e.record ++ [.issued e.calls what])
    (hopen : e'.openCalls.Perm (e.calls :: e.openCalls))
    (hidle : e'.stage.call? ≠ none → ∀ job ∈ e'.jobs, job = .joined) : e'.Booked where
  numbered := by
    rw [hrecord, hcalls, callsIn_append, List.map_append, h.numbered, List.range_succ]
    rfl
  ledger := by
    rw [hrecord, hcalls, endedIn_append, List.range_succ]
    have none_ended : endedIn [.issued e.calls what] = [] := rfl
    rw [none_ended, List.append_nil]
    calc e'.openCalls ++ (endedIn e.record).map Prod.fst
        ~ e.calls :: (e.openCalls ++ (endedIn e.record).map Prod.fst) := hopen.append_right _
      _ ~ e.calls :: List.range e.calls := h.ledger.cons _
      _ ~ List.range e.calls ++ [e.calls] := (List.perm_append_singleton ..).symm
  idle := hidle

theorem Booked.answer (h : e.Booked) {call : Nat} {ending : Ending} {others : List EngineEffect}
    (hcalls : e'.calls = e.calls)
    (hrecord : e'.record = e.record ++ .ended call ending :: others)
    (hothers : callsIn others = [] ∧ endedIn others = [])
    (hopen : e.openCalls.Perm (call :: e'.openCalls))
    (hidle : e'.stage.call? ≠ none → ∀ job ∈ e'.jobs, job = .joined) : e'.Booked where
  numbered := by
    have none_issued : callsIn (.ended call ending :: others) = callsIn others := rfl
    rw [hrecord, hcalls, callsIn_append, none_issued, hothers.1, List.append_nil, h.numbered]
  ledger := by
    have one_ended : endedIn (.ended call ending :: others) = (call, ending) :: endedIn others :=
      rfl
    rw [hrecord, hcalls, endedIn_append, one_ended, hothers.2, List.map_append]
    calc e'.openCalls ++ ((endedIn e.record).map Prod.fst ++ [call])
        ~ (call :: e'.openCalls) ++ (endedIn e.record).map Prod.fst := by
          rw [← List.append_assoc]
          exact List.perm_append_singleton ..
      _ ~ e.openCalls ++ (endedIn e.record).map Prod.fst := hopen.symm.append_right _
      _ ~ List.range e.calls := h.ledger
  idle := hidle

theorem Booked.keep (h : e.Booked) {others : List EngineEffect}
    (hcalls : e'.calls = e.calls) (hrecord : e'.record = e.record ++ others)
    (hothers : callsIn others = [] ∧ endedIn others = [])
    (hopen : e'.openCalls.Perm e.openCalls)
    (hidle : e'.stage.call? ≠ none → ∀ job ∈ e'.jobs, job = .joined) : e'.Booked where
  numbered := by
    rw [hrecord, hcalls, callsIn_append, hothers.1, List.append_nil, h.numbered]
  ledger := by
    rw [hrecord, hcalls, endedIn_append, hothers.2, List.append_nil]
    exact (hopen.append_right _).trans h.ledger
  idle := hidle

theorem openCalls_of_phase {p : Phase} (h : e.stage = p.stage) :
    e.openCalls = e.jobs.filterMap Job.call? := by
  simp [openCalls, h]

theorem call?_of_hasJobs (busy : e.hasJobs = true) : e.stage.call? = none := by
  simp only [hasJobs] at busy
  split at busy <;> simp_all [Stage.call?]

theorem booked_start (config : EngineConfig) (targets : List Target) :
    (start config targets).Booked := by
  rcases start_cases config targets with ⟨ending, same, -⟩ | ⟨-, -, same⟩
  · rw [same]
    exact ⟨rfl, List.Perm.refl _, fun none_open => absurd rfl none_open⟩
  · rw [same]
    refine ⟨rfl, ?_, fun none_open => absurd rfl none_open⟩
    simp [openCalls, Stage.call?, Job.call?, endedIn]

theorem booked_step (h : e.Booked) {move : Move} (hs : e.step? move = some e') : e'.Booked := by
  cases move with
  | start i =>
      obtain ⟨p, t, stage, -, queued, -, rfl⟩ := start?_eq_some hs
      obtain ⟨others, before, after⟩ := calls_set queued
      refine h.issue rfl rfl ?_
        (fun none_open => absurd (by simp [issuing, setJob, stage]) none_open)
      rw [openCalls_of_phase stage, openCalls_of_phase (p := p) (by exact stage)]
      exact (after _).trans (before.symm.cons _)
  | finish i ending =>
      obtain ⟨call, busy, running, rfl⟩ := finish?_eq_some hs
      obtain ⟨others, before, after⟩ := calls_set running
      have none_waits := call?_of_hasJobs busy
      refine h.answer rfl rfl ⟨rfl, rfl⟩ ?_ (fun none_open => absurd none_waits none_open)
      simp only [openCalls, answered, setJob, none_waits, Option.toList_none, List.nil_append]
      exact before.trans ((after (.ended ending)).symm.cons call)
  | refuse i =>
      obtain ⟨fault, stage, queued, rfl⟩ := refuse?_eq_some hs
      obtain ⟨others, before, after⟩ := calls_set queued
      refine h.keep rfl (List.append_nil _).symm ⟨rfl, rfl⟩ ?_
        (fun none_open => absurd (by simp [setJob, stage, Stage.call?]) none_open)
      exact ((after (.ended refusal)).trans before.symm).append_left _
  | join i =>
      obtain ⟨p, ending, stage, ended, ⟨-, rfl⟩ | ⟨fault, -, rfl⟩⟩ := join?_eq_some hs
      · obtain ⟨others, before, after⟩ := calls_set ended
        refine h.keep rfl (List.append_nil _).symm ⟨rfl, rfl⟩ ?_
          (fun none_open => absurd (by simp [setJob, stage]) none_open)
        exact ((after .joined).trans before.symm).append_left _
      · obtain ⟨others, before, after⟩ := calls_set ended
        refine h.keep rfl rfl ⟨rfl, rfl⟩ ?_ (fun none_open => absurd rfl none_open)
        rw [openCalls_of_phase stage]
        exact (after .joined).trans before.symm
  | clear =>
      obtain ⟨fault, stage, rfl⟩ := clear?_eq_some hs
      refine h.keep rfl rfl ⟨rfl, rfl⟩ ?_ (fun none_open => absurd rfl none_open)
      simp [openCalls, returning, stage, Stage.call?, List.filterMap_map]
  | proceed =>
      obtain ⟨joined, ⟨stage, rfl⟩ | ⟨stage, rfl⟩⟩ := proceed?_eq_some hs
      all_goals
        refine h.issue rfl rfl ?_ (fun _ => all_isJoined joined)
        simp [openCalls, issuing, stage, Stage.call?]
  | settle ending =>
      rcases settle?_eq_some hs with ⟨call, stage, -, rfl⟩ | ⟨call, stage, -, rfl⟩ |
        ⟨call, stage, rfl⟩
      all_goals
        have idle := calls_joined (h.idle (by simp [stage, Stage.call?]))
      · refine h.answer rfl (List.append_assoc ..) ⟨rfl, rfl⟩ ?_
          (fun none_open => absurd rfl none_open)
        simp [openCalls, entering, announcing, answered, stage, Stage.call?, idle, Job.call?]
      · refine h.answer rfl (List.append_assoc ..) ⟨rfl, rfl⟩ ?_
          (fun none_open => absurd rfl none_open)
        simp [openCalls, returning, answered, stage, Stage.call?]
      · refine h.answer rfl (List.append_assoc ..) ⟨rfl, rfl⟩ ?_
          (fun none_open => absurd rfl none_open)
        simp [openCalls, returning, answered, stage, Stage.call?]

theorem Reachable.booked {config : EngineConfig} {targets : List Target}
    (h : Reachable config targets e) : e.Booked := by
  induction h with
  | start => exact booked_start config targets
  | step _ _ hs ih => exact booked_step ih hs

namespace Booked

theorem call_unique (h : e.Booked) {call : Nat} {what what' : SessionCall}
    (hw : .issued call what ∈ e.record) (hw' : .issued call what' ∈ e.record) : what = what' := by
  have distinct : ((callsIn e.record).map Prod.fst).Nodup := h.numbered ▸ List.nodup_range
  exact Prod.ext_iff.mp (List.inj_on_of_nodup_map distinct (mem_callsIn.mpr hw)
    (mem_callsIn.mpr hw') rfl) |>.2

theorem ending_unique (h : e.Booked) {call : Nat} {ending ending' : Ending}
    (he : .ended call ending ∈ e.record) (he' : .ended call ending' ∈ e.record) :
    ending = ending' := by
  have distinct : ((endedIn e.record).map Prod.fst).Nodup :=
    (List.nodup_append.mp (h.ledger.nodup_iff.mpr List.nodup_range)).2.1
  exact Prod.ext_iff.mp (List.inj_on_of_nodup_map distinct (mem_endedIn.mpr he)
    (mem_endedIn.mpr he') rfl) |>.2

end Booked

end Engine

end DumpFlow
