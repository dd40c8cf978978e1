import DumpFlow.Proofs.Engine.Ledger

/-!
What an engine leaves behind when it returns. Either it has joined all its jobs, or one of them has
failed and it has given up the others; no job runs on under it.
-/

namespace DumpFlow.Engine

/-- The calls that follow a phase have gone well, but for the one that is open. -/
def Passed (e : Engine) : Prop :=
  ∀ call what, what = .begin ∨ what = .commit → .issued call what ∈ e.record →
    e.stage.call? = some call ∨ .ended call .success ∈ e.record

/-- A run that has not returned has gone past no call that failed, and past no stop. -/
def Unbroken (e : Engine) : Prop :=
  match e.stage with
  | .returned _ => True
  | .stopping fault => e.Passed ∧ .stopped fault ∈ e.record
  | _ => e.Passed ∧ ∀ fault, .stopped fault ∉ e.record

variable {e e' : Engine} {config : EngineConfig} {targets : List Target} {fault : DumpFault}
  {ending : Ending} {move : Move} {p : Phase} {new : List EngineEffect}

theorem Unbroken.in_phase (h : e.Unbroken) (stage : e.stage = p.stage) :
    e.Passed ∧ ∀ fault, .stopped fault ∉ e.record := by
  simp only [Unbroken, stage] at h
  cases p <;> exact h

theorem Passed.append (h : e.Passed) (none_open : e.stage.call? = none)
    (record_eq : e'.record = e.record ++ new)
    (silent : ∀ call what, what = .begin ∨ what = .commit → .issued call what ∉ new) :
    e'.Passed := by
  intro call what follows issued
  rw [record_eq] at issued ⊢
  rcases List.mem_append.mp issued with old | late
  · rcases h call what follows old with waits | well
    · cases none_open.symm.trans waits
    · exact .inr (List.mem_append_left _ well)
  · exact absurd late (silent call what follows)

/-- The call that follows a phase is made, and the stage waits for it. -/
theorem Passed.issue (h : e.Passed) (none_open : e.stage.call? = none) {stage : Stage}
    (waits : stage.call? = some e.calls) (what : SessionCall) :
    Passed ({ e with stage := stage }.issuing what) := by
  intro call what' follows issued
  rcases List.mem_append.mp issued with old | new
  · rcases h call what' follows old with open_ | well
    · cases none_open.symm.trans open_
    · exact .inr (List.mem_append_left _ well)
  · obtain ⟨rfl, -⟩ : call = e.calls ∧ what' = what := by simpa using new
    exact .inl waits

/-- Neither a call that follows a phase nor a stop joins the record. -/
theorem Unbroken.keep (h : e.Unbroken) (none_open : e.stage.call? = none)
    (stage_eq : e'.stage = e.stage) (record_eq : e'.record = e.record ++ new)
    (silent : ∀ call what, what = .begin ∨ what = .commit → .issued call what ∉ new)
    (steady : ∀ fault, .stopped fault ∉ new) : e'.Unbroken := by
  have passed (before : e.Passed) : e'.Passed := before.append none_open record_eq silent
  have never (before : ∀ fault, .stopped fault ∉ e.record) (fault : DumpFault) :
      .stopped fault ∉ e'.record := by
    rw [record_eq, List.mem_append]
    exact not_or_intro (before fault) (steady fault)
  simp only [Unbroken] at h ⊢
  rw [stage_eq]
  cases stage : e.stage with
  | returned ending => trivial
  | stopping fault =>
      rw [stage] at h
      exact ⟨passed h.1, record_eq ▸ List.mem_append_left _ h.2⟩
  | registering | executing =>
      rw [stage] at h
      exact ⟨passed h.1, never h.2⟩
  | beginning call | committing call =>
      rw [stage] at none_open
      cases none_open

theorem unbroken_start (config : EngineConfig) (targets : List Target) :
    (start config targets).Unbroken := by
  rcases start_cases config targets with ⟨ending, same, -⟩ | ⟨-, -, same⟩
  · rw [same]
    trivial
  · rw [same]
    exact ⟨fun call what _ issued => by simp at issued, by simp⟩

theorem unbroken_step (h : e.Unbroken) (hs : e.step? move = some e') : e'.Unbroken := by
  cases move with
  | start i =>
      obtain ⟨p, t, stage, -, -, -, rfl⟩ := start?_eq_some hs
      have none_open : e.stage.call? = none := by rw [stage, Phase.stage_call?]
      refine h.keep none_open rfl rfl (fun call what follows issued => ?_) (by simp)
      obtain ⟨-, rfl⟩ : call = e.calls ∧ what = p.call t := by simpa [setJob] using issued
      rcases follows with begin | commit
      · exact p.call_ne_begin t begin
      · exact p.call_ne_commit t commit
  | finish i ending =>
      obtain ⟨call, busy, -, rfl⟩ := finish?_eq_some hs
      exact h.keep (call?_of_hasJobs busy) rfl rfl (by simp) (by simp)
  | refuse i =>
      obtain ⟨fault, stage, -, rfl⟩ := refuse?_eq_some hs
      have none_open : e.stage.call? = none := by rw [stage]; rfl
      exact h.keep none_open rfl (List.append_nil _).symm (by simp) (by simp)
  | join i =>
      obtain ⟨p, ending, stage, -, ⟨-, rfl⟩ | ⟨fault, -, rfl⟩⟩ := join?_eq_some hs
      all_goals have none_open : e.stage.call? = none := by rw [stage, Phase.stage_call?]
      · exact h.keep none_open rfl (List.append_nil _).symm (by simp) (by simp)
      · have passed := (h.in_phase stage).1
        exact ⟨passed.append none_open rfl (by simp), List.mem_append_right _ (by simp)⟩
  | clear =>
      obtain ⟨fault, stage, rfl⟩ := clear?_eq_some hs
      trivial
  | proceed =>
      obtain ⟨-, ⟨stage, rfl⟩ | ⟨stage, rfl⟩⟩ := proceed?_eq_some hs
      · obtain ⟨passed, never⟩ := h.in_phase (p := .register) stage
        exact ⟨passed.issue (by rw [stage]; rfl) rfl .begin, by simpa [issuing] using never⟩
      · obtain ⟨passed, never⟩ := h.in_phase (p := .execute) stage
        exact ⟨passed.issue (by rw [stage]; rfl) rfl .commit, by simpa [issuing] using never⟩
  | settle ending =>
      rcases settle?_eq_some hs with ⟨call, stage, rfl, rfl⟩ | ⟨call, -, -, rfl⟩ | ⟨call, -, rfl⟩
      · simp only [Unbroken, stage] at h
        refine ⟨fun c what follows issued => .inr ?_, ?_⟩
        · have old : .issued c what ∈ e.record := by
            simpa [entering, announcing, answered] using issued
          rcases h.1 c what follows old with waits | well
          · obtain rfl : call = c := by simpa [stage, Stage.call?] using waits
            simp [entering, announcing, answered]
          · simp [entering, announcing, answered, well]
        · simpa [entering, announcing, answered] using h.2
      all_goals trivial

theorem Reachable.unbroken (h : Reachable config targets e) : e.Unbroken := by
  induction h with
  | start => exact unbroken_start config targets
  | step _ _ hs ih => exact unbroken_step ih hs

/-- The jobs that a run has given up when it returned are those of a phase that was stopped, and
every call between the phases has gone well then. -/
inductive AtRest (e : Engine) : Ending → Prop where
  | joined {ending : Ending} : (∀ job ∈ e.jobs, job = .joined) →
      (∀ fault, .stopped fault ∉ e.record) → AtRest e ending
  | cleared (fault : DumpFault) : .stopped fault ∈ e.record → e.Passed →
      (∀ job ∈ e.jobs, job.isSettled = true) → AtRest e (.returned (.error fault))

theorem isSettled_giveUp (job : Job) : (giveUp job).isSettled = true := by
  cases job <;> rfl

theorem Reachable.at_rest (h : Reachable config targets e) (stage : e.stage = .returned ending) :
    AtRest e ending := by
  cases h with
  | start =>
      rcases start_cases config targets with ⟨ending', same, -⟩ | ⟨-, -, same⟩
      · rw [same]
        exact .joined (by simp) (by simp)
      · rw [same] at stage
        cases stage
  | @step e _ move before hs =>
      cases move with
      | start i =>
          obtain ⟨p, t, here, -, -, -, rfl⟩ := start?_eq_some hs
          cases p <;> cases here.symm.trans stage
      | finish i ending' =>
          obtain ⟨call, busy, -, rfl⟩ := finish?_eq_some hs
          have stage : e.stage = .returned ending := stage
          simp [hasJobs, stage] at busy
      | refuse i =>
          obtain ⟨fault, here, -, rfl⟩ := refuse?_eq_some hs
          cases here.symm.trans stage
      | join i =>
          obtain ⟨p, ending', here, -, ⟨-, rfl⟩ | ⟨fault, -, rfl⟩⟩ := join?_eq_some hs
          · cases p <;> cases here.symm.trans stage
          · cases stage
      | clear =>
          obtain ⟨fault, here, rfl⟩ := clear?_eq_some hs
          cases stage
          have unbroken := before.unbroken
          simp only [Unbroken, here] at unbroken
          obtain ⟨passed, stopped⟩ := unbroken
          have none_open : e.stage.call? = none := by rw [here]; rfl
          refine .cleared fault (List.mem_append_left _ stopped)
            (passed.append none_open rfl (by simp)) fun job member => ?_
          obtain ⟨job, -, rfl⟩ := List.mem_map.mp member
          exact isSettled_giveUp job
      | proceed =>
          obtain ⟨-, ⟨-, rfl⟩ | ⟨-, rfl⟩⟩ := proceed?_eq_some hs <;> cases stage
      | settle ending' =>
          rcases settle?_eq_some hs with ⟨call, here, -, rfl⟩ | ⟨call, here, -, rfl⟩ |
            ⟨call, here, rfl⟩
          · cases stage
          all_goals
            have unbroken := before.unbroken
            simp only [Unbroken, here] at unbroken
            refine .joined (before.booked.idle (by simp [here, Stage.call?])) fun fault => ?_
            simpa [returning, answered] using unbroken.2 fault

theorem AtRest.not_running (h : AtRest e ending) {call i : Nat} :
    e.jobs[i]? ≠ some (.running call) := by
  intro running
  cases h with
  | joined all => cases all _ (List.mem_of_getElem? running)
  | cleared _ _ _ all => cases all _ (List.mem_of_getElem? running)

end DumpFlow.Engine
