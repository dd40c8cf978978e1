import DumpFlow.Engine.Joint
import DumpFlow.Proofs.Engine.Jobs

/-!
The two barriers of a run. Nothing in the engine waits for a phase as a whole: it joins one job
after the other, and the pool of permits is the same in both phases. That begin and commit
nevertheless come after all calls of a phase is carried by what is known of the jobs that are not
joined yet.
-/

namespace DumpFlow

open scoped List

/-- How far a run has come when it makes a call. -/
def SessionCall.rank : SessionCall → Nat
  | .register _ => 0
  | .begin => 1
  | .execute _ => 2
  | .commit => 3

def Stage.rank : Stage → Nat
  | .registering => 0
  | .beginning _ => 1
  | .executing => 2
  | .committing _ | .stopping _ | .returned _ => 3

namespace Engine

def Begun (record : List EngineEffect) : Prop :=
  ∃ call, .issued call .begin ∈ record ∧ .ended call .success ∈ record

/-- What has to be on record when an effect joins it. -/
def Due (targets : List Target) (past : List EngineEffect) : EngineEffect → Prop
  | .issued _ .begin => PhaseDone .register targets past ∧ ∀ c ∈ callsIn past, c.2.rank < 1
  | .issued _ (.execute _) => Begun past
  | .issued _ .commit =>
    Begun past ∧ PhaseDone .execute targets past ∧ ∀ c ∈ callsIn past, c.2.rank < 3
  | _ => True

def AtStage (e : Engine) : Prop :=
  match e.stage with
  | .registering => UnderWay .register e
  | .beginning call => .issued call .begin ∈ e.record
  | .executing => Begun e.record ∧ UnderWay .execute e
  | .committing call => .issued call .commit ∈ e.record
  | .stopping _ | .returned _ => True

structure Staged (targets : List Target) (e : Engine) : Prop where
  same_targets : e.targets = targets
  ranked : ∀ c ∈ callsIn e.record, c.2.rank ≤ e.stage.rank
  once : ∀ p, targetsIn p e.record <+~ targets
  preceded : Preceded (Due targets) e.record
  at_stage : e.AtStage

variable {e e' : Engine} {targets : List Target} {p : Phase}

theorem Phase.rank_call (p : Phase) (t : Target) : (p.call t).rank = p.stage.rank := by
  cases p <;> rfl

theorem Begun.append {r : List EngineEffect} (h : Begun r) (s : List EngineEffect) :
    Begun (r ++ s) := by
  obtain ⟨call, issued, ended⟩ := h
  exact ⟨call, List.mem_append_left s issued, List.mem_append_left s ended⟩

theorem AtStage.underWay (h : e.AtStage) (stage : e.stage = p.stage) : UnderWay p e := by
  simp only [AtStage] at h
  cases p with
  | register => simpa [stage, Phase.stage] using h
  | execute => exact (by simpa [stage, Phase.stage] using h : _ ∧ UnderWay .execute e).2

theorem AtStage.begun (h : e.AtStage) (stage : e.stage = .executing) : Begun e.record := by
  simp only [AtStage] at h
  rw [stage] at h
  exact h.1

theorem atStage_of_phase (stage : e.stage = p.stage) (under : UnderWay p e)
    (begun : p = .execute → Begun e.record) : e.AtStage := by
  simp only [AtStage]
  rw [stage]
  cases p with
  | register => exact under
  | execute => exact ⟨begun rfl, under⟩

theorem targetsIn_eq_nil (ranked : ∀ c ∈ callsIn e.record, c.2.rank < p.stage.rank) :
    targetsIn p e.record = [] := by
  rw [targetsIn, List.filterMap_eq_nil_iff]
  intro c member
  cases same : p.target? c.2 with
  | none => rfl
  | some t =>
      have low := ranked c member
      rw [Phase.target?_eq_some.mp same, Phase.rank_call] at low
      exact absurd low (Nat.lt_irrefl _)

/-- A step that makes no call. -/
theorem Staged.quiet (h : Staged targets e) {others : List EngineEffect}
    (htargets : e'.targets = e.targets) (hrecord : e'.record = e.record ++ others)
    (hothers : callsIn others = []) (hstage : e.stage.rank ≤ e'.stage.rank)
    (at_stage : e'.AtStage) : Staged targets e' where
  same_targets := htargets.trans h.same_targets
  ranked c member := by
    rw [hrecord, callsIn_append, hothers, List.append_nil] at member
    exact Nat.le_trans (h.ranked c member) hstage
  once q := by
    have none_made : targetsIn q others = [] := by simp [targetsIn, hothers]
    rw [hrecord, targetsIn_append, none_made, List.append_nil]
    exact h.once q
  preceded := by
    rw [hrecord]
    refine h.preceded.append fun past effect rest split => ?_
    cases effect with
    | issued call what =>
        have made : (call, what) ∈ callsIn others := by simp [split]
        simp [hothers] at made
    | announced _ | ended _ _ | stopped _ | returned _ => trivial
  at_stage := at_stage

/-- A step that makes a call which is due. -/
theorem Staged.issue (h : Staged targets e) {what : SessionCall}
    (htargets : e'.targets = e.targets) (hrecord : e'.record = e.record ++ [.issued e.calls what])
    (hrank : what.rank ≤ e'.stage.rank) (hstage : e.stage.rank ≤ e'.stage.rank)
    (once : ∀ q, (∃ t, what = q.call t) → targetsIn q e'.record <+~ targets)
    (due : Due targets e.record (.issued e.calls what))
    (at_stage : e'.AtStage) : Staged targets e' where
  same_targets := htargets.trans h.same_targets
  ranked c member := by
    rw [hrecord, callsIn_append] at member
    rcases List.mem_append.mp member with old | new
    · exact Nat.le_trans (h.ranked c old) hstage
    · rw [List.mem_singleton.mp new]
      exact hrank
  once q := by
    by_cases ours : ∃ t, what = q.call t
    · exact once q ours
    · have foreign : q.target? what = none := by
        cases same : q.target? what with
        | none => rfl
        | some t => exact absurd ⟨t, Phase.target?_eq_some.mp same⟩ ours
      rw [hrecord, targetsIn_append, targetsIn_issued, foreign, Option.toList_none,
        List.append_nil]
      exact h.once q
  preceded := hrecord ▸ h.preceded.snoc due
  at_stage := at_stage

theorem staged_of_silent {effect : EngineEffect} (htargets : e.targets = targets)
    (hrecord : e.record = [effect]) (silent : callsIn [effect] = [])
    (due : Due targets [] effect) (at_stage : e.AtStage) : Staged targets e where
  same_targets := htargets
  ranked := by simp [hrecord, silent]
  once q := by simp [targetsIn, hrecord, silent]
  preceded := hrecord ▸ (preceded_nil _).snoc due
  at_stage := at_stage

theorem staged_start (config : EngineConfig) (targets : List Target) :
    Staged targets (start config targets) := by
  rcases start_cases config targets with ⟨ending, same, -⟩ | ⟨-, -, same⟩
  · rw [same]
    exact staged_of_silent rfl rfl rfl trivial trivial
  · rw [same]
    refine staged_of_silent rfl rfl rfl trivial ?_
    have under : UnderWay .register (entering ⟨config.workerCount, targets, .registering,
        config.workerCount, [], 0, [.announced (registerMessage targets.length)]⟩ .registering) :=
      UnderWay.entering rfl
    exact under

theorem staged_step (h : Staged targets e) {move : Move} (hs : e.step? move = some e') :
    Staged targets e' := by
  cases move with
  | start i =>
      obtain ⟨p, t, stage, htarget, queued, -, rfl⟩ := start?_eq_some hs
      have under := (h.at_stage.underWay stage).start htarget queued
      refine h.issue rfl rfl ?_ (Nat.le_refl _) ?_ ?_ (atStage_of_phase stage under ?_)
      · exact Nat.le_of_eq ((p.rank_call t).trans (congrArg Stage.rank stage.symm))
      · rintro q ⟨u, same⟩
        obtain ⟨rfl, rfl⟩ := Phase.call_inj.mp same
        rw [← h.same_targets]
        exact under.started.subperm.trans (startedTargets_subperm _)
      · cases p with
        | register => trivial
        | execute => exact h.at_stage.begun stage
      · intro executing
        exact (h.at_stage.begun (stage.trans (congrArg Phase.stage executing))).append _
  | finish i ending =>
      obtain ⟨call, busy, running, rfl⟩ := finish?_eq_some hs
      refine h.quiet rfl rfl rfl (Nat.le_refl _) ?_
      simp only [hasJobs] at busy
      split at busy
      · rename_i stage
        exact atStage_of_phase (p := .register) stage
          ((h.at_stage.underWay (p := .register) stage).finish running)
          (fun other => by cases other)
      · rename_i stage
        exact atStage_of_phase (p := .execute) stage
          ((h.at_stage.underWay (p := .execute) stage).finish running)
          (fun _ => (h.at_stage.begun stage).append _)
      · rename_i stage
        simp [AtStage, answered, setJob, stage]
      · cases busy
  | refuse i =>
      obtain ⟨fault, stage, queued, rfl⟩ := refuse?_eq_some hs
      refine h.quiet rfl (List.append_nil _).symm rfl (Nat.le_refl _) ?_
      simp [AtStage, setJob, stage]
  | join i =>
      obtain ⟨p, ending, stage, ended, ⟨rfl, rfl⟩ | ⟨fault, -, rfl⟩⟩ := join?_eq_some hs
      · refine h.quiet rfl (List.append_nil _).symm rfl (Nat.le_refl _) ?_
        refine atStage_of_phase stage ((h.at_stage.underWay stage).join ended) ?_
        intro executing
        exact h.at_stage.begun (stage.trans (congrArg Phase.stage executing))
      · refine h.quiet rfl rfl rfl ?_ trivial
        cases p <;> simp [stage, Phase.stage, Stage.rank, stopping]
  | clear =>
      obtain ⟨fault, stage, rfl⟩ := clear?_eq_some hs
      exact h.quiet rfl rfl rfl (by simp [stage, Stage.rank, returning]) trivial
  | proceed =>
      obtain ⟨joined, ⟨stage, rfl⟩ | ⟨stage, rfl⟩⟩ := proceed?_eq_some hs
      · have done := (h.at_stage.underWay (p := .register) stage).done (all_isJoined joined)
        refine h.issue rfl rfl (Nat.le_refl _) (by simp [stage, Stage.rank]) ?_ ?_ ?_
        · rintro q ⟨t, same⟩
          cases q <;> cases same
        · refine ⟨h.same_targets ▸ done, fun c member => ?_⟩
          have low := h.ranked c member
          rw [stage] at low
          exact Nat.lt_succ_of_le low
        · simp [AtStage, issuing]
      · have done := (h.at_stage.underWay (p := .execute) stage).done (all_isJoined joined)
        refine h.issue rfl rfl (Nat.le_refl _) (by simp [stage, Stage.rank, issuing]) ?_ ?_ ?_
        · rintro q ⟨t, same⟩
          cases q <;> cases same
        · refine ⟨h.at_stage.begun stage, h.same_targets ▸ done, fun c member => ?_⟩
          have low := h.ranked c member
          rw [stage] at low
          exact Nat.lt_succ_of_le low
        · simp [AtStage, issuing]
  | settle ending =>
      rcases settle?_eq_some hs with ⟨call, stage, rfl, rfl⟩ | ⟨call, stage, -, rfl⟩ |
        ⟨call, stage, rfl⟩
      · refine h.quiet rfl (List.append_assoc ..) rfl (by simp [stage, Stage.rank, entering]) ?_
        have issued : .issued call .begin ∈ e.record := by
          simpa [AtStage, stage] using h.at_stage
        refine atStage_of_phase (p := .execute) rfl (UnderWay.entering ?_) fun _ => ?_
        · apply targetsIn_eq_nil
          intro c member
          have old : c ∈ callsIn e.record := by
            simpa [announcing, answered, callsIn] using member
          have low := h.ranked c old
          rw [stage] at low
          exact Nat.lt_succ_of_le low
        · refine ⟨call, ?_, ?_⟩ <;> simp [entering, announcing, answered, issued]
      · exact h.quiet rfl (List.append_assoc ..) rfl
          (by simp [stage, Stage.rank, returning]) trivial
      · exact h.quiet rfl (List.append_assoc ..) rfl
          (by simp [stage, Stage.rank, returning]) trivial

theorem Reachable.staged {config : EngineConfig} (h : Reachable config targets e) :
    Staged targets e := by
  induction h with
  | start => exact staged_start config targets
  | step _ _ hs ih => exact staged_step ih hs

/-- Once a phase is done, none of its calls fails any more. -/
theorem PhaseDone.well_of_once {past rest : List EngineEffect} {call : Nat} {t : Target}
    (done : PhaseDone p targets past) (once : targetsIn p (past ++ rest) <+~ targets)
    (issued : .issued call (p.call t) ∈ past ++ rest) : .ended call .success ∈ past ++ rest := by
  have none_later : targetsIn p rest = [] := by
    have bound := once.length_le
    rw [targetsIn_append, List.length_append, done.each_once.length_eq] at bound
    exact List.eq_nil_of_length_eq_zero (by omega)
  rcases List.mem_append.mp issued with old | new
  · exact List.mem_append_left _ (done.all_well call t old)
  · have made : t ∈ targetsIn p rest := mem_targetsIn.mpr ⟨call, new⟩
    simp [none_later] at made

/-- A call that is only due when none of its rank has been made is made once. -/
theorem Staged.countP_le_one (h : Staged targets e) {what : SessionCall}
    (due : ∀ past call, Due targets past (.issued call what) →
      ∀ c ∈ callsIn past, c.2.rank < what.rank) :
    (callsIn e.record).countP (fun c => c.2 == what) ≤ 1 := by
  rw [callsIn, List.countP_filterMap]
  refine h.preceded.countP_le_one fun past effect ours allowed => ?_
  rw [← List.countP_filterMap, List.countP_eq_zero]
  intro c member same
  cases effect with
  | issued call what' =>
      obtain rfl : what' = what := by simpa using ours
      have lower := due past call allowed c member
      rw [beq_iff_eq.mp same] at lower
      exact Nat.lt_irrefl _ lower
  | announced _ | ended _ _ | stopped _ | returned _ => cases ours

theorem Staged.begin_once (h : Staged targets e) :
    (callsIn e.record).countP (fun c => c.2 == .begin) ≤ 1 :=
  h.countP_le_one fun _ _ due => due.2

theorem Staged.commit_once (h : Staged targets e) :
    (callsIn e.record).countP (fun c => c.2 == .commit) ≤ 1 :=
  h.countP_le_one fun _ _ due => due.2.2

theorem exists_past {effect : EngineEffect} (member : effect ∈ e.record)
    (preceded : Preceded (Due targets) e.record) :
    ∃ past rest, e.record = past ++ effect :: rest ∧ Due targets past effect := by
  obtain ⟨past, rest, split⟩ := List.append_of_mem member
  exact ⟨past, rest, split, preceded past effect rest split⟩

theorem Staged.begun_of_rank (h : Staged targets e) {call : Nat} {what : SessionCall}
    (issued : .issued call what ∈ e.record) (late : 1 < what.rank) : Begun e.record := by
  obtain ⟨past, rest, split, due⟩ := exists_past issued h.preceded
  rw [split]
  cases what with
  | execute t => exact Begun.append due _
  | commit => exact Begun.append due.1 _
  | register _ | begin => simp [SessionCall.rank] at late

theorem Staged.register_well (h : Staged targets e) {call later : Nat} {what : SessionCall}
    {t : Target} (issued : .issued call (.register t) ∈ e.record)
    (after : .issued later what ∈ e.record) (late : 0 < what.rank) :
    .ended call .success ∈ e.record := by
  obtain ⟨b, begun⟩ : ∃ b, .issued b .begin ∈ e.record := by
    by_cases first : what = .begin
    · exact ⟨later, first ▸ after⟩
    · obtain ⟨b, begun, -⟩ := h.begun_of_rank after (by cases what <;> simp_all [SessionCall.rank])
      exact ⟨b, begun⟩
  obtain ⟨past, rest, split, due⟩ := exists_past begun h.preceded
  rw [split] at issued ⊢
  exact due.1.well_of_once (split ▸ h.once .register) issued

theorem Staged.execute_well (h : Staged targets e) {call later : Nat} {t : Target}
    (issued : .issued call (.execute t) ∈ e.record) (after : .issued later .commit ∈ e.record) :
    .ended call .success ∈ e.record := by
  obtain ⟨past, rest, split, due⟩ := exists_past after h.preceded
  rw [split] at issued ⊢
  exact due.2.1.well_of_once (split ▸ h.once .execute) issued

theorem Staged.begin_well (h : Staged targets e) {call later : Nat} {what : SessionCall}
    (issued : .issued call .begin ∈ e.record) (after : .issued later what ∈ e.record)
    (late : 1 < what.rank) : .ended call .success ∈ e.record := by
  obtain ⟨b, begun, well⟩ := h.begun_of_rank after late
  have same : (b, SessionCall.begin) = (call, .begin) :=
    eq_of_countP_le_one h.begin_once (mem_callsIn.mpr begun) (mem_callsIn.mpr issued) rfl rfl
  cases same
  exact well

theorem Staged.failure_last (h : Staged targets e) (booked : e.Booked) {call later : Nat}
    {what what' : SessionCall} {ending : Ending} {fault : DumpFault}
    (issued : .issued call what ∈ e.record) (ended : .ended call ending ∈ e.record)
    (failed : ending.failure? = some fault) (after : .issued later what' ∈ e.record) :
    what'.rank ≤ what.rank := by
  by_contra late
  have well : .ended call .success ∈ e.record := by
    cases what with
    | register t => exact h.register_well issued after (by simp [SessionCall.rank] at late ⊢; omega)
    | begin => exact h.begin_well issued after (by simp [SessionCall.rank] at late ⊢; omega)
    | execute t =>
        have last : what' = .commit := by cases what' <;> simp_all [SessionCall.rank]
        exact h.execute_well issued (last ▸ after)
    | commit => exact absurd (by cases what' <;> simp [SessionCall.rank]) late
  rw [booked.ending_unique ended well, Ending.failure?_success] at failed
  cases failed

theorem Reachable.eq_start_of_refused {config : EngineConfig} {fault : DumpFault}
    (h : Reachable config targets e) (refused : validate targets = .error fault) :
    e.stage = .returned (.returned (.error fault)) ∧
      e.record = [.returned (.returned (.error fault))] := by
  induction h with
  | start =>
      rcases start_cases config targets with ⟨ending, same, ⟨fault', refused', rfl⟩ | ⟨valid, -⟩⟩ |
        ⟨valid, -⟩
      · obtain rfl : fault' = fault := by simpa [refused] using refused'.symm
        rw [same]
        exact ⟨rfl, rfl⟩
      · simp [refused] at valid
      · simp [refused] at valid
  | step move _ hs ih =>
      rw [step?_of_returned ih.1] at hs
      cases hs

/-- What a run may do, read off its record. -/
structure TwoBarriers (targets : List Target) (record : List EngineEffect) : Prop where
  /-- Calls have different numbers, and each of them ends once at most. -/
  numbered : ((callsIn record).map Prod.fst).Nodup ∧ ((endedIn record).map Prod.fst).Nodup
  /-- If the targets are not accepted, nobody hears of them but the caller. -/
  refused : ∀ fault, validate targets = .error fault →
    record = [.returned (.returned (.error fault))]
  begin_once : (callsIn record).countP (fun c => c.2 == .begin) ≤ 1
  begin_after : ∀ past call rest, record = past ++ .issued call .begin :: rest →
    PhaseDone .register targets past
  execute_once : targetsIn .execute record <+~ targets
  execute_after : ∀ past call t rest, record = past ++ .issued call (.execute t) :: rest →
    Begun past
  commit_once : (callsIn record).countP (fun c => c.2 == .commit) ≤ 1
  commit_after : ∀ past call rest, record = past ++ .issued call .commit :: rest →
    PhaseDone .execute targets past
  /-- A call that failed, be its failure looked at or not, leaves no room for a later phase. -/
  failure_last : ∀ call what ending fault, .issued call what ∈ record →
    .ended call ending ∈ record → ending.failure? = some fault →
    ∀ later what', .issued later what' ∈ record → what'.rank ≤ what.rank
  never_closes : ∀ call what, .issued call what ∈ record → Joint.entry what ≠ Session.closing

/-- Whatever the session answers, and in whichever order the jobs run. -/
theorem Reachable.two_barriers {config : EngineConfig} (h : Reachable config targets e) :
    TwoBarriers targets e.record where
  numbered := by
    refine ⟨h.booked.numbered ▸ List.nodup_range, ?_⟩
    exact (List.nodup_append.mp (h.booked.ledger.nodup_iff.mpr List.nodup_range)).2.1
  refused fault refused := (h.eq_start_of_refused refused).2
  begin_once := h.staged.begin_once
  begin_after past call rest split := (h.staged.preceded past _ rest split).1
  execute_once := h.staged.once .execute
  execute_after past call t rest split := h.staged.preceded past _ rest split
  commit_once := h.staged.commit_once
  commit_after past call rest split := (h.staged.preceded past _ rest split).2.1
  failure_last _ _ _ _ issued ended failed _ _ after :=
    h.staged.failure_last h.booked issued ended failed after
  never_closes call what issued := by
    cases what <;> nofun

/-- A run over a table and a query in which the jobs overtake one another and the dump of the query
fails after that of the table has started. -/
theorem two_barriers_overtaken :
    ∃ e, Reachable ⟨2⟩ [.table "a" ⟨"p/a"⟩, .query "q" "SELECT 1" ⟨"p/q"⟩] e ∧
      (callsIn e.record).length = 5 ∧ e.wasStopped = true ∧
      TwoBarriers [.table "a" ⟨"p/a"⟩, .query "q" "SELECT 1" ⟨"p/q"⟩] e.record := by
  have run : ((start ⟨2⟩ [.table "a" ⟨"p/a"⟩, .query "q" "SELECT 1" ⟨"p/q"⟩]).run?
      [.start 1, .start 0, .finish 0 .success, .join 0, .finish 1 .success, .join 1, .proceed,
        .settle .success, .start 0, .start 1, .finish 1 (.panicked "out of memory"), .join 1,
        .clear]).isSome = true := by decide
  have reached := reachable_of_run? .start (Option.some_get run).symm
  exact ⟨_, reached, rfl, rfl, reached.two_barriers⟩

end Engine

end DumpFlow
