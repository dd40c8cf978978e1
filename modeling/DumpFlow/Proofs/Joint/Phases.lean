import DumpFlow.Proofs.Blocks
import DumpFlow.Proofs.Joint.Progress

/-!
The order of a run. The engine waits for all calls of a phase before it makes one of the next, so
what the session has on record falls into four blocks, whatever the order of the jobs: the
registrations, the begin, the dumps and the commit.
-/

namespace DumpFlow

open scoped List

open Session (Entry Effect emittedIn)

namespace Engine

theorem Booked.issued_getElem? {e : Engine} {n : Nat} {what : SessionCall} (h : e.Booked) :
    e.issued[n]? = some what ↔ .issued n what ∈ e.record := by
  have numbers : ∀ (i : Nat) (c : Nat × SessionCall),
      (callsIn e.record)[i]? = some c → c.1 = i := by
    intro i c stood
    have number : ((callsIn e.record).map Prod.fst)[i]? = some c.1 := by simp [stood]
    rw [h.numbered] at number
    obtain ⟨_, same⟩ := List.getElem?_eq_some_iff.mp number
    simpa using same.symm
  rw [issued_eq, List.getElem?_map, Option.map_eq_some_iff]
  constructor
  · rintro ⟨c, stood, rfl⟩
    obtain rfl := numbers n c stood
    exact mem_callsIn.mp (List.mem_of_getElem? stood)
  · intro issued
    obtain ⟨i, stood⟩ := List.getElem?_of_mem (mem_callsIn.mpr issued)
    obtain rfl := numbers i _ stood
    exact ⟨_, stood, rfl⟩

end Engine

namespace Joint

/-- The phase of the run that a call belongs to. -/
def phase (j : Joint) (n : Nat) : Nat :=
  (j.engine.issued[n]?).elim 0 SessionCall.rank

/-- What the calls of a phase have done. -/
def block (j : Joint) (r : Nat) : List Entry :=
  j.machine.record.filter fun e => j.phase e.call = r

def told (j : Joint) (r : Nat) : List MonitorEvent :=
  emittedIn ((j.block r).map Entry.effect)

/-- No call does anything once one of a later phase has. -/
def Ascending (j : Joint) : Prop :=
  j.machine.record.Pairwise fun e e' => j.phase e.call ≤ j.phase e'.call

variable {settings : TransactionSettings} {dispatch : Dispatch} {config : EngineConfig}
  {targets : List Target} {j : Joint} {n : Nat} {what : SessionCall}

theorem Linked.phase_eq (h : Linked settings dispatch config targets j)
    (issued : .issued n what ∈ j.engine.record) : j.phase n = what.rank := by
  rw [phase, h.engine.booked.issued_getElem?.mpr issued]
  rfl

theorem Linked.exists_call (h : Linked settings dispatch config targets j) {e : Entry}
    (member : e ∈ j.machine.record) : ∃ what, .issued e.call what ∈ j.engine.record := by
  obtain ⟨x, stood, -⟩ := h.machine.exists_thread (Session.Machine.mem_past.mpr member)
  exact h.exists_issued stood

theorem Linked.phase_lt (h : Linked settings dispatch config targets j) {e : Entry}
    (member : e ∈ j.machine.record) : j.phase e.call < 4 := by
  obtain ⟨what, issued⟩ := h.exists_call member
  rw [h.phase_eq issued]
  cases what <;> simp [SessionCall.rank]

/-- Nothing that the engine has called for so far is of a later phase than its stage. -/
theorem Linked.phase_le (h : Linked settings dispatch config targets j) {e : Entry}
    (member : e ∈ j.machine.record) : j.phase e.call ≤ j.engine.stage.rank := by
  obtain ⟨what, issued⟩ := h.exists_call member
  rw [h.phase_eq issued]
  exact h.engine.staged.rank_le issued

theorem Linked.phase_stays {j' : Joint} (h : Linked settings dispatch config targets j)
    (h' : Linked settings dispatch config targets j') {new : List EngineEffect}
    (record : j'.engine.record = j.engine.record ++ new) {e : Entry}
    (member : e ∈ j.machine.record) : j'.phase e.call = j.phase e.call := by
  obtain ⟨what, issued⟩ := h.exists_call member
  have issued' : .issued e.call what ∈ j'.engine.record := record ▸ List.mem_append_left _ issued
  rw [h.phase_eq issued, h'.phase_eq issued']

/-- A record grows by what is done in one phase that is not over. -/
structure Grows (j j' : Joint) (new : List Entry) (r : Nat) : Prop where
  record : j'.machine.record = j.machine.record ++ new
  stays : ∀ e ∈ j.machine.record, j'.phase e.call = j.phase e.call
  low : ∀ e ∈ j.machine.record, j.phase e.call ≤ r
  fresh : ∀ e ∈ new, j'.phase e.call = r

variable {j' : Joint} {new : List Entry} {r : Nat}

theorem Grows.ascending (h : Grows j j' new r) (ascending : j.Ascending) : j'.Ascending := by
  rw [Ascending, h.record, List.pairwise_append]
  refine ⟨?_, ?_, ?_⟩
  · refine ascending.imp_of_mem fun {e e'} member member' le => ?_
    rwa [h.stays e member, h.stays e' member']
  · refine List.pairwise_of_forall_mem_list fun e member e' member' => ?_
    rw [h.fresh e member, h.fresh e' member']
  · intro e member e' member'
    rw [h.stays e member, h.fresh e' member']
    exact h.low e member

theorem Grows.told (h : Grows j j' new r) (r' : Nat) :
    j'.told r' = j.told r' ++ if r = r' then emittedIn (new.map Entry.effect) else [] := by
  have old : (j.machine.record.filter fun e => j'.phase e.call = r') = j.block r' :=
    List.filter_congr fun e member => by rw [h.stays e member]
  have added : (new.filter fun e => j'.phase e.call = r') = if r = r' then new else [] := by
    by_cases here : r = r'
    · rw [if_pos here, List.filter_eq_self]
      exact fun e member => decide_eq_true ((h.fresh e member).trans here)
    · rw [if_neg here, List.filter_eq_nil_iff]
      exact fun e member same => here ((h.fresh e member).symm.trans (of_decide_eq_true same))
  rw [Joint.told, block, h.record, List.filter_append, old, added, List.map_append,
    Session.emittedIn_append]
  refine congrArg (j.told r' ++ ·) ?_
  split <;> rfl

theorem Linked.told_eq_nil (h : Linked settings dispatch config targets j)
    (later : j.engine.stage.rank < r) : j.told r = [] := by
  have none_made : j.block r = [] := by
    refine List.filter_eq_nil_iff.mpr fun e member same => ?_
    have low := h.phase_le member
    rw [of_decide_eq_true same] at low
    exact Nat.not_le_of_lt later low
  rw [told, none_made]
  rfl

/-- The blocks of a record in their order. -/
theorem Ascending.record_eq (ascending : j.Ascending)
    (h : Linked settings dispatch config targets j) :
    j.machine.record = j.block 0 ++ j.block 1 ++ j.block 2 ++ j.block 3 := by
  refine (eq_flatMap_filter (fun e : Entry => j.phase e.call) ascending
    fun e member => h.phase_lt member).trans ?_
  rw [show List.range 4 = [0, 1, 2, 3] from rfl]
  simp [block]

end Joint

namespace Plan

open Joint (Ascending Grows)

variable {P : Plan} {j j' : Joint} {move : Joint.Move}

/-- What the engine says between the phases. -/
def interlude (P : Plan) (stage : Stage) : List MonitorEvent :=
  if stage.rank < 2 then [] else [.verbose (Engine.executeMessage P.targets.length)]

/-- The monitor has heard one phase after the other. -/
def InTune (P : Plan) (j : Joint) : Prop :=
  j.events = .verbose (Engine.registerMessage P.targets.length) ::
    (j.told 0 ++ j.told 1 ++ P.interlude j.engine.stage ++ j.told 2 ++ j.told 3)

theorem Sound.eventsIn_eq (h : P.Sound j) : Engine.eventsIn j.engine.record =
    .verbose (Engine.registerMessage P.targets.length) :: P.interlude j.engine.stage := by
  have goes_well := h.flawless.goes_well
  simp only [Engine.GoesWell, h.linked.engine.staged.same_targets] at goes_well
  cases stage : j.engine.stage with
  | registering | beginning _ | executing | committing _ =>
      rw [stage] at goes_well
      exact goes_well
  | stopping fault => simp [stage] at goes_well
  | returned ending =>
      rw [stage] at goes_well
      exact goes_well.2.2.2

/-- What is done next is done in the phase that the engine is in. -/
theorem Sound.grows (h : P.Sound j) (step : j.step? move = some j') :
    (∃ new, Grows j j' new j.engine.stage.rank ∧ j'.engine = j.engine ∧
      j'.events = j.events ++ emittedIn (new.map Entry.effect)) ∨
    ∃ new r said, Grows j j' new r ∧ emittedIn (new.map Entry.effect) = [] ∧
      j'.events = j.events ++ Engine.eventsIn said ∧
      j'.engine.record = j.engine.record ++ said := by
  rcases h.linked.step?_cases step with ⟨engineMove, e, moves, answered, rfl⟩ |
    ⟨n, m, x, effects, y, used, moved, rfl, -⟩
  · refine .inr ?_
    have linked := h.linked.withEngine moves answered
    rcases Engine.step?_record moves with ⟨what, record, -, later⟩ | ⟨said, record, silent, -⟩
    · rw [Joint.withEngine_issued record] at linked ⊢
      refine ⟨[⟨_, .called (Joint.entry what)⟩], what.rank, _, ⟨rfl, ?_, ?_, ?_⟩, rfl,
        (List.append_nil _).symm, record⟩
      · exact fun _ => h.linked.phase_stays linked record
      · exact fun _ member => Nat.le_trans (h.linked.phase_le member) later
      · intro entry member
        have made : .issued j.engine.calls what ∈ e.record := by simp [record]
        rw [List.mem_singleton.mp member, h.linked.length]
        exact linked.phase_eq made
    · rw [Joint.withEngine_silent record silent] at linked ⊢
      refine ⟨[], j.engine.stage.rank, said, ⟨(List.append_nil _).symm, ?_, ?_, ?_⟩, rfl, rfl,
        record⟩
      · exact fun _ => h.linked.phase_stays linked record
      · exact fun _ => h.linked.phase_le
      · exact fun _ member => absurd member List.not_mem_nil
  · refine .inl ⟨_, ⟨moved.record, fun _ _ => rfl, fun _ => h.linked.phase_le, ?_⟩, rfl, ?_⟩
    · intro entry member
      obtain ⟨effect, -, rfl⟩ := List.mem_map.mp member
      obtain ⟨what, issued⟩ := h.linked.exists_issued moved.stood
      obtain ⟨p, stands⟩ := moved.turn.live
      have awaits := h.linked.awaits h.flawless issued moved.stood stands
      exact (h.linked.phase_eq issued).trans awaits.rank_eq
    · simp [Joint.withMachine, moved.events, Function.comp_def]

theorem Sound.ascending_step (h : P.Sound j) (ascending : j.Ascending)
    (step : j.step? move = some j') : j'.Ascending := by
  rcases h.grows step with ⟨new, grows, -⟩ | ⟨new, r, said, grows, -⟩
  · exact grows.ascending ascending
  · exact grows.ascending ascending

theorem Sound.tune_step (h : P.Sound j) (h' : P.Sound j') (tune : P.InTune j)
    (step : j.step? move = some j') : P.InTune j' := by
  have now := h.eventsIn_eq
  have later := h'.eventsIn_eq
  rcases h.grows step with ⟨new, grows, same, heard⟩ | ⟨new, r, said, grows, silent, heard, record⟩
  · have apart : ∀ r, j.engine.stage.rank < r → j.told r = [] := fun r => h.linked.told_eq_nil
    have small : j.engine.stage.rank ≤ 3 := by cases j.engine.stage <;> simp [Stage.rank]
    rw [InTune, heard, tune, same]
    simp only [grows.told, interlude]
    generalize j.engine.stage.rank = rank at apart small
    obtain rfl | rfl | rfl | rfl : rank = 0 ∨ rank = 1 ∨ rank = 2 ∨ rank = 3 := by omega
    all_goals simp [apart]
  · -- The engine says no more than its second message, and nothing was dumped before that.
    have quiet : ∀ r', j'.told r' = j.told r' := fun r' => by simp [grows.told, silent]
    rw [record, Engine.eventsIn_append, now, List.cons_append, List.cons.injEq] at later
    rw [InTune, heard, tune, ← later.2]
    simp only [quiet]
    by_cases early : j.engine.stage.rank < 2
    · have none_told : j.told 2 = [] ∧ j.told 3 = [] :=
        ⟨h.linked.told_eq_nil early, h.linked.told_eq_nil (Nat.lt_succ_of_lt early)⟩
      simp [none_told]
    · have short : (P.interlude j'.engine.stage).length ≤ 1 := by
        rw [interlude]
        split <;> simp
      rw [← later.2, show P.interlude j.engine.stage = [_] from if_neg early] at short
      have silent : Engine.eventsIn said = [] := by simpa using short
      simp [silent]

theorem Run.ascending {moves : List Joint.Move} (run : P.Run moves j) (accepted : P.Accepted) :
    j.Ascending := by
  induction run with
  | start =>
      rw [Plan.start, Joint.start_eq]
      exact .nil
  | step _ before _ step ih => exact (before.sound accepted).ascending_step ih step

theorem Run.in_tune {moves : List Joint.Move} (run : P.Run moves j) (accepted : P.Accepted) :
    P.InTune j := by
  induction run with
  | start =>
      have events := (Sound.start accepted).eventsIn_eq
      have none_told : ∀ r, P.start.told r = [] := by
        rw [Plan.start, Joint.start_eq]
        exact fun r => rfl
      rw [InTune, none_told, none_told, none_told, none_told]
      rw [Plan.start, Joint.start_eq] at events ⊢
      simpa using events
  | step move before favours step ih =>
      have sound := (before.step move favours step).sound accepted
      exact (before.sound accepted).tune_step sound ih step

end Plan

end DumpFlow
