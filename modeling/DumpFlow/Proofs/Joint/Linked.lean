import DumpFlow.Proofs.Engine.Flawless
import DumpFlow.Proofs.Session.Favour

/-!
An engine and its session, side by side. The calls of the one are the calls on the other under the
same numbers, and what the engine sees end has returned.
-/

namespace DumpFlow

open scoped List

namespace Engine

variable {e e' : Engine} {move : Move}

/-- What an engine puts on record in one move: one call, or something else. -/
theorem step?_record (h : e.step? move = some e') :
    (∃ what, e'.record = e.record ++ [.issued e.calls what] ∧ e'.calls = e.calls + 1 ∧
      e.stage.rank ≤ what.rank) ∨
    ∃ new, e'.record = e.record ++ new ∧ callsIn new = [] ∧ e'.calls = e.calls := by
  cases move with
  | start i =>
      obtain ⟨p, t, stage, -, -, -, rfl⟩ := start?_eq_some h
      exact .inl ⟨_, rfl, rfl, stage ▸ Nat.le_of_eq (p.rank_call t).symm⟩
  | finish i ending =>
      obtain ⟨call, -, -, rfl⟩ := finish?_eq_some h
      exact .inr ⟨_, rfl, rfl, rfl⟩
  | refuse i =>
      obtain ⟨fault, -, -, rfl⟩ := refuse?_eq_some h
      exact .inr ⟨[], (List.append_nil _).symm, rfl, rfl⟩
  | join i =>
      obtain ⟨p, ending, -, -, ⟨-, rfl⟩ | ⟨fault, -, rfl⟩⟩ := join?_eq_some h
      · exact .inr ⟨[], (List.append_nil _).symm, rfl, rfl⟩
      · exact .inr ⟨_, rfl, rfl, rfl⟩
  | clear =>
      obtain ⟨fault, -, rfl⟩ := clear?_eq_some h
      exact .inr ⟨_, rfl, rfl, rfl⟩
  | proceed =>
      obtain ⟨-, ⟨stage, rfl⟩ | ⟨stage, rfl⟩⟩ := proceed?_eq_some h
      · exact .inl ⟨_, rfl, rfl, stage ▸ Nat.le_succ 0⟩
      · exact .inl ⟨_, rfl, rfl, stage ▸ Nat.le_succ 2⟩
  | settle ending =>
      rcases settle?_eq_some h with ⟨call, -, -, rfl⟩ | ⟨call, -, -, rfl⟩ | ⟨call, -, rfl⟩
      all_goals exact .inr ⟨_, List.append_assoc .., rfl, rfl⟩

theorem step?_ended {call : Nat} {ending : Ending} (h : e.step? move = some e')
    (ended : .ended call ending ∈ e'.record) :
    .ended call ending ∈ e.record ∨
      (∃ i, move = .finish i ending ∧ e.jobs[i]? = some (.running call)) ∨
      move = .settle ending ∧ e.stage.call? = some call := by
  cases move with
  | start i =>
      obtain ⟨p, t, -, -, -, -, rfl⟩ := start?_eq_some h
      exact .inl (by simpa [issuing, setJob] using ended)
  | finish i ending' =>
      obtain ⟨call', -, running, rfl⟩ := finish?_eq_some h
      rcases List.mem_append.mp ended with old | new
      · exact .inl old
      · cases List.mem_singleton.mp new
        exact .inr (.inl ⟨i, rfl, running⟩)
  | refuse i =>
      obtain ⟨fault, -, -, rfl⟩ := refuse?_eq_some h
      exact .inl ended
  | join i =>
      obtain ⟨p, ending', -, -, ⟨-, rfl⟩ | ⟨fault, -, rfl⟩⟩ := join?_eq_some h
      · exact .inl ended
      · exact .inl (by simpa [stopping, setJob] using ended)
  | clear =>
      obtain ⟨fault, -, rfl⟩ := clear?_eq_some h
      exact .inl (by simpa [returning] using ended)
  | proceed =>
      obtain ⟨-, ⟨-, rfl⟩ | ⟨-, rfl⟩⟩ := proceed?_eq_some h
      · exact .inl (by simpa [issuing] using ended)
      · exact .inl (by simpa [issuing] using ended)
  | settle ending' =>
      rcases settle?_eq_some h with ⟨call', stage, -, rfl⟩ | ⟨call', stage, -, rfl⟩ |
        ⟨call', stage, rfl⟩
      all_goals
        simp only [entering, announcing, returning, answered, List.append_assoc, List.mem_append,
          List.mem_cons, EngineEffect.ended.injEq, List.not_mem_nil, or_false, reduceCtorEq]
          at ended
        rcases ended with old | ⟨rfl, rfl⟩
        · exact .inl old
        · exact .inr (.inr ⟨rfl, by rw [stage]; rfl⟩)

end Engine

namespace Joint

open Session (Machine Thread closing)
open Session.Machine (Used Moved)
open Engine (callsIn endedIn eventsIn)

variable {settings : TransactionSettings} {dispatch : Dispatch} {config : EngineConfig}
  {targets : List Target} {j j' : Joint} {move : Move}

theorem isEntry_entry (what : SessionCall) : (entry what).IsEntry := by
  cases what <;> simp [entry]

/-- What the engine tells its session and its monitor when it makes no call. -/
theorem foldl_follow {new : List EngineEffect} (silent : callsIn new = []) (j : Joint) :
    new.foldl follow j = { j with events := j.events ++ eventsIn new } := by
  induction new generalizing j with
  | nil => simp [eventsIn]
  | cons effect new ih =>
      cases effect with
      | issued call what => cases silent
      | announced message =>
          rw [List.foldl_cons, ih silent]
          simp [follow, eventsIn]
      | ended _ _ | stopped _ | returned _ =>
          rw [List.foldl_cons, ih silent]
          rfl

theorem withEngine_silent {e : Engine} {new : List EngineEffect}
    (record : e.record = j.engine.record ++ new) (silent : callsIn new = []) :
    j.withEngine e = { j with engine := e, events := j.events ++ eventsIn new } := by
  rw [withEngine, record, List.drop_left, foldl_follow silent]

theorem withEngine_issued {e : Engine} {call : Nat} {what : SessionCall}
    (record : e.record = j.engine.record ++ [.issued call what]) :
    j.withEngine e =
      { j with
        engine := e
        machine := j.machine.call (entry what)
        calls := j.calls ++ [j.machine.calls.length] } := by
  rw [withEngine, record, List.drop_left]
  rfl

/-- How the engine and its session belong together. -/
structure Linked (settings : TransactionSettings) (dispatch : Dispatch) (config : EngineConfig)
    (targets : List Target) (j : Joint) : Prop where
  engine : Engine.Reachable config targets j.engine
  machine : Used settings dispatch j.machine
  numbered : j.calls = List.range j.engine.calls
  length : j.machine.calls.length = j.engine.calls
  called : ∀ n what, .issued n what ∈ j.engine.record →
    ⟨n, .called (entry what)⟩ ∈ j.machine.record
  ended : ∀ n ending, .ended n ending ∈ j.engine.record → ∃ outcome,
    ending = .returned outcome ∧ j.machine.calls[n]? = some (.returned outcome)

/-- A move of the engine that its session allows: it sees a call end as that has returned. -/
def Answered (j : Joint) : Engine.Move → Prop
  | .finish i ending => ∃ call outcome, j.engine.jobs[i]? = some (.running call) ∧
      ending = .returned outcome ∧ j.machine.calls[call]? = some (.returned outcome)
  | .settle ending => ∃ call outcome, j.engine.stage.call? = some call ∧
      ending = .returned outcome ∧ j.machine.calls[call]? = some (.returned outcome)
  | _ => True

theorem Linked.calls_getElem? (h : Linked settings dispatch config targets j) {call n : Nat}
    (here : j.calls[call]? = some n) : n = call := by
  rw [h.numbered] at here
  obtain ⟨small, same⟩ := List.getElem?_eq_some_iff.mp here
  simpa using same.symm

/-- What a joint move is: one of the engine, or one of a call on the session. -/
theorem Linked.step?_cases (h : Linked settings dispatch config targets j)
    (step : j.step? move = some j') :
    (∃ engineMove e, j.engine.step? engineMove = some e ∧ j.Answered engineMove ∧
      j' = j.withEngine e) ∨
    (∃ n m x effects y, Used settings dispatch m ∧ Moved j.machine n x effects y m ∧
      j' = j.withMachine m ∧
      ((∃ p, move = .act n ∧ x.call = .ready p ∧ effects ≠ [.dropped]) ∨
        (∃ p ticket reply, move = .answer n reply ∧ x.call = .waiting p ticket ∧
          effects = [.answered ticket reply]) ∨
        ∃ job, move = .drop job ∧ j.droppedCall? job = some n)) := by
  cases move with
  | start i =>
      obtain ⟨e, moves, rfl⟩ := Option.map_eq_some_iff.mp step
      exact .inl ⟨.start i, e, moves, trivial, rfl⟩
  | refuse i =>
      obtain ⟨e, moves, rfl⟩ := Option.map_eq_some_iff.mp step
      exact .inl ⟨.refuse i, e, moves, trivial, rfl⟩
  | join i =>
      obtain ⟨e, moves, rfl⟩ := Option.map_eq_some_iff.mp step
      exact .inl ⟨.join i, e, moves, trivial, rfl⟩
  | clear =>
      obtain ⟨e, moves, rfl⟩ := Option.map_eq_some_iff.mp step
      exact .inl ⟨.clear, e, moves, trivial, rfl⟩
  | proceed =>
      obtain ⟨e, moves, rfl⟩ := Option.map_eq_some_iff.mp step
      exact .inl ⟨.proceed, e, moves, trivial, rfl⟩
  | finish i =>
      obtain ⟨n, call, step⟩ := Option.bind_eq_some_iff.mp step
      obtain ⟨outcome, returned, step⟩ := Option.bind_eq_some_iff.mp step
      obtain ⟨e, moves, rfl⟩ := Option.map_eq_some_iff.mp step
      simp only [jobCall?] at call
      split at call
      · rename_i number running
        obtain rfl := h.calls_getElem? call
        exact .inl ⟨.finish i (.returned outcome), e, moves,
          ⟨n, outcome, running, rfl, Session.Machine.outcome?_eq_some.mp returned⟩, rfl⟩
      · cases call
  | settle =>
      obtain ⟨n, call, step⟩ := Option.bind_eq_some_iff.mp step
      obtain ⟨outcome, returned, step⟩ := Option.bind_eq_some_iff.mp step
      obtain ⟨e, moves, rfl⟩ := Option.map_eq_some_iff.mp step
      have waits : j.engine.stage.call? = some n := by
        simp only [stageCall?] at call
        split at call
        · obtain rfl := h.calls_getElem? call
          simp [*, Stage.call?]
        · obtain rfl := h.calls_getElem? call
          simp [*, Stage.call?]
        · cases call
      exact .inl ⟨.settle (.returned outcome), e, moves,
        ⟨n, outcome, waits, rfl, Session.Machine.outcome?_eq_some.mp returned⟩, rfl⟩
  | act n =>
      obtain ⟨m, moves, rfl⟩ := Option.map_eq_some_iff.mp step
      have used : Used settings dispatch m := h.machine.step (.act n) trivial moves
      obtain ⟨p, x, effects, y, stands, kept, moved⟩ := Session.Machine.act?_moved moves
      exact .inr ⟨n, m, x, effects, y, used, moved, rfl, .inl ⟨p, rfl, stands, kept⟩⟩
  | answer n reply =>
      simp only [step?] at step
      split at step
      · cases step
      · obtain ⟨m, moves, rfl⟩ := Option.map_eq_some_iff.mp step
        have used : Used settings dispatch m := h.machine.step (.answer n reply) trivial moves
        obtain ⟨p, ticket, x, y, stands, moved⟩ := Session.Machine.answer?_moved moves
        exact .inr ⟨n, m, x, _, y, used, moved, rfl,
          .inr (.inl ⟨p, ticket, reply, rfl, stands, rfl⟩)⟩
  | drop job =>
      obtain ⟨n, gone, step⟩ := Option.bind_eq_some_iff.mp step
      split at step
      · obtain ⟨m, moves, rfl⟩ := Option.map_eq_some_iff.mp step
        have used : Used settings dispatch m := h.machine.step (.drop n) trivial moves
        obtain ⟨x, effects, y, moved⟩ := Session.Machine.drop?_moved moves
        exact .inr ⟨n, m, x, effects, y, used, moved, rfl, .inr (.inr ⟨job, rfl, gone⟩)⟩
      · cases step

theorem start_record (config : EngineConfig) (targets : List Target) :
    ∃ effect, (Engine.start config targets).record = [effect] ∧ callsIn [effect] = [] ∧
      endedIn [effect] = [] ∧ (Engine.start config targets).calls = 0 := by
  rcases Engine.start_cases config targets with ⟨ending, same, -⟩ | ⟨-, -, same⟩
  · rw [same]
    exact ⟨_, rfl, rfl, rfl, rfl⟩
  · rw [same]
    exact ⟨_, rfl, rfl, rfl, rfl⟩

theorem start_eq (m : Machine) (config : EngineConfig) (targets : List Target) :
    start m config targets =
      ⟨Engine.start config targets, m, [], eventsIn (Engine.start config targets).record⟩ := by
  obtain ⟨effect, record, silent, -⟩ := start_record config targets
  rw [start, record, foldl_follow silent]
  rfl

theorem linked_start (settings : TransactionSettings) (dispatch : Dispatch) (config : EngineConfig)
    (targets : List Target) :
    Linked settings dispatch config targets
      (start (.make (.make settings dispatch)) config targets) := by
  obtain ⟨effect, record, silent, unended, none_made⟩ := start_record config targets
  rw [start_eq]
  refine ⟨.start, .start, by simp [none_made], none_made.symm, ?_, ?_⟩
  · intro n what issued
    rw [← Engine.mem_callsIn, record, silent] at issued
    cases issued
  · intro n ending ended
    rw [← Engine.mem_endedIn, record, unended] at ended
    cases ended

theorem Linked.withEngine {e : Engine} {engineMove : Engine.Move}
    (h : Linked settings dispatch config targets j) (step : j.engine.step? engineMove = some e)
    (answered : j.Answered engineMove) :
    Linked settings dispatch config targets (j.withEngine e) := by
  have ended : ∀ n ending, .ended n ending ∈ e.record → ∃ outcome,
      ending = .returned outcome ∧ j.machine.calls[n]? = some (.returned outcome) := by
    intro n ending member
    rcases Engine.step?_ended step member with old | ⟨i, rfl, running⟩ | ⟨rfl, waits⟩
    · exact h.ended n ending old
    · obtain ⟨call, outcome, running', rfl, returned⟩ := answered
      obtain rfl : n = call := by simpa [running] using running'
      exact ⟨outcome, rfl, returned⟩
    · obtain ⟨call, outcome, waits', rfl, returned⟩ := answered
      obtain rfl : n = call := Option.some.inj (waits.symm.trans waits')
      exact ⟨outcome, rfl, returned⟩
  rcases Engine.step?_record step with ⟨what, record, calls, -⟩ | ⟨new, record, silent, calls⟩
  · rw [withEngine_issued record]
    constructor
    · exact h.engine.step engineMove step
    · exact h.machine.step (.call (entry what)) (isEntry_entry what) rfl
    · show j.calls ++ [j.machine.calls.length] = List.range e.calls
      rw [h.numbered, h.length, calls, List.range_succ]
    · simpa [Session.Machine.call, calls] using h.length
    · intro n what' issued
      rw [record] at issued
      rcases List.mem_append.mp issued with old | new
      · exact List.mem_append_left _ (h.called n what' old)
      · cases List.mem_singleton.mp new
        exact List.mem_append_right _ (by simp [h.length])
    · intro n ending member
      obtain ⟨outcome, same, returned⟩ := ended n ending member
      have inside := (List.getElem?_eq_some_iff.mp returned).1
      exact ⟨outcome, same, by simpa [Session.Machine.call, List.getElem?_append_left inside]⟩
  · rw [withEngine_silent record silent]
    constructor
    · exact h.engine.step engineMove step
    · exact h.machine
    · exact calls ▸ h.numbered
    · exact h.length.trans calls.symm
    · intro n what issued
      rw [← Engine.mem_callsIn, record, Engine.callsIn_append, silent, List.append_nil,
        Engine.mem_callsIn] at issued
      exact h.called n what issued
    · exact ended

theorem Linked.withMachine {n : Nat} {x y : Thread} {effects : List Session.Effect}
    {m : Machine} (h : Linked settings dispatch config targets j) (used : Used settings dispatch m)
    (moved : Moved j.machine n x effects y m) :
    Linked settings dispatch config targets (j.withMachine m) := by
  constructor
  · exact h.engine
  · exact used
  · exact h.numbered
  · exact moved.length.trans h.length
  · intro call what issued
    show _ ∈ m.record
    rw [moved.record]
    exact List.mem_append_left _ (h.called call what issued)
  · intro call ending ended
    obtain ⟨outcome, same, returned⟩ := h.ended call ending ended
    exact ⟨outcome, same, moved.returned_stays returned⟩

theorem Reachable.linked
    (h : Reachable (.make (.make settings dispatch)) config targets j) :
    Linked settings dispatch config targets j := by
  induction h with
  | start => exact linked_start settings dispatch config targets
  | step move _ step ih =>
      rcases ih.step?_cases step with ⟨engineMove, e, moves, answered, rfl⟩ |
        ⟨n, m, x, effects, y, used, moved, rfl, -⟩
      · exact ih.withEngine moves answered
      · exact ih.withMachine used moved

end Joint

end DumpFlow
