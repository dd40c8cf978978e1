import DumpFlow.Proofs.Engine.Schedule
import DumpFlow.Proofs.Joint.Linked
import DumpFlow.Proofs.Session.Dump
import DumpFlow.Proofs.Session.Enrolment

/-!
Runs of an engine on a session of its own whose database never fails. Whatever the order of the
jobs, the calls that are open at a stage are those of the stage, each of them stands where its own
past tells, and nothing fails.
-/

namespace DumpFlow

open scoped List

open Session (Client Thread DumpSettings RegisterPath BeginPath CommitPath ExecutePath Fair)
open Session.Machine (Used Moved)

/-- What a run is to do, and what it meets. -/
structure Plan where
  client : Client
  settings : TransactionSettings
  output : DumpOutput
  config : EngineConfig
  targets : List Target

namespace Plan

/-- The tables that are dumped. -/
def tables (P : Plan) : List String :=
  P.targets.filterMap fun t => if t.kind = .table then some t.subject else none

/-- What the transaction is asked for with. -/
def option (P : Plan) : TransactionOption :=
  P.settings.toOption P.tables

def dumps (P : Plan) (transaction : Transaction) : DumpSettings :=
  ⟨P.client, P.output.profile, transaction⟩

/-- The run starts on a session that nobody has used, with the standard operations. -/
def start (P : Plan) : Joint :=
  Joint.start (.make (.make P.settings (.standard P.output))) P.config P.targets

/-- The requests of the run are answered by its client. -/
def Favours (P : Plan) (j : Joint) : Joint.Move → Prop
  | .answer call reply =>
    (j.machine.pending? call).map (fun asked => P.client.reply j.machine.record asked.2) =
      some reply
  | _ => True

instance (P : Plan) (j : Joint) : (move : Joint.Move) → Decidable (P.Favours j move)
  | .answer _ reply => inferInstanceAs (Decidable (_ = some reply))
  | .start _ | .finish _ | .refuse _ | .join _ | .clear | .proceed | .settle | .act _ | .drop _ =>
    .isTrue trivial

/-- A run so far, by its moves. -/
inductive Run (P : Plan) : List Joint.Move → Joint → Prop where
  | start : Run P [] P.start
  | step {moves : List Joint.Move} {j j' : Joint} (move : Joint.Move) :
      Run P moves j → P.Favours j move → j.step? move = some j' → Run P (moves ++ [move]) j'

/-- The run after more moves; none if one of them is not possible or not what the client answers. -/
def run? (P : Plan) (j : Joint) (moves : List Joint.Move) : Option Joint :=
  moves.foldlM (fun j move => if P.Favours j move then j.step? move else none) j

/-- What the engine accepts, and has something to dump for. -/
structure Accepted (P : Plan) : Prop where
  valid : Engine.validate P.targets = .ok ()
  some_target : P.targets ≠ []
  some_worker : 0 < P.config.workerCount
  few_workers : P.config.workerCount ≤ Engine.greatestWorkers

/-- How a call of the run fares. -/
def Fares (P : Plan) (s : Session) : SessionCall → Thread → Prop
  | .register t, x => RegisterPath P.client t x.call x.past
  | .begin, x => ∃ state, BeginPath P.option state x.call x.past
  | .execute t, x => ∃ transaction, s.slot = some transaction ∧
      ExecutePath (P.dumps transaction) t x.call x.past
  | .commit, x => ∃ transaction state, s.slot = some transaction ∧
      CommitPath P.settings.commitStatus transaction state x.call x.past

/-- What becomes of the session while the engine is in a stage. -/
def Stands (P : Plan) (m : Session.Machine) : Stage → Prop
  | .registering => m.session.state = .preparing
  | .beginning call => ∀ x, m.threads[call]? = some x →
      BeginPath P.option m.session.state x.call x.past
  | .executing => m.session.state = .running
  | .committing call => ∀ x transaction, m.threads[call]? = some x →
      m.session.slot = some transaction →
        CommitPath P.settings.commitStatus transaction m.session.state x.call x.past
  | .stopping _ => False
  | .returned _ => m.session.state = .committed

structure Sound (P : Plan) (j : Joint) : Prop where
  linked : j.Linked P.settings (.standard P.output) P.config P.targets
  flawless : j.engine.Flawless
  fares : ∀ n what x, .issued n what ∈ j.engine.record → j.machine.threads[n]? = some x →
    P.Fares j.machine.session what x
  stands : P.Stands j.machine j.engine.stage

end Plan

namespace Joint

variable {settings : TransactionSettings} {dispatch : Dispatch} {config : EngineConfig}
  {targets : List Target} {j : Joint} {n : Nat} {what : SessionCall} {x : Thread}

theorem entry_inj {what what' : SessionCall} (h : entry what = entry what') : what = what' := by
  cases what <;> cases what' <;> cases h <;> rfl

namespace Linked

/-- Every call on the session is one of the engine. -/
theorem exists_issued (h : Linked settings dispatch config targets j)
    (stood : j.machine.threads[n]? = some x) : ∃ what, .issued n what ∈ j.engine.record := by
  have inside := (List.getElem?_eq_some_iff.mp stood).1
  rw [Session.Machine.length_threads, h.length] at inside
  have known : n ∈ (Engine.callsIn j.engine.record).map Prod.fst :=
    h.engine.booked.numbered ▸ List.mem_range.mpr inside
  obtain ⟨⟨_, what⟩, member, rfl⟩ := List.mem_map.mp known
  exact ⟨what, Engine.mem_callsIn.mp member⟩

theorem exists_thread (h : Linked settings dispatch config targets j)
    (issued : .issued n what ∈ j.engine.record) :
    ∃ x, j.machine.threads[n]? = some x ∧ .called (entry what) ∈ x.past :=
  h.machine.exists_thread (Session.Machine.mem_past.mpr (h.called n what issued))

/-- The call that the engine makes next. -/
theorem threads_call (h : Linked settings dispatch config targets j) (p : Session.Point) :
    (j.machine.call p).threads[j.engine.calls]? = some ⟨.ready p, [.called p]⟩ := by
  rw [h.machine.threads_call, ← h.length, ← Session.Machine.length_threads]
  exact List.getElem?_concat_length

/-- What a call was called for is what the engine has issued it for. -/
theorem issued_of_called {p : Session.Point} (h : Linked settings dispatch config targets j)
    (stood : j.machine.threads[n]? = some x) (called : .called p ∈ x.past) :
    ∃ what, .issued n what ∈ j.engine.record ∧ p = entry what := by
  obtain ⟨what, issued⟩ := h.exists_issued stood
  obtain ⟨x', stood', called'⟩ := h.exists_thread issued
  obtain rfl : x = x' := Option.some.inj (stood.symm.trans stood')
  have registers := h.machine.registers x (List.mem_of_getElem? stood)
  have same := (registers.called _ called).symm.trans (registers.called _ called')
  cases Option.some.inj same
  exact ⟨what, issued, rfl⟩

/-- A call that is under way is one that the engine waits for at its stage. -/
theorem awaits {p : Session.Point} (h : Linked settings dispatch config targets j)
    (flawless : j.engine.Flawless) (issued : .issued n what ∈ j.engine.record)
    (stood : j.machine.threads[n]? = some x) (stands : x.call.point? = some p) :
    Engine.Awaits n what j.engine.stage := by
  refine flawless.awaits h.engine issued fun ending ended => ?_
  obtain ⟨outcome, -, returned⟩ := h.ended n ending ended
  rw [Session.Machine.call_of_getElem? stood] at returned
  rw [Option.some.inj returned] at stands
  cases stands

/-- Once the engine begins, the keys that are registered are those of its targets. -/
theorem has_iff {output : DumpOutput} {b : Nat} {key : TargetKind × String}
    (h : Linked settings (.standard output) config targets j)
    (begun : .issued b .begin ∈ j.engine.record) :
    j.machine.session.dispatch.Has key ↔ ∃ t ∈ targets, Dispatch.keyOf t = key := by
  have staged := h.engine.staged
  have enrolment := h.machine.enrolment
  constructor
  · intro there
    rcases enrolment.source key there with empty | ⟨x, member, t, key, called, -⟩
    · exact absurd empty Dispatch.not_has_standard
    · obtain ⟨i, stood⟩ := List.getElem?_of_mem member
      obtain ⟨what, issued, same⟩ := h.issued_of_called stood called
      obtain rfl : .register t = what := entry_inj same
      have made : t ∈ Engine.targetsIn .register j.engine.record :=
        Engine.mem_targetsIn.mpr ⟨i, issued⟩
      exact ⟨t, (staged.once .register).subset made, key⟩
  · rintro ⟨t, member, rfl⟩
    obtain ⟨past, rest, split, due⟩ := Engine.exists_past begun staged.preceded
    have made : t ∈ Engine.targetsIn .register j.engine.record := by
      rw [split, Engine.targetsIn_append]
      exact List.mem_append_left _ (due.1.each_once.mem_iff.mpr member)
    obtain ⟨n, issued⟩ := Engine.mem_targetsIn.mp made
    obtain ⟨x, stood, called⟩ := h.exists_thread issued
    have well := staged.register_well issued begun (by decide)
    obtain ⟨outcome, same, returned⟩ := h.ended n .success well
    cases same
    rw [Session.Machine.call_of_getElem? stood] at returned
    exact enrolment.kept x (List.mem_of_getElem? stood) t
      (.inr ⟨Option.some.inj returned, called⟩)

end Linked

end Joint

namespace Plan

variable {P : Plan} {j : Joint} {n : Nat} {what : SessionCall} {x y : Thread}
  {s s' : Session} {effects : List Session.Effect}

theorem Run.more {before moves : List Joint.Move} {j' : Joint} (run : P.Run before j)
    (h : P.run? j moves = some j') : P.Run (before ++ moves) j' := by
  induction moves generalizing before j with
  | nil =>
      cases h
      rwa [List.append_nil]
  | cons move moves ih =>
      obtain ⟨next, first, rest⟩ := Option.bind_eq_some_iff.mp h
      obtain ⟨favours, step⟩ := Option.ite_none_right_eq_some.mp first
      rw [List.append_cons]
      exact ih (run.step move favours step) rest

theorem mem_tables {name : String} :
    name ∈ P.tables ↔ ∃ t ∈ P.targets, Dispatch.keyOf t = (.table, name) := by
  simp only [tables, List.mem_filterMap, Option.ite_none_right_eq_some, Option.some.injEq]
  constructor
  · rintro ⟨t, member, kind, rfl⟩
    exact ⟨t, member, by simp [Dispatch.keyOf, kind]⟩
  · rintro ⟨t, member, key⟩
    cases kind : t.kind with
    | table => exact ⟨t, member, kind, by simpa [Dispatch.keyOf, kind] using key⟩
    | query => simp [Dispatch.keyOf, kind] at key

theorem refusal?_eq_none {settings : TransactionSettings} {output : DumpOutput}
    (setup : Session.Setup settings (.standard output) s) (t : Target) :
    s.dispatch.refusal? t = none := by
  have all : s.dispatch.kinds = TargetKind.all := setup.kinds
  rw [Dispatch.refusal?, all]
  cases t.kind <;> rfl

/-- How a call fares is for the session no matter but of the slot. -/
theorem Fares.congr (h : P.Fares s what x) (slot : s'.slot = s.slot) : P.Fares s' what x := by
  cases what with
  | register t | begin => exact h
  | execute t => simpa only [Fares, slot] using h
  | commit => simpa only [Fares, slot] using h

theorem Fares.not_dropped (h : P.Fares s what x) : x.call ≠ .dropped := by
  intro gone
  obtain ⟨call, past⟩ := x
  obtain rfl : call = .dropped := gone
  cases what with
  | register t => exact Session.RegisterPath.not_dropped h
  | begin =>
      obtain ⟨state, path⟩ := h
      exact path.not_dropped
  | execute t =>
      obtain ⟨transaction, -, path⟩ := h
      exact path.not_dropped
  | commit =>
      obtain ⟨transaction, state, -, path⟩ := h
      exact path.not_dropped

theorem Fares.returned {outcome : Outcome} (h : P.Fares s what x)
    (returned : x.call = .returned outcome) : outcome = .ok () := by
  obtain ⟨call, past⟩ := x
  obtain rfl : call = .returned outcome := returned
  cases what with
  | register t => exact Session.RegisterPath.returned h
  | begin =>
      obtain ⟨state, path⟩ := h
      exact path.returned.1
  | execute t =>
      obtain ⟨transaction, -, path⟩ := h
      exact path.returned
  | commit =>
      obtain ⟨transaction, state, -, path⟩ := h
      exact path.returned.1

namespace Sound

theorem session_eq (h : P.Sound j) :
    Session.Setup P.settings (.standard P.output) j.machine.session :=
  h.linked.machine.setup

theorem isEmpty_eq (h : P.Sound j) {b : Nat} (begun : .issued b .begin ∈ j.engine.record)
    (some_ : P.targets ≠ []) : j.machine.session.dispatch.isEmpty = false := by
  obtain ⟨t, member⟩ := List.exists_mem_of_ne_nil _ some_
  exact Dispatch.isEmpty_of_has ((h.linked.has_iff begun).mpr ⟨t, member, rfl⟩)

theorem option_eq (h : P.Sound j) {b : Nat} (begun : .issued b .begin ∈ j.engine.record) :
    j.machine.session.settings.toOption j.machine.session.dispatch.tableNames = P.option := by
  rw [h.session_eq.settings]
  refine TransactionSettings.toOption_congr _ fun name => ?_
  rw [Dispatch.mem_tableNames, h.linked.has_iff begun, mem_tables]

theorem isRegistered_eq (h : P.Sound j) {t : Target}
    (issued : .issued n (.execute t) ∈ j.engine.record) :
    j.machine.session.dispatch.isRegistered t = true := by
  have staged := h.linked.engine.staged
  obtain ⟨b, begun, -⟩ := staged.begun_of_rank issued (Nat.lt_succ_self 1)
  have made : t ∈ Engine.targetsIn .execute j.engine.record :=
    Engine.mem_targetsIn.mpr ⟨n, issued⟩
  rw [Dispatch.isRegistered_iff, h.linked.has_iff begun]
  exact ⟨t, (staged.once .execute).subset made, rfl⟩

/-- The transaction is there while the session runs. -/
theorem exists_slot (h : P.Sound j) (active : j.machine.session.state.isActive = true) :
    ∃ transaction, j.machine.session.slot = some transaction :=
  Option.ne_none_iff_exists'.mp (h.linked.machine.filled.active active)

/-- A turn of one call of the run, by what it leaves of the session for the others. -/
theorem moved {m : Session.Machine} (h : P.Sound j) (used : Used P.settings (.standard P.output) m)
    (moved : Moved j.machine n x effects y m) (issued : .issued n what ∈ j.engine.record)
    (fares : P.Fares m.session what y)
    (slot : m.session.slot = j.machine.session.slot ∨ j.engine.stage.rank < 2)
    (stands : P.Stands m j.engine.stage) : P.Sound (j.withMachine m) where
  linked := h.linked.withMachine used moved
  flawless := h.flawless
  fares n' what' z issued' stood := by
    rcases moved.cases stood with ⟨rfl, rfl⟩ | ⟨-, stood⟩
    · rwa [h.linked.engine.booked.call_unique issued' issued]
    · have before := h.fares n' what' z issued' stood
      rcases slot with same | early
      · exact before.congr same
      · have low := Nat.lt_of_le_of_lt (h.linked.engine.staged.rank_le issued') early
        cases what' with
        | register t | begin => exact before
        | execute t | commit => simp [SessionCall.rank] at low
  stands := stands

/-- A turn in which the client answers what is asked of it. -/
theorem withMachine {m : Session.Machine} (h : P.Sound j) (some_ : P.targets ≠ [])
    (used : Used P.settings (.standard P.output) m) (moved : Moved j.machine n x effects y m)
    (kept : effects ≠ [.dropped])
    (fair : Fair P.client j.machine.record j.machine.session x.call effects) :
    P.Sound (j.withMachine m) := by
  obtain ⟨what, issued⟩ := h.linked.exists_issued moved.stood
  obtain ⟨p, stands⟩ := moved.turn.live
  have awaits := h.linked.awaits h.flawless issued moved.stood stands
  have fares := h.fares n what x issued moved.stood
  have own := moved.turn.own kept stands
  have at_stage := h.stands
  generalize stage : j.engine.stage = now at awaits at_stage
  cases awaits with
  | register t =>
      obtain ⟨r, rfl⟩ := Session.RegisterPath.point fares stands
      have turn : Session.RegisterTurn _ _ t _ _ _ _ := own
      obtain ⟨state, slot⟩ := turn.frame
      refine h.moved used moved issued ?_ (.inl slot) ?_
      · have path := fares.turn turn fair at_stage (refusal?_eq_none h.session_eq t)
        rwa [← moved.past] at path
      · rw [stage]
        exact state.trans at_stage
  | begin =>
      have path := at_stage x moved.stood
      obtain ⟨b, rfl⟩ := path.point stands
      have goes_on := path.turn own fair (h.isEmpty_eq issued some_) (h.option_eq issued)
      rw [← moved.past] at goes_on
      have early : j.engine.stage.rank < 2 := stage ▸ Nat.lt_succ_self 1
      refine h.moved used moved issued ⟨_, goes_on⟩ (.inr early) ?_
      rw [stage]
      intro z stood
      rcases moved.cases stood with ⟨-, rfl⟩ | ⟨other, -⟩
      · exact goes_on
      · exact absurd rfl other
  | execute t =>
      obtain ⟨transaction, held, path⟩ := fares
      obtain ⟨e, rfl⟩ := path.point stands
      have turn : Session.ExecuteTurn _ _ t _ _ _ _ := own
      have same := turn.frame
      have goes_on := path.turn turn fair at_stage held (refusal?_eq_none h.session_eq t)
        (h.isRegistered_eq issued) (congrArg DumpOutput.profile h.session_eq.output)
        fun statement rows ticket waits => path.next_file h.linked.machine moved.stood waits
      rw [← moved.past] at goes_on
      refine h.moved used moved issued ⟨transaction, same ▸ held, goes_on⟩
        (.inl (congrArg Session.slot same)) ?_
      rw [stage, Stands, same]
      exact at_stage
  | commit =>
      obtain ⟨transaction, -, held, -⟩ := fares
      have path := at_stage x transaction moved.stood held
      obtain ⟨o, rfl⟩ := path.point stands
      have turn : Session.CommitTurn _ _ _ _ _ _ := own
      have slot := turn.frame
      rw [← h.session_eq.settings] at path
      have goes_on := path.turn turn fair held
      rw [← moved.past, h.session_eq.settings] at goes_on
      refine h.moved used moved issued ⟨transaction, _, slot ▸ held, goes_on⟩ (.inl slot) ?_
      rw [stage]
      intro z transaction' stood held'
      obtain rfl : transaction = transaction' :=
        Option.some.inj (held.symm.trans (slot ▸ held'))
      rcases moved.cases stood with ⟨-, rfl⟩ | ⟨other, -⟩
      · exact goes_on
      · exact absurd rfl other

/-- What the engine sees end has ended well. -/
theorem well {move : Engine.Move} (h : P.Sound j) (answered : j.Answered move) :
    move.IsWell := by
  have ended : ∀ (call : Nat) (outcome : Outcome),
      j.machine.calls[call]? = some (.returned outcome) → Ending.returned outcome = .success := by
    intro call outcome returned
    have stood : j.machine.threads[call]? = some ⟨.returned outcome, j.machine.past call⟩ := by
      simp [Session.Machine.getElem?_threads, returned]
    obtain ⟨what, issued⟩ := h.linked.exists_issued stood
    rw [(h.fares call what _ issued stood).returned rfl]
    rfl
  cases move with
  | finish i ending =>
      obtain ⟨call, outcome, -, rfl, returned⟩ := answered
      exact ended call outcome returned
  | settle ending =>
      obtain ⟨call, outcome, -, rfl, returned⟩ := answered
      exact ended call outcome returned
  | start _ | refuse _ | join _ | clear | proceed => trivial

/-- The engine makes no call. -/
theorem silent {e : Engine} {new : List EngineEffect} (h : P.Sound j)
    (record : e.record = j.engine.record ++ new) (none_made : Engine.callsIn new = [])
    (linked : (j.withEngine e).Linked P.settings (.standard P.output) P.config P.targets)
    (flawless : e.Flawless) (stands : P.Stands j.machine e.stage) : P.Sound (j.withEngine e) := by
  rw [Joint.withEngine_silent record none_made] at linked ⊢
  refine ⟨linked, flawless, fun n what x issued stood => ?_, stands⟩
  change _ ∈ e.record at issued
  rw [← Engine.mem_callsIn, record, Engine.callsIn_append, none_made, List.append_nil,
    Engine.mem_callsIn] at issued
  exact h.fares n what x issued stood

/-- The engine makes its next call. -/
theorem issue {e : Engine} (h : P.Sound j)
    (record : e.record = j.engine.record ++ [.issued j.engine.calls what])
    (linked : (j.withEngine e).Linked P.settings (.standard P.output) P.config P.targets)
    (flawless : e.Flawless)
    (fares : P.Fares j.machine.session what
      ⟨.ready (Joint.entry what), [.called (Joint.entry what)]⟩)
    (stands : P.Stands (j.machine.call (Joint.entry what)) e.stage) : P.Sound (j.withEngine e) := by
  rw [Joint.withEngine_issued record] at linked ⊢
  refine ⟨linked, flawless, fun n what' x issued stood => ?_, stands⟩
  change _ ∈ e.record at issued
  change (j.machine.call (Joint.entry what)).threads[n]? = some x at stood
  rw [h.linked.machine.threads_call, List.getElem?_append] at stood
  rw [record] at issued
  rcases List.mem_append.mp issued with old | new
  · obtain ⟨z, stood', -⟩ := h.linked.exists_thread old
    have inside := (List.getElem?_eq_some_iff.mp stood').1
    rw [if_pos inside] at stood
    exact h.fares n what' x old stood
  · cases List.mem_singleton.mp new
    rw [Session.Machine.length_threads, h.linked.length, if_neg (Nat.lt_irrefl _),
      Nat.sub_self] at stood
    cases Option.some.inj stood
    exact fares

theorem withEngine {e : Engine} {move : Engine.Move} (h : P.Sound j)
    (hs : j.engine.step? move = some e) (answered : j.Answered move) :
    P.Sound (j.withEngine e) := by
  have well := h.well answered
  have linked := h.linked.withEngine hs answered
  have flawless := h.flawless.step h.linked.engine hs well
  have goes_well := h.flawless.goes_well
  have at_stage := h.stands
  simp only [Engine.GoesWell] at goes_well
  cases move with
  | start i =>
      obtain ⟨p, t, stage, -, -, -, rfl⟩ := Engine.start?_eq_some hs
      rw [stage] at at_stage
      cases p with
      | register =>
          refine h.issue rfl linked flawless .checkState ?_
          show P.Stands _ j.engine.stage
          rw [stage]
          exact at_stage
      | execute =>
          have running : j.machine.session.state = .running := at_stage
          obtain ⟨transaction, held⟩ := h.exists_slot (by rw [running]; rfl)
          refine h.issue rfl linked flawless ⟨transaction, held, .checkState⟩ ?_
          show P.Stands _ j.engine.stage
          rw [stage]
          exact running
  | finish i ending =>
      obtain ⟨call, -, -, rfl⟩ := Engine.finish?_eq_some hs
      exact h.silent rfl rfl linked flawless at_stage
  | refuse i =>
      obtain ⟨fault, stage, -⟩ := Engine.refuse?_eq_some hs
      simp [stage] at goes_well
  | join i =>
      obtain ⟨p, ending, stage, ended, ⟨-, rfl⟩ | ⟨fault, failed, rfl⟩⟩ := Engine.join?_eq_some hs
      · exact h.silent (List.append_nil _).symm rfl linked flawless at_stage
      · have stopped := flawless.goes_well
        simp [Engine.GoesWell, Engine.stopping] at stopped
  | clear =>
      obtain ⟨fault, stage, -⟩ := Engine.clear?_eq_some hs
      simp [stage] at goes_well
  | proceed =>
      obtain ⟨-, ⟨stage, rfl⟩ | ⟨stage, rfl⟩⟩ := Engine.proceed?_eq_some hs
      · rw [stage] at at_stage
        have path : BeginPath P.option j.machine.session.state _ _ := .checkState at_stage
        refine h.issue rfl linked flawless ⟨_, path⟩ fun z stood => ?_
        cases Option.some.inj (stood.symm.trans (h.linked.threads_call _))
        exact path
      · rw [stage] at at_stage
        have running : j.machine.session.state = .running := at_stage
        obtain ⟨transaction, held⟩ := h.exists_slot (by rw [running]; rfl)
        have path : CommitPath P.settings.commitStatus transaction j.machine.session.state _ _ :=
          .start running
        refine h.issue rfl linked flawless ⟨transaction, _, held, path⟩
          fun z transaction' stood held' => ?_
        cases Option.some.inj (stood.symm.trans (h.linked.threads_call _))
        cases Option.some.inj (held.symm.trans held')
        exact path
  | settle ending =>
      obtain ⟨call, outcome, waits, rfl, returned⟩ := answered
      have stood : j.machine.threads[call]? = some ⟨.returned outcome, j.machine.past call⟩ := by
        simp [Session.Machine.getElem?_threads, returned]
      rcases Engine.settle?_eq_some hs with ⟨call', stage, -, rfl⟩ | ⟨call', stage, failed, -⟩ |
        ⟨call', stage, rfl⟩
      · rw [stage] at at_stage waits
        obtain rfl : call' = call := Option.some.inj waits
        have path := at_stage _ stood
        exact h.silent (List.append_assoc ..) rfl linked flawless path.returned.2
      · exact absurd well failed
      · rw [stage] at at_stage waits
        obtain rfl : call' = call := Option.some.inj waits
        have issued := h.linked.engine.staged.at_stage
        simp only [Engine.AtStage, stage] at issued
        obtain ⟨transaction, -, held, -⟩ := h.fares _ _ _ issued stood
        have path := at_stage _ transaction stood held
        exact h.silent (List.append_assoc ..) rfl linked flawless path.returned.2

theorem start (accepted : P.Accepted) : P.Sound P.start := by
  have linked := Joint.linked_start P.settings (.standard P.output) P.config P.targets
  obtain ⟨effect, record, silent, -⟩ := Joint.start_record P.config P.targets
  rw [Plan.start]
  rw [Joint.start_eq] at linked ⊢
  refine ⟨linked, .start accepted.valid accepted.few_workers, ?_, ?_⟩
  · intro n what x issued
    change _ ∈ (Engine.start P.config P.targets).record at issued
    rw [← Engine.mem_callsIn, record, silent] at issued
    cases issued
  · rcases Engine.start_cases P.config P.targets with ⟨ending, -, ⟨fault, refused, -⟩ | ⟨-, many⟩⟩ |
      ⟨-, -, same⟩
    · rw [accepted.valid] at refused
      cases refused
    · exact absurd accepted.few_workers (Nat.not_le_of_lt many)
    · rw [same]
      rfl

theorem fair {reply : Reply} {p : Session.Point} {ticket : Nat}
    (stood : j.machine.threads[n]? = some x) (waits : x.call = .waiting p ticket)
    (favours : P.Favours j (.answer n reply)) :
    Fair P.client j.machine.record j.machine.session x.call [.answered ticket reply] := by
  obtain ⟨⟨ticket', q⟩, pending, rfl⟩ := Option.map_eq_some_iff.mp favours
  intro p' ticket'' waits'
  obtain ⟨rfl, rfl⟩ := Session.Call.waiting.inj (waits.symm.trans waits')
  have call := Session.Machine.call_of_getElem? stood
  rw [waits] at call
  simp only [Session.Machine.pending?, call] at pending
  split at pending
  · rename_i q' asks
    cases pending
    exact ⟨_, asks, rfl⟩
  · cases pending

theorem step {move : Joint.Move} {j' : Joint} (h : P.Sound j) (some_ : P.targets ≠ [])
    (favours : P.Favours j move) (step : j.step? move = some j') : P.Sound j' := by
  rcases h.linked.step?_cases step with ⟨engineMove, e, moves, answered, rfl⟩ |
    ⟨n, m, x, effects, y, used, moved, rfl, how⟩
  · exact h.withEngine moves answered
  · rcases how with ⟨p, rfl, stands, kept⟩ | ⟨p, ticket, reply, rfl, waits, rfl⟩ | ⟨job, rfl, gone⟩
    · refine h.withMachine some_ used moved kept fun p' ticket waits => ?_
      rw [stands] at waits
      cases waits
    · exact h.withMachine some_ used moved (by simp) (fair moved.stood waits favours)
    · simp only [Joint.droppedCall?] at gone
      split at gone
      · rename_i call dropped
        rcases h.flawless.jobs _ (List.mem_of_getElem? dropped) with same | ⟨_, same⟩ | same | same
        all_goals cases same
      · cases gone

end Sound

theorem Run.sound {moves : List Joint.Move} (run : P.Run moves j) (accepted : P.Accepted) :
    P.Sound j := by
  induction run with
  | start => exact .start accepted
  | step move _ favours step ih => exact ih.step accepted.some_target favours step

end Plan

end DumpFlow
