import DumpFlow.Proofs.Engine.Stopping
import DumpFlow.Proofs.Joint.Linked
import DumpFlow.Proofs.Engine.Report
import DumpFlow.Engine.Rehearsal
import Mathlib.Data.Set.Finite.Lattice
import Mathlib.Order.Interval.Finset.Nat

/-!
Every run ends. The session is anything that takes calls and brings each of them to an end in
finitely many steps of that call; how many these are may depend on everything that happens in
between. A run on it has no infinite schedule, and one that cannot be continued has returned, with
no job left in the pool.
-/

namespace DumpFlow

/-- What never grows from some point on shrinks only finitely often. -/
theorem finite_of_descends {f : Nat → Nat} {shrinks : Set Nat} (N : Nat)
    (keeps : ∀ k, N ≤ k → f (k + 1) ≤ f k)
    (drops : ∀ k, N ≤ k → k ∈ shrinks → f (k + 1) < f k) : shrinks.Finite := by
  obtain ⟨least, ⟨M, late, rfl⟩, minimal⟩ :=
    WellFounded.has_min Nat.lt_wfRel.wf (f '' Set.Ici N) ⟨f N, N, Set.self_mem_Ici, rfl⟩
  have below : ∀ k, M ≤ k → f k ≤ f M := by
    intro k after
    induction k, after using Nat.le_induction with
    | base => exact Nat.le_refl _
    | succ k after ih => exact Nat.le_trans (keeps k (Nat.le_trans late after)) ih
  refine (Set.finite_Iio M).subset fun k member => ?_
  by_contra after
  have after : M ≤ k := Nat.le_of_not_lt after
  have later : N ≤ k := Nat.le_trans late after
  exact minimal (f (k + 1)) ⟨k + 1, Nat.le_succ_of_le later, rfl⟩
    (Nat.lt_of_lt_of_le (drops k later member) (below k after))

/-- A session as its engine meets it. Its calls are numbered in the order in which they are made. -/
structure Service (σ : Type) where
  accept : σ → SessionCall → σ
  /-- A call can take a step of its own, which may change all of the session. -/
  Advances : σ → Nat → σ → Prop
  /-- A call has come to its end. -/
  Ends : σ → Nat → Ending → Prop

namespace Service

/-- What happens to a session: a call is made, a call takes a step, or nothing. -/
inductive Act where
  | accept (what : SessionCall)
  | advance (call : Nat)
  | rest

variable {σ : Type}

def Does (S : Service σ) (s : σ) : Act → σ → Prop
  | .accept what, s' => s' = S.accept s what
  | .advance call, s' => S.Advances s call s'
  | .rest, s' => s' = s

/-- The states after some calls were made, oldest first, and have taken some steps. -/
inductive Reaches (S : Service σ) (s : σ) : List SessionCall → σ → Prop
  | start : Reaches S s [] s
  | accept {asked : List SessionCall} {s' : σ} (what : SessionCall) :
      Reaches S s asked s' → Reaches S s (asked ++ [what]) (S.accept s' what)
  | advance {asked : List SessionCall} {s' s'' : σ} (call : Nat) :
      Reaches S s asked s' → S.Advances s' call s'' → Reaches S s asked s''

/-- Each call completes after some finite number of its own steps. -/
structure Completes (S : Service σ) (s : σ) : Prop where
  /-- As long as it has not ended, it can take one more, -/
  goes_on : ∀ asked s', S.Reaches s asked s' → ∀ call < asked.length,
    (∃ ending, S.Ends s' call ending) ∨ ∃ s'', S.Advances s' call s''
  /-- and it takes only finitely many, whatever else happens and for how long. -/
  finite_steps : ∀ (history : Nat → σ) (act : Nat → Act), history 0 = s →
    (∀ k, S.Does (history k) (act k) (history (k + 1))) →
    ∀ call, {k | act k = .advance call}.Finite

end Service

/-- An engine and the session that it drives. -/
structure Duo (σ : Type) where
  engine : Engine
  session : σ

namespace Duo

variable {σ : Type} {S : Service σ} {d d' : Duo σ}

inductive Move where
  | engine (move : Engine.Move)
  /-- A call takes a step. If its job was given up, it may do so or not. -/
  | advance (call : Nat)

def start (s : σ) (config : EngineConfig) (targets : List Target) : Duo σ :=
  ⟨Engine.start config targets, s⟩

def follow (S : Service σ) (s : σ) : EngineEffect → σ
  | .issued _ what => S.accept s what
  | .announced _ | .ended _ _ | .stopped _ | .returned _ => s

/-- The engine goes on as `e`, and the calls that it makes reach the session. -/
def withEngine (S : Service σ) (d : Duo σ) (e : Engine) : Duo σ :=
  ⟨e, (e.record.drop d.engine.record.length).foldl (follow S) d.session⟩

/-- The engine sees a call end only as it has. -/
def Answered (S : Service σ) (d : Duo σ) : Engine.Move → Prop
  | .finish i ending => ∃ call, d.engine.jobs[i]? = some (.running call) ∧
      S.Ends d.session call ending
  | .settle ending => ∃ call, d.engine.stage.call? = some call ∧ S.Ends d.session call ending
  | _ => True

inductive Step (S : Service σ) (d : Duo σ) : Move → Duo σ → Prop
  | engine {e : Engine} (move : Engine.Move) : d.engine.step? move = some e →
      d.Answered S move → Step S d (.engine move) (d.withEngine S e)
  | advance {s : σ} (call : Nat) : call < d.engine.calls → S.Advances d.session call s →
      Step S d (.advance call) ⟨d.engine, s⟩

inductive Reachable (S : Service σ) (s : σ) (config : EngineConfig) (targets : List Target) :
    Duo σ → Prop
  | start : Reachable S s config targets (start s config targets)
  | step {d d' : Duo σ} (move : Move) :
      Reachable S s config targets d → Step S d move d' → Reachable S s config targets d'

end Duo

namespace Engine

/-- How many jobs have been neither joined nor given up. -/
def pending (e : Engine) : Nat :=
  e.jobs.countP fun job => !job.isSettled

variable {e : Engine} {config : EngineConfig} {targets : List Target} {ending : Ending}

/-- A run that is over when it starts stays as it is. -/
theorem Reachable.eq_start (h : Reachable config targets e)
    (refused : (Engine.start config targets).stage = .returned ending) :
    e = Engine.start config targets := by
  induction h with
  | start => rfl
  | step move _ hs ih =>
      rw [ih, step?_of_returned refused] at hs
      cases hs

/-- No hypothesis on the targets: a run that is refused is over. -/
theorem Reachable.goesOn_of_unfinished (h : Reachable config targets e)
    (workers : 0 < config.workerCount) (unfinished : e.ending? = none) : GoesOn e := by
  rcases start_cases config targets with ⟨ending, same, -⟩ | ⟨valid, few, -⟩
  · have refused : (Engine.start config targets).stage = .returned ending := by rw [same]
    rw [h.eq_start refused, ending?, refused] at unfinished
    cases unfinished
  · exact h.goesOn (h.accounts valid few) workers unfinished

theorem Reachable.pending_eq_zero (h : Reachable config targets e)
    (stage : e.stage = .returned ending) : e.pending = 0 := by
  have settled : ∀ job ∈ e.jobs, job.isSettled = true := by
    intro job member
    cases h.at_rest stage with
    | joined all => rw [all job member]; rfl
    | cleared fault _ _ all => exact all job member
  simpa [pending] using settled

end Engine

namespace Duo

open Engine (callsIn)

variable {σ : Type} {S : Service σ} {s : σ} {d d' : Duo σ} {config : EngineConfig}
  {targets : List Target} {move : Move}

theorem foldl_follow {new : List EngineEffect} (silent : callsIn new = []) (s : σ) :
    new.foldl (follow S) s = s := by
  induction new generalizing s with
  | nil => rfl
  | cons effect new ih =>
      cases effect with
      | issued call what => cases silent
      | announced _ | ended _ _ | stopped _ | returned _ => exact ih silent s

/-- A move of the engine brings its session one call or none. -/
theorem withEngine_cases {e : Engine} {engineMove : Engine.Move}
    (moves : d.engine.step? engineMove = some e) :
    (∃ what, d.withEngine S e = ⟨e, S.accept d.session what⟩ ∧
      e.issued = d.engine.issued ++ [what]) ∨
    (d.withEngine S e = ⟨e, d.session⟩ ∧ e.issued = d.engine.issued) := by
  rcases Engine.step?_record moves with ⟨what, record, -⟩ | ⟨new, record, silent, -⟩
  · refine .inl ⟨what, ?_, ?_⟩
    · rw [withEngine, record, List.drop_left]
      rfl
    · rw [Engine.issued_eq, Engine.issued_eq, record, Engine.callsIn_append, List.map_append]
      rfl
  · refine .inr ⟨?_, ?_⟩
    · rw [withEngine, record, List.drop_left, foldl_follow silent]
    · rw [Engine.issued_eq, Engine.issued_eq, record, Engine.callsIn_append, silent,
        List.append_nil]

/-- What a run on any session keeps: the engine runs by its own rules, and its calls are those that
its session has taken. -/
structure Paired (S : Service σ) (s : σ) (config : EngineConfig) (targets : List Target)
    (d : Duo σ) : Prop where
  engine : Engine.Reachable config targets d.engine
  session : S.Reaches s d.engine.issued d.session

theorem Paired.step (h : Paired S s config targets d) (step : Step S d move d') :
    Paired S s config targets d' := by
  cases step with
  | engine move moves _ =>
      have engine := h.engine.step move moves
      rcases withEngine_cases (S := S) moves with ⟨what, same, issued⟩ | ⟨same, issued⟩
      · rw [same]
        exact ⟨engine, issued ▸ h.session.accept what⟩
      · rw [same]
        exact ⟨engine, issued ▸ h.session⟩
  | advance call _ advances => exact ⟨h.engine, h.session.advance call advances⟩

theorem paired_start : Paired S s config targets (start s config targets) := by
  refine ⟨.start, ?_⟩
  have none_issued : (Engine.start config targets).issued = [] := by
    rcases Engine.start_cases config targets with ⟨ending, same, -⟩ | ⟨-, -, same⟩ <;>
      rw [same] <;> rfl
  exact none_issued.symm ▸ .start

theorem Reachable.paired (h : Reachable S s config targets d) : Paired S s config targets d := by
  induction h with
  | start => exact paired_start
  | step _ _ step ih => exact ih.step step

theorem Paired.issued_length (h : Paired S s config targets d) :
    d.engine.issued.length = d.engine.calls := by
  rw [Engine.issued_eq, List.length_map, ← List.length_map (f := Prod.fst),
    h.engine.booked.numbered, List.length_range]

/-! ### No infinite schedule -/

theorem Paired.reach_step (h : Paired S s config targets d) (step : Step S d move d') :
    d.engine.reach ≤ d'.engine.reach ∧
      ∀ engineMove, move = .engine engineMove → d.engine.reach < d'.engine.reach := by
  cases step with
  | engine engineMove moves _ =>
      have further : d.engine.reach < (d.withEngine S _).engine.reach :=
        Engine.reach_step h.engine moves
      exact ⟨Nat.le_of_lt further, fun _ _ => further⟩
  | advance call _ _ => exact ⟨Nat.le_refl _, nofun⟩

/-- What a move is for the session. -/
theorem Step.does (step : Step S d move d') :
    ∃ act, S.Does d.session act d'.session ∧
      ∀ call, move = .advance call → act = .advance call := by
  cases step with
  | engine engineMove moves _ =>
      rcases withEngine_cases (S := S) moves with ⟨what, same, -⟩ | ⟨same, -⟩
      · exact ⟨.accept what, (congrArg session same :), nofun⟩
      · exact ⟨.rest, (congrArg session same :), nofun⟩
  | advance call _ advances =>
      refine ⟨.advance call, advances, fun call' same => ?_⟩
      cases same
      rfl

theorem Paired.call_lt (h : Paired S s config targets d) {call : Nat}
    (step : Step S d (.advance call) d') : call < 6 * targets.length + 5 := by
  cases step with
  | advance _ made _ =>
      have top := h.engine.reach_le
      simp only [Engine.reach] at top
      omega

section Infinite

variable {run : Nat → Duo σ} {move : Nat → Move} (starts : run 0 = start s config targets)
  (steps : ∀ k, Step S (run k) (move k) (run (k + 1)))

include starts steps

theorem paired_run (k : Nat) : Paired S s config targets (run k) := by
  induction k with
  | zero => exact starts ▸ paired_start
  | succ k ih => exact ih.step (steps k)

theorem finite_engine_moves : {k | ∃ m, move k = .engine m}.Finite := by
  have paired := paired_run starts steps
  refine finite_of_descends (f := fun k => 6 * targets.length + 5 - (run k).engine.reach) 0
    (fun k _ => Nat.sub_le_sub_left ((paired k).reach_step (steps k)).1 _) ?_
  rintro k - ⟨m, same⟩
  have further := ((paired k).reach_step (steps k)).2 m same
  have top : (run (k + 1)).engine.reach ≤ 6 * targets.length + 5 := (paired (k + 1)).engine.reach_le
  omega

theorem finite_call_steps (complete : S.Completes s) (call : Nat) :
    {k | move k = .advance call}.Finite := by
  choose act does advances using fun k => (steps k).does
  exact (complete.finite_steps (fun k => (run k).session) act (congrArg session starts) does
    call).subset fun k same => advances k call same

/-- The engine makes finitely many moves, and each of its calls, of which there are finitely many,
takes finitely many steps. -/
theorem no_infinite_run (complete : S.Completes s) : False := by
  have few_calls : ∀ k call, move k = .advance call → call < 6 * targets.length + 5 :=
    fun k call same => (paired_run starts steps k).call_lt (same ▸ steps k)
  have all : (Set.univ : Set Nat) ⊆ {k | ∃ m, move k = .engine m} ∪
      ⋃ call ∈ Set.Iio (6 * targets.length + 5), {k | move k = .advance call} := by
    intro k _
    cases same : move k with
    | engine m => exact .inl ⟨m, same⟩
    | advance call => exact .inr (Set.mem_biUnion (few_calls k call same) same)
  exact Set.infinite_univ (((finite_engine_moves starts steps).union ((Set.finite_Iio _).biUnion
    fun call _ => finite_call_steps starts steps complete call)).subset all)

end Infinite

/-! ### No deadlock -/

/-- A run that has not returned can go on: the engine by itself, or a call that it waits for. -/
theorem Paired.exists_step (h : Paired S s config targets d) (complete : S.Completes s)
    (workers : 0 < config.workerCount) (unfinished : d.engine.ending? = none) :
    ∃ move d', Step S d move d' := by
  cases h.engine.goesOn_of_unfinished workers unfinished with
  | moves engineMove e own moves =>
      refine ⟨_, _, .engine engineMove moves ?_⟩
      cases engineMove with
      | finish _ _ | settle _ => cases own
      | start _ | refuse _ | join _ | clear | proceed => trivial
  | waits call what issued open_ taken =>
      have made : call < d.engine.issued.length := by
        rw [h.issued_length]
        have known : call ∈ (callsIn d.engine.record).map Prod.fst :=
          List.mem_map_of_mem (f := Prod.fst) (Engine.mem_callsIn.mpr issued)
        rwa [h.engine.booked.numbered, List.mem_range] at known
      rcases complete.goes_on _ _ h.session call made with ⟨ending, ends⟩ | ⟨s', advances⟩
      · obtain ⟨engineMove, e, rest, moves, record⟩ := taken ending
        have ended : .ended call ending ∈ e.record := by
          rw [record]
          exact List.mem_append_right _ (List.mem_cons_self ..)
        refine ⟨_, _, .engine engineMove moves ?_⟩
        rcases Engine.step?_ended moves ended with old | ⟨i, rfl, running⟩ | ⟨rfl, waits⟩
        · exact absurd old (open_ ending)
        · exact ⟨call, running, ends⟩
        · exact ⟨call, waits, ends⟩
      · exact ⟨_, _, .advance call (h.issued_length ▸ made) advances⟩

/-- What can be said of the end of all runs on a session. -/
structure Terminates (S : Service σ) (s : σ) (config : EngineConfig) (targets : List Target) :
    Prop where
  no_infinite_run : ∀ (run : Nat → Duo σ) (move : Nat → Move),
    run 0 = start s config targets → ¬ ∀ k, Step S (run k) (move k) (run (k + 1))
  /-- Where neither the engine nor a call can move, the run has returned. -/
  returned_of_stuck : ∀ d, Reachable S s config targets d → (∀ move d', ¬ Step S d move d') →
    ∃ ending, d.engine.stage = .returned ending
  /-- The engine stands still once it has returned. -/
  still : ∀ d, Reachable S s config targets d → ∀ ending, d.engine.stage = .returned ending →
    ∀ move d', Step S d move d' → d'.engine = d.engine
  /-- However a run has returned, and from wherever in it, no job is left to wait for. -/
  none_pending : ∀ d, Reachable S s config targets d → ∀ ending,
    d.engine.stage = .returned ending → d.engine.pending = 0

/-- Whatever the targets are. -/
theorem terminates (complete : S.Completes s) (workers : 0 < config.workerCount) :
    Terminates S s config targets where
  no_infinite_run _ _ starts steps := Duo.no_infinite_run starts steps complete
  returned_of_stuck d reached stuck := by
    cases stage : d.engine.stage with
    | returned ending => exact ⟨ending, rfl⟩
    | registering | beginning _ | executing | committing _ | stopping _ =>
        obtain ⟨move, d', step⟩ :=
          reached.paired.exists_step complete workers (by simp [Engine.ending?, stage])
        exact absurd step (stuck move d')
  still d _ ending stage move d' step := by
    cases step with
    | engine engineMove moves _ =>
        rw [Engine.step?_of_returned stage] at moves
        cases moves
    | advance _ _ _ => rfl
  none_pending d reached ending stage := reached.paired.engine.pending_eq_zero stage

end Duo

/-! ### A session whose calls are agreed beforehand -/

namespace Service

/-- A session that keeps the steps which its calls have left and the ends that are agreed for them;
the number of steps goes by the place of a call in the order of all calls. -/
def agreed (r : Engine.Rehearsal) (steps : Nat → Nat) : Service (List (Nat × Ending)) where
  accept s what := s ++ [(steps s.length, r.ending what)]
  Advances s call s' := ∃ left ending, s[call]? = some (left + 1, ending) ∧
    s' = s.set call (left, ending)
  Ends s call ending := s[call]? = some (0, ending)

variable {r : Engine.Rehearsal} {steps : Nat → Nat} {s s' : List (Nat × Ending)} {act : Act}
  {asked : List SessionCall} {call left : Nat} {ending : Ending}

theorem length_of_reaches (h : (agreed r steps).Reaches [] asked s) : s.length = asked.length := by
  induction h with
  | start => rfl
  | accept what _ ih => simpa [agreed] using ih
  | advance call _ advances ih =>
      obtain ⟨left, ending, -, rfl⟩ := advances
      rw [List.length_set, ih]

/-- A call never has more steps left than before, and fewer after a step of its own. -/
theorem left_of_does (does : (agreed r steps).Does s act s')
    (stands : s[call]? = some (left, ending)) :
    ∃ left', s'[call]? = some (left', ending) ∧ left' ≤ left ∧
      (act = .advance call → left' < left) := by
  have inside := (List.getElem?_eq_some_iff.mp stands).1
  cases act with
  | accept what =>
      obtain rfl : s' = s ++ [(steps s.length, r.ending what)] := does
      exact ⟨left, by rw [List.getElem?_append_left inside, stands], Nat.le_refl _, nofun⟩
  | advance other =>
      obtain ⟨left', ending', known, rfl⟩ := does
      by_cases same : other = call
      · subst same
        rw [stands] at known
        cases known
        exact ⟨left', by simp [inside], Nat.le_succ _, fun _ => Nat.lt_succ_self _⟩
      · exact ⟨left, by rw [List.getElem?_set_ne same, stands], Nat.le_refl _,
          fun own => absurd (Act.advance.inj own) same⟩
  | rest =>
      obtain rfl : s' = s := does
      exact ⟨left, stands, Nat.le_refl _, nofun⟩

theorem completes_agreed (r : Engine.Rehearsal) (steps : Nat → Nat) :
    (agreed r steps).Completes [] where
  goes_on asked s reached call made := by
    rw [← length_of_reaches reached] at made
    obtain ⟨⟨left, ending⟩, stands⟩ : ∃ entry, s[call]? = some entry :=
      ⟨_, List.getElem?_eq_getElem made⟩
    cases left with
    | zero => exact .inl ⟨ending, stands⟩
    | succ left => exact .inr ⟨_, left, ending, stands, rfl⟩
  finite_steps history act starts does call := by
    by_cases made : ∃ N left ending, (history N)[call]? = some (left, ending)
    · obtain ⟨N, left, ending, stands⟩ := made
      have stays : ∀ k, N ≤ k → ∃ left, (history k)[call]? = some (left, ending) := by
        intro k after
        induction k, after using Nat.le_induction with
        | base => exact ⟨left, stands⟩
        | succ k _ ih =>
            obtain ⟨left, stands⟩ := ih
            obtain ⟨left', stands', -⟩ := left_of_does (does k) stands
            exact ⟨left', stands'⟩
      let leftAt (k : Nat) : Nat := ((history k)[call]?.map Prod.fst).getD 0
      refine finite_of_descends (f := leftAt) N (fun k after => ?_) fun k after own => ?_
      all_goals
        obtain ⟨left, stands⟩ := stays k after
        obtain ⟨left', stands', fewer, own_fewer⟩ := left_of_does (does k) stands
        simp only [leftAt, stands, stands', Option.map_some, Option.getD_some]
      · exact fewer
      · exact own_fewer own
    · -- The call is never made.
      refine Set.finite_empty.subset fun k own => made ?_
      have advances := does k
      rw [show act k = .advance call from own] at advances
      obtain ⟨left, ending, stands, -⟩ := advances
      exact ⟨k, left + 1, ending, stands⟩

end Service

/-- Calls of different lengths; the dump of the query panics while a third job waits. -/
theorem Duo.terminates_agreed :
    0 < EngineConfig.workerCount ⟨2⟩ ∧
      (Service.agreed ⟨.empty, .ofList [("q", .panicked "out of memory")], .success, .success⟩
        fun call => 7 * call).Completes [] ∧
      Terminates (Service.agreed
          ⟨.empty, .ofList [("q", .panicked "out of memory")], .success, .success⟩
          fun call => 7 * call) []
        ⟨2⟩ [.table "a" ⟨"p/a"⟩, .query "q" "SELECT 1" ⟨"p/q"⟩, .table "b" ⟨"p/b"⟩] := by
  have complete := Service.completes_agreed
    ⟨.empty, .ofList [("q", .panicked "out of memory")], .success, .success⟩ fun call => 7 * call
  exact ⟨by decide, complete, terminates complete (by decide)⟩

end DumpFlow
