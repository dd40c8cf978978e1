import Mathlib.Algebra.Order.BigOperators.Group.List
import Mathlib.Algebra.Order.Group.Nat
import DumpFlow.Proofs.Precedence
import DumpFlow.Proofs.Session.Turn

/-!
A machine as its threads: each call with what it alone has done. A turn of a call replaces one
thread and says nothing about the others, so that what is known of one call by itself can be told
from what holds between calls.
-/

namespace DumpFlow.Session

open scoped List

/-- `past` is what the call has done, oldest first. -/
structure Thread where
  call : Call
  past : List Effect

/-- Where the users of a session start a call. -/
inductive Point.IsEntry : Point → Prop where
  | registering (t : Target) : IsEntry (registering t)
  | beginning : IsEntry beginning
  | executing (t : Target) : IsEntry (executing t)
  | committing : IsEntry committing
  | closing : IsEntry closing

attribute [simp] Point.IsEntry.registering Point.IsEntry.beginning Point.IsEntry.executing
  Point.IsEntry.committing Point.IsEntry.closing

@[simp] def Move.IsProper : Move → Prop
  | .call p => p.IsEntry
  | .act _ | .answer _ _ | .drop _ => True

def Effect.isIssued : Effect → Bool
  | .issued _ _ => true
  | _ => false

def Effect.event? : Effect → Option MonitorEvent
  | .emitted event => some event
  | _ => none

def emittedIn (effects : List Effect) : List MonitorEvent :=
  effects.filterMap Effect.event?

@[simp] theorem emittedIn_append (es es' : List Effect) :
    emittedIn (es ++ es') = emittedIn es ++ emittedIn es' :=
  List.filterMap_append

namespace Machine

def past (m : Machine) (i : Nat) : List Effect :=
  m.record.filterMap fun e => if e.call = i then some e.effect else none

def threads (m : Machine) : List Thread :=
  m.calls.mapIdx fun i c => ⟨c, m.past i⟩

def effects (m : Machine) : List Effect :=
  m.record.map Entry.effect

/-- Every entry is one of a call. -/
def Numbered (m : Machine) : Prop :=
  ∀ e ∈ m.record, e.call < m.calls.length

/-- The machine after some moves of users who start every call at its entry. -/
inductive Used (settings : TransactionSettings) (dispatch : Dispatch) : Machine → Prop where
  | start : Used settings dispatch (make (.make settings dispatch))
  | step {m m' : Machine} (move : Move) : Used settings dispatch m → move.IsProper →
      m.step? move = some m' → Used settings dispatch m'

/-- Call `i` takes a turn and thereby goes from `x` to `y`. -/
structure Moved (m : Machine) (i : Nat) (x : Thread) (effects : List Effect) (y : Thread)
    (m' : Machine) : Prop where
  stood : m.threads[i]? = some x
  turn : Turn m.session m.tickets x.call m'.session y.call effects
  past : y.past = x.past ++ (effects ++ returns y.call)
  threads : m'.threads = m.threads.set i y
  record : m'.record = m.record ++ (effects ++ returns y.call).map (Entry.mk i)
  tickets : m'.tickets = m.tickets + effects.countP Effect.isIssued
  length : m'.calls.length = m.calls.length

variable {settings : TransactionSettings} {dispatch : Dispatch} {m m' : Machine}
  {i j : Nat} {x y z : Thread} {effects : List Effect}

@[simp] theorem length_threads (m : Machine) : m.threads.length = m.calls.length := by
  simp [threads]

theorem getElem?_threads (m : Machine) (i : Nat) :
    m.threads[i]? = m.calls[i]?.map fun c => ⟨c, m.past i⟩ := by
  simp [threads]

theorem call_of_getElem? (h : m.threads[i]? = some x) : m.calls[i]? = some x.call := by
  obtain ⟨c, stood, rfl⟩ := Option.map_eq_some_iff.mp (getElem?_threads m i ▸ h)
  exact stood

theorem mem_past {e : Effect} : e ∈ m.past i ↔ ⟨i, e⟩ ∈ m.record := by
  simp only [past, List.mem_filterMap, Option.ite_none_right_eq_some, Option.some.injEq]
  constructor
  · rintro ⟨⟨_, _⟩, member, rfl, rfl⟩
    exact member
  · exact fun member => ⟨_, member, rfl, rfl⟩

theorem mem_effects_iff {e : Effect} : e ∈ m.effects ↔ ∃ i, e ∈ m.past i := by
  simp only [Machine.effects, List.mem_map, mem_past]
  constructor
  · rintro ⟨⟨i, _⟩, member, rfl⟩
    exact ⟨i, member⟩
  · rintro ⟨i, member⟩
    exact ⟨_, member, rfl⟩

theorem events_eq (m : Machine) : m.events = emittedIn m.effects := by
  rw [emittedIn, Machine.effects, List.filterMap_map]
  rfl

theorem effects_call (m : Machine) (p : Point) : (m.call p).effects = m.effects ++ [.called p] := by
  simp [call, Machine.effects]

theorem past_append (r : List Entry) (es : List Effect) (i j : Nat) :
    (r ++ es.map (Entry.mk i)).filterMap (fun e => if e.call = j then some e.effect else none) =
      r.filterMap (fun e => if e.call = j then some e.effect else none) ++
        if i = j then es else [] := by
  rw [List.filterMap_append, List.filterMap_map]
  congr 1
  by_cases same : i = j
  · simp [same]
  · simp [same]

theorem past_length (h : m.Numbered) : m.past m.calls.length = [] := by
  rw [past, List.filterMap_eq_nil_iff]
  intro e member
  exact if_neg (Nat.ne_of_lt (h e member))

theorem threads_call (h : m.Numbered) (p : Point) :
    (m.call p).threads = m.threads ++ [⟨.ready p, [.called p]⟩] := by
  have past_call : ∀ j, (m.call p).past j = m.past j ++
      if m.calls.length = j then [.called p] else [] :=
    fun j => past_append m.record [.called p] m.calls.length j
  apply List.ext_getElem?
  intro j
  rw [getElem?_threads, past_call]
  rcases Nat.lt_trichotomy j m.calls.length with before | rfl | after
  · rw [List.getElem?_append_left (by simpa using before), getElem?_threads]
    simp [call, List.getElem?_append_left before, Nat.ne_of_gt before]
  · simp [call, past_length h]
  · have outside : m.calls.length + 1 ≤ j := after
    rw [List.getElem?_eq_none, List.getElem?_eq_none]
    · rfl
    · rwa [List.length_append, length_threads]
    · rwa [call, List.length_append]

theorem threads_put (m : Machine) (s : Session) (k i : Nat) (next : Call) (es : List Effect) :
    ({ m with session := s, tickets := k }.put i next es).threads =
      m.threads.set i ⟨next, m.past i ++ (es ++ returns next)⟩ := by
  have past_put : ∀ j, ({ m with session := s, tickets := k }.put i next es).past j =
      m.past j ++ if i = j then es ++ returns next else [] :=
    past_append m.record (es ++ returns next) i
  apply List.ext_getElem?
  intro j
  rw [getElem?_threads, past_put, List.getElem?_set, length_threads, getElem?_threads]
  by_cases same : i = j
  · subst same
    by_cases inside : i < m.calls.length
    · simp [put, inside]
    · simp [put, inside]
  · simp [put, same]

theorem moved_put {c next : Call} {s : Session} (stood : m.calls[i]? = some c)
    (turn : Turn m.session m.tickets c s next effects) :
    Moved m i ⟨c, m.past i⟩ effects ⟨next, m.past i ++ (effects ++ returns next)⟩
      ({ m with session := s, tickets := m.tickets + effects.countP Effect.isIssued }.put i next
        effects) where
  stood := by simp [getElem?_threads, stood]
  turn := turn
  past := rfl
  threads := threads_put ..
  record := rfl
  tickets := rfl
  length := List.length_set

theorem act?_moved (h : m.act? i = some m') :
    ∃ p x effects y, x.call = .ready p ∧ effects ≠ [.dropped] ∧ Moved m i x effects y m' := by
  simp only [act?] at h
  split at h
  · rename_i p stood
    cases h
    have turn := Turn.of_act m.session m.tickets p rfl
    cases action : m.session.act p with
    | become next =>
        have moved := moved_put stood (by simpa [action, Action.result] using turn)
        exact ⟨p, _, _, _, rfl, by simp, moved⟩
    | update s next =>
        have silent : (changes m.session.state s.state).countP Effect.isIssued = 0 := by
          simp only [changes]
          split <;> rfl
        have kept : changes m.session.state s.state ≠ [.dropped] := by
          simp only [changes]
          split <;> simp
        have moved := moved_put stood (by simpa [action, Action.result] using turn)
        rw [silent] at moved
        exact ⟨p, _, _, _, rfl, kept, moved⟩
    | emit event next =>
        have moved := moved_put stood (by simpa [action, Action.result] using turn)
        exact ⟨p, _, _, _, rfl, by simp, moved⟩
    | request q =>
        have moved := moved_put stood (by simpa [action, Action.result] using turn)
        exact ⟨p, _, _, _, rfl, by simp, moved⟩
  · cases h

theorem answer?_moved {reply : Reply} (h : m.answer? i reply = some m') :
    ∃ p ticket x y, x.call = .waiting p ticket ∧ Moved m i x [.answered ticket reply] y m' := by
  simp only [answer?] at h
  split at h
  · rename_i p ticket stood
    obtain ⟨next, resumed, rfl⟩ := Option.map_eq_some_iff.mp h
    exact ⟨p, ticket, _, _, rfl, moved_put stood (Turn.of_resume resumed)⟩
  · cases h

theorem drop?_moved (h : m.drop? i = some m') : ∃ x effects y, Moved m i x effects y m' := by
  simp only [drop?] at h
  split at h
  · rename_i p stood
    cases h
    exact ⟨_, _, _, moved_put stood (Turn.drop p rfl)⟩
  · rename_i p ticket stood
    cases h
    exact ⟨_, _, _, moved_put stood (Turn.drop p rfl)⟩
  · cases h

theorem step?_cases {move : Move} (h : m.step? move = some m') :
    (∃ p, move = .call p ∧ m' = m.call p) ∨ ∃ i x effects y, Moved m i x effects y m' := by
  cases move with
  | call p => exact .inl ⟨p, rfl, (Option.some.inj h).symm⟩
  | act i =>
      obtain ⟨_, x, effects, y, -, -, moved⟩ := act?_moved h
      exact .inr ⟨i, x, effects, y, moved⟩
  | answer i reply =>
      obtain ⟨_, _, x, y, -, moved⟩ := answer?_moved h
      exact .inr ⟨i, x, _, y, moved⟩
  | drop i => exact .inr ⟨i, drop?_moved h⟩

theorem run?_record {moves : List Move} (run : m.run? moves = some m') :
    m.record <+: m'.record := by
  induction moves generalizing m with
  | nil => exact Option.some.inj run ▸ List.prefix_rfl
  | cons move moves ih =>
      obtain ⟨next, first, rest⟩ := Option.bind_eq_some_iff.mp run
      refine List.IsPrefix.trans ?_ (ih rest)
      rcases step?_cases first with ⟨p, -, rfl⟩ | ⟨i, x, effects, y, moved⟩
      · exact List.prefix_append ..
      · exact moved.record ▸ List.prefix_append ..

theorem Moved.lt (h : Moved m i x effects y m') : i < m.calls.length := by
  have inside := (List.getElem?_eq_some_iff.mp h.stood).1
  simpa using inside

theorem Moved.effects_eq (h : Moved m i x effects y m') :
    m'.effects = m.effects ++ (effects ++ returns y.call) := by
  simp [Machine.effects, h.record, Function.comp_def]

theorem Moved.events (h : Moved m i x effects y m') :
    m'.events = m.events ++ emittedIn (effects ++ returns y.call) := by
  rw [events_eq, events_eq, h.effects_eq, emittedIn_append]

theorem numbered_call (h : m.Numbered) (p : Point) : (m.call p).Numbered := by
  intro e member
  simp only [call, List.mem_append, List.mem_singleton, List.length_append, List.length_singleton]
    at member ⊢
  rcases member with old | rfl
  · exact Nat.lt_succ_of_lt (h e old)
  · exact Nat.lt_succ_self _

theorem Moved.numbered (moved : Moved m i x effects y m') (h : m.Numbered) : m'.Numbered := by
  intro e member
  rw [moved.length]
  rw [moved.record] at member
  rcases List.mem_append.mp member with old | new
  · exact h e old
  · obtain ⟨_, -, rfl⟩ := List.mem_map.mp new
    exact moved.lt

theorem numbered_make (s : Session) : (make s).Numbered :=
  fun _ member => absurd member List.not_mem_nil

theorem Numbered.run {moves : List Move} (h : m.Numbered) (run : m.run? moves = some m') :
    m'.Numbered := by
  induction moves generalizing m with
  | nil => exact Option.some.inj run ▸ h
  | cons move moves ih =>
      obtain ⟨next, first, rest⟩ := Option.bind_eq_some_iff.mp run
      refine ih ?_ rest
      rcases step?_cases first with ⟨p, -, rfl⟩ | ⟨i, x, effects, y, moved⟩
      · exact numbered_call h p
      · exact moved.numbered h

theorem Numbered.exists_thread (h : m.Numbered) {e : Effect} (member : e ∈ m.past i) :
    ∃ x, m.threads[i]? = some x ∧ e ∈ x.past := by
  have inside : i < m.calls.length := h _ (mem_past.mp member)
  refine ⟨⟨m.calls[i], m.past i⟩, ?_, member⟩
  rw [getElem?_threads, List.getElem?_eq_getElem inside]
  rfl

theorem Used.numbered (h : Used settings dispatch m) : m.Numbered := by
  induction h with
  | start => exact numbered_make _
  | step move _ _ hs ih =>
      rcases step?_cases hs with ⟨p, -, rfl⟩ | ⟨i, x, effects, y, moved⟩
      · exact numbered_call ih p
      · exact moved.numbered ih

theorem Used.run {moves : List Move} (h : Used settings dispatch m)
    (proper : ∀ move ∈ moves, move.IsProper) (run : m.run? moves = some m') :
    Used settings dispatch m' := by
  induction moves generalizing m with
  | nil => exact Option.some.inj run ▸ h
  | cons move moves ih =>
      obtain ⟨next, first, rest⟩ := Option.bind_eq_some_iff.mp run
      obtain ⟨entry, entries⟩ := List.forall_mem_cons.mp proper
      exact ih (h.step move entry first) entries rest

/-- What holds of a machine at rest, and is kept by new calls and by turns, holds always. -/
theorem Used.keep {P : Machine → Prop} (h : Used settings dispatch m)
    (start : P (make (.make settings dispatch)))
    (call : ∀ m p, Used settings dispatch m → p.IsEntry → P m → P (m.call p))
    (turn : ∀ m i x effects y m', Used settings dispatch m → Used settings dispatch m' →
      Moved m i x effects y m' → P m → P m') : P m := by
  induction h with
  | start => exact start
  | step move used proper hs ih =>
      rcases step?_cases hs with ⟨p, rfl, rfl⟩ | ⟨i, x, effects, y, moved⟩
      · exact call _ p used proper ih
      · exact turn _ i x effects y _ used (used.step move proper hs) moved ih

/-- What holds at some machine of a run, and is kept by new calls and by turns, holds from there
on. -/
theorem Used.keep_run {P : Machine → Prop} {moves : List Move} (h : Used settings dispatch m)
    (proper : ∀ move ∈ moves, move.IsProper) (run : m.run? moves = some m') (here : P m)
    (call : ∀ m p, Used settings dispatch m → p.IsEntry → P m → P (m.call p))
    (turn : ∀ m i x effects y m', Used settings dispatch m → Used settings dispatch m' →
      Moved m i x effects y m' → P m → P m') : P m' := by
  induction moves generalizing m with
  | nil => exact Option.some.inj run ▸ here
  | cons move moves ih =>
      obtain ⟨next, first, rest⟩ := Option.bind_eq_some_iff.mp run
      obtain ⟨entry, entries⟩ := List.forall_mem_cons.mp proper
      have used := h.step move entry first
      refine ih used entries rest ?_
      rcases step?_cases first with ⟨p, rfl, rfl⟩ | ⟨i, x, effects, y, moved⟩
      · exact call m p h entry here
      · exact turn m i x effects y next h used moved here

theorem Used.threads_call (h : Used settings dispatch m) (p : Point) :
    (m.call p).threads = m.threads ++ [⟨.ready p, [.called p]⟩] :=
  Machine.threads_call h.numbered p

theorem Moved.mem (h : Moved m i x effects y m') : x ∈ m.threads :=
  List.mem_of_getElem? h.stood

theorem Moved.mem' (h : Moved m i x effects y m') : y ∈ m'.threads := by
  rw [h.threads]
  exact List.mem_set (by simpa using h.lt) y

theorem Moved.cases (h : Moved m i x effects y m') (stood : m'.threads[j]? = some z) :
    (j = i ∧ z = y) ∨ (j ≠ i ∧ m.threads[j]? = some z) := by
  rw [h.threads] at stood
  by_cases same : i = j
  · subst same
    rw [List.getElem?_set_self (by simpa using h.lt)] at stood
    exact .inl ⟨rfl, (Option.some.inj stood).symm⟩
  · rw [List.getElem?_set_ne same] at stood
    exact .inr ⟨fun eq => same eq.symm, stood⟩

theorem Moved.stays (h : Moved m i x effects y m') (stood : m.threads[j]? = some z)
    (other : j ≠ i) : m'.threads[j]? = some z := by
  rw [h.threads, List.getElem?_set_ne (Ne.symm other)]
  exact stood

theorem Moved.mem_cases (h : Moved m i x effects y m') (member : z ∈ m'.threads) :
    z = y ∨ z ∈ m.threads := by
  obtain ⟨j, stood⟩ := List.getElem?_of_mem member
  exact (h.cases stood).imp And.right fun other => List.mem_of_getElem? other.2

/-- A thread is there still, unless it is the one that has moved. -/
theorem Moved.eq_or_mem (h : Moved m i x effects y m') (member : z ∈ m.threads) :
    z = x ∨ z ∈ m'.threads := by
  obtain ⟨j, stood⟩ := List.getElem?_of_mem member
  by_cases ours : j = i
  · subst ours
    exact .inl (Option.some.inj (stood.symm.trans h.stood))
  · exact .inr (List.mem_of_getElem? (h.stays stood ours))

theorem Moved.returned_stays {outcome : Outcome} (h : Moved m i x effects y m')
    (returned : m.calls[j]? = some (.returned outcome)) :
    m'.calls[j]? = some (.returned outcome) := by
  have stood : m.threads[j]? = some ⟨.returned outcome, m.past j⟩ := by
    simp [getElem?_threads, returned]
  have other : j ≠ i := by
    rintro rfl
    obtain rfl := Option.some.inj (stood.symm.trans h.stood)
    obtain ⟨p, live⟩ := h.turn.live
    cases live
  exact call_of_getElem? (h.stays stood other)

theorem Used.setup (h : Used settings dispatch m) : Setup settings dispatch m.session := by
  refine h.keep (P := fun m => Setup settings dispatch m.session) ⟨rfl, rfl, rfl⟩ ?_ ?_
  · exact fun _ _ _ _ ih => ih
  · intro m i x effects y m' _ _ moved ih
    have still := moved.turn.setup
    exact ⟨still.settings.trans ih.settings, still.output.trans ih.output,
      still.kinds.trans ih.kinds⟩

/-- What holds of a call by itself: at its entry, and from turn to turn. -/
theorem Used.each {Q : Thread → Prop} (h : Used settings dispatch m)
    (entry : ∀ p : Point, p.IsEntry → Q ⟨.ready p, [.called p]⟩)
    (turn : ∀ s k c past s' next effects, Setup settings dispatch s →
      Turn s k c s' next effects → Q ⟨c, past⟩ →
      Q ⟨next, past ++ (effects ++ returns next)⟩) : ∀ x ∈ m.threads, Q x := by
  refine h.keep (P := fun m => ∀ x ∈ m.threads, Q x) (by simp [threads, make]) ?_ ?_
  · intro m p used proper ih x member
    rw [used.threads_call] at member
    rcases List.mem_append.mp member with old | new
    · exact ih x old
    · rw [List.mem_singleton.mp new]
      exact entry p proper
  · intro m i x effects y m' used _ moved ih z member
    rw [moved.threads] at member
    rcases List.mem_or_eq_of_mem_set member with old | rfl
    · exact ih z old
    · have ours := turn _ _ _ x.past _ _ _ used.setup moved.turn (ih x moved.mem)
      rwa [← moved.past] at ours

/-- The record is what all calls have done, in some order. -/
theorem Used.effects_perm (h : Used settings dispatch m) :
    m.effects ~ m.threads.flatMap Thread.past := by
  refine h.keep (P := fun m => m.effects ~ m.threads.flatMap Thread.past)
    (by simp [threads, make, Machine.effects]) ?_ ?_
  · intro m p used _ ih
    rw [used.threads_call]
    simpa [call, Machine.effects] using ih.append_right [.called p]
  · intro m i x effects y m' _ _ moved ih
    obtain ⟨others, before, after⟩ := exists_perm_set moved.stood
    have grown : m'.effects = m.effects ++ (effects ++ returns y.call) := by
      simp [Machine.effects, moved.record, Function.comp_def]
    calc m'.effects
      _ ~ m.threads.flatMap Thread.past ++ (effects ++ returns y.call) :=
          grown ▸ ih.append_right _
      _ ~ (x.past ++ others.flatMap Thread.past) ++ (effects ++ returns y.call) :=
          (before.flatMap_right Thread.past).append_right _
      _ ~ y.past ++ others.flatMap Thread.past := by
          rw [moved.past, List.append_assoc, List.append_assoc]
          exact List.perm_append_comm.append_left x.past
      _ ~ m'.threads.flatMap Thread.past :=
          moved.threads ▸ ((after y).flatMap_right Thread.past).symm

theorem Used.countP_effects (h : Used settings dispatch m) (q : Effect → Bool) :
    m.effects.countP q = (m.threads.map fun x => x.past.countP q).sum := by
  rw [h.effects_perm.countP_eq, List.countP_flatMap]
  rfl

/-- What no call does more often than something else is not done more often at all. -/
theorem Used.countP_le (h : Used settings dispatch m) {q r : Effect → Bool}
    (each : ∀ x ∈ m.threads, x.past.countP q ≤ x.past.countP r) :
    m.effects.countP q ≤ m.effects.countP r := by
  rw [h.countP_effects, h.countP_effects]
  exact List.sum_le_sum each

theorem past_of_getElem? (h : m.threads[i]? = some x) : x.past = m.past i := by
  obtain ⟨c, -, rfl⟩ := Option.map_eq_some_iff.mp (getElem?_threads m i ▸ h)
  rfl

theorem outcome?_eq_some {outcome : Outcome} :
    m.outcome? i = some outcome ↔ m.calls[i]? = some (.returned outcome) := by
  constructor
  · intro h
    simp only [outcome?] at h
    split at h
    · cases h
      assumption
    · cases h
  · intro h
    simp [outcome?, h]

theorem call_of_outcome? {outcome : Outcome} (stood : m.threads[i]? = some x)
    (ended : m.outcome? i = some outcome) : x.call = .returned outcome :=
  Option.some.inj ((call_of_getElem? stood).symm.trans (outcome?_eq_some.mp ended))

/-- What happens once is done by one call. -/
theorem thread_unique {q : Effect → Bool} {e e' : Effect} (once : m.effects.countP q ≤ 1)
    (hx : m.threads[i]? = some x) (hy : m.threads[j]? = some y) (he : e ∈ x.past)
    (he' : e' ∈ y.past) (qe : q e = true) (qe' : q e' = true) : i = j := by
  rw [past_of_getElem? hx, mem_past] at he
  rw [past_of_getElem? hy, mem_past] at he'
  rw [Machine.effects, List.countP_map] at once
  exact congrArg Entry.call (eq_of_countP_le_one once he he' qe qe')

end Machine

end DumpFlow.Session
