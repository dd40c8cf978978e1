import DumpFlow.Proofs.Session.Threads

/-!
The course of a session through its states. Every change goes one edge further in the graph of
states, and every edge leads to a later state, so no state is entered twice.
-/

namespace DumpFlow

namespace Lifecycle

/-- From which state a session may go to which. -/
inductive Next : Lifecycle → Lifecycle → Prop where
  | start : Next .preparing .starting
  | run : Next .starting .running
  | commit : Next .running .committing
  | settle : Next .committing .committed
  | failStarting : Next .starting .failed
  | failCommitting : Next .committing .failed
  | close {s : Lifecycle} : s ≠ .closed → Next s .closed

/-- A path through the graph, given by the changes along it. -/
inductive Walk (source : Lifecycle) : List (Lifecycle × Lifecycle) → Lifecycle → Prop where
  | rest : Walk source [] source
  | on {path : List (Lifecycle × Lifecycle)} {s goal : Lifecycle} :
      Walk source path s → Next s goal → Walk source (path ++ [(s, goal)]) goal

variable {source s goal : Lifecycle} {path : List (Lifecycle × Lifecycle)}

theorem Next.code_lt (h : Next s goal) : s.code < goal.code := by
  cases h with
  | close open_ => cases s <;> simp_all [code]
  | _ => decide

theorem code_le_closed (s : Lifecycle) : s.code ≤ closed.code := by
  cases s <;> decide

theorem eq_closed_of_code_le (h : closed.code ≤ s.code) : s = .closed := by
  cases s <;> simp_all [code]

theorem Next.ne_closed (h : Next s goal) : s ≠ .closed := by
  cases h with
  | close open_ => exact open_
  | _ => exact nofun

theorem Next.eq_closed (h : Next s goal) (settled : s.isSettled = true) : goal = .closed := by
  cases h with
  | close => rfl
  | _ => cases settled

theorem Walk.code_le (h : Walk source path s) : ∀ c ∈ path, c.2.code ≤ s.code := by
  induction h with
  | rest => exact nofun
  | on _ next ih =>
      intro c member
      rcases List.mem_append.mp member with old | new
      · exact Nat.le_of_lt (Nat.lt_of_le_of_lt (ih c old) next.code_lt)
      · rw [List.mem_singleton.mp new]

theorem Walk.enters_once (h : Walk source path s) (goal : Lifecycle) :
    path.countP (fun c => c.2 == goal) ≤ 1 := by
  induction h with
  | rest => simp
  | @on path s last walk next ih =>
      rw [List.countP_append]
      by_cases same : last = goal
      · have before : path.countP (fun c => c.2 == goal) = 0 := by
          rw [List.countP_eq_zero]
          intro c member entered
          have low := walk.code_le c member
          rw [beq_iff_eq.mp entered, ← same] at low
          exact Nat.not_le_of_lt next.code_lt low
        simp [before, same]
      · simpa [same] using ih

/-- A state in which a walk stands was entered, unless the walk started there. -/
theorem Walk.entered (h : Walk source path s) : s = source ∨ ∃ from_, (from_, s) ∈ path := by
  cases h with
  | rest => exact .inl rfl
  | on => exact .inr ⟨_, List.mem_append_right _ (List.mem_singleton_self _)⟩

theorem Walk.next (h : Walk source path s) : ∀ c ∈ path, Next c.1 c.2 := by
  induction h with
  | rest => exact nofun
  | on _ next ih =>
      intro c member
      rcases List.mem_append.mp member with old | new
      · exact ih c old
      · rw [List.mem_singleton.mp new]
        exact next

/-- A state that was left was entered, unless the walk started there. -/
theorem Walk.entered_of_left (h : Walk source path s) :
    ∀ c ∈ path, c.1 = source ∨ ∃ from_, (from_, c.1) ∈ path := by
  induction h with
  | rest => exact nofun
  | @on path s goal walk next ih =>
      intro c member
      have entered : c.1 = source ∨ ∃ from_, (from_, c.1) ∈ path := by
        rcases List.mem_append.mp member with old | new
        · exact ih c old
        · rw [List.mem_singleton.mp new]
          exact walk.entered
      exact entered.imp_right fun ⟨from_, old⟩ => ⟨from_, List.mem_append_left _ old⟩

end Lifecycle

namespace Session

open Lifecycle

def Effect.change? : Effect → Option (Lifecycle × Lifecycle)
  | .changed source goal => some (source, goal)
  | _ => none

def Effect.enters (goal : Lifecycle) : Effect → Bool
  | .changed _ goal' => goal' == goal
  | _ => false

def changesIn (effects : List Effect) : List (Lifecycle × Lifecycle) :=
  effects.filterMap Effect.change?

variable {settings : TransactionSettings} {dispatch : Dispatch} {m : Machine}
  {s s' : Session} {k : Nat} {t : Target} {c next : Call} {effects : List Effect}

@[simp] theorem changesIn_append (es es' : List Effect) :
    changesIn (es ++ es') = changesIn es ++ changesIn es' :=
  List.filterMap_append

@[simp] theorem changesIn_returns (next : Call) : changesIn (Machine.returns next) = [] := by
  cases next <;> rfl

theorem countP_enters (es : List Effect) (goal : Lifecycle) :
    es.countP (Effect.enters goal) = (changesIn es).countP fun c => c.2 == goal := by
  rw [changesIn, List.countP_filterMap]
  congr 1
  funext e
  cases e <;> rfl

theorem mem_changesIn {es : List Effect} {source goal : Lifecycle} :
    (source, goal) ∈ changesIn es ↔ .changed source goal ∈ es := by
  simp only [changesIn, List.mem_filterMap]
  constructor
  · rintro ⟨e, member, same⟩
    cases e <;> cases same
    exact member
  · exact fun member => ⟨_, member, rfl⟩

/-- A turn leaves the state alone or changes it along the graph, and says so. -/
theorem Turn.course (h : Turn s k c s' next effects) :
    (changesIn effects = [] ∧ s'.state = s.state) ∨
      (changesIn effects = [(s.state, s'.state)] ∧ Next s.state s'.state) := by
  cases h with
  | register t turn => cases turn <;> exact .inl ⟨rfl, rfl⟩
  | execute t turn => cases turn <;> exact .inl ⟨rfl, rfl⟩
  | begin turn =>
      cases turn with
      | started right =>
          rw [right]
          exact .inr ⟨rfl, .start⟩
      | failed fault right =>
          rw [right]
          exact .inr ⟨rfl, .failStarting⟩
      | running right =>
          rw [right]
          exact .inr ⟨rfl, .run⟩
      | _ => exact .inl ⟨rfl, rfl⟩
  | commit turn =>
      cases turn with
      | started right =>
          rw [right]
          exact .inr ⟨rfl, .commit⟩
      | failed fault right =>
          rw [right]
          exact .inr ⟨rfl, .failCommitting⟩
      | settled right =>
          rw [right]
          exact .inr ⟨rfl, .settle⟩
      | _ => exact .inl ⟨rfl, rfl⟩
  | close turn =>
      cases turn with
      | swapped open_ => exact .inr ⟨rfl, .close open_⟩
      | _ => exact .inl ⟨rfl, rfl⟩
  | drop => exact .inl ⟨rfl, rfl⟩

theorem Turn.code_le (h : Turn s k c s' next effects) : s.state.code ≤ s'.state.code := by
  rcases h.course with ⟨-, same⟩ | ⟨-, next⟩
  · rw [same]
  · exact Nat.le_of_lt next.code_lt

/-- Closed is never left. -/
theorem Turn.closed (h : Turn s k c s' next effects) (closed : s.state = .closed) :
    s'.state = .closed := by
  rcases h.course with ⟨-, same⟩ | ⟨-, next⟩
  · exact same.trans closed
  · exact absurd closed next.ne_closed

namespace Machine

theorem Used.walk (h : Used settings dispatch m) :
    Walk .preparing (changesIn m.effects) m.session.state := by
  refine h.keep (P := fun m => Walk .preparing (changesIn m.effects) m.session.state) .rest ?_ ?_
  · intro m p _ _ ih
    rw [effects_call, changesIn_append, show changesIn [.called p] = [] from rfl, List.append_nil]
    exact ih
  · intro m i x effects y m' _ _ moved ih
    rw [moved.effects_eq, changesIn_append, changesIn_append, changesIn_returns, List.append_nil]
    rcases moved.turn.course with ⟨silent, same⟩ | ⟨change, next⟩
    · rw [silent, List.append_nil, same]
      exact ih
    · rw [change]
      exact .on ih next

theorem Used.enters_once (h : Used settings dispatch m) (goal : Lifecycle) :
    m.effects.countP (Effect.enters goal) ≤ 1 := by
  rw [countP_enters]
  exact h.walk.enters_once goal

theorem Used.entered (h : Used settings dispatch m) (later : m.session.state ≠ .preparing) :
    ∃ source, .changed source m.session.state ∈ m.effects := by
  rcases h.walk.entered with same | ⟨source, member⟩
  · exact absurd same later
  · exact ⟨source, mem_changesIn.mp member⟩

/-- A session commits only after it was running. -/
theorem Used.ran (h : Used settings dispatch m)
    (committing : .changed .running .committing ∈ m.effects) :
    .changed .starting .running ∈ m.effects := by
  rcases h.walk.entered_of_left _ (mem_changesIn.mpr committing) with same | ⟨source, member⟩
  · cases same
  · have edge := h.walk.next _ member
    cases edge
    exact mem_changesIn.mp member

end Machine

end Session

end DumpFlow
