import DumpFlow.Proofs.Session.Trail

/-!
The slot and the state are changed one after the other, and never together. What ties them is who
may change them: a state that a call has brought about is left by that call alone, unless the
session is closed.
-/

namespace DumpFlow.Session

open Lifecycle

/-- The state that a call has brought about when it stands at a point. -/
def Point.owned? : Point → Option Lifecycle
  | .begin .checkState | .begin .checkTargets | .begin .start => none
  | .begin _ => some .starting
  | .commit .start => none
  | .commit _ => some .committing
  | .close .start => none
  | .close _ => some .closed
  | .register _ _ | .execute _ _ => none

/-- A begin stands there only after it has found the session closed. -/
def Point.isLate : Point → Bool
  | .begin (.reclaim _) | .begin (.closeAbandoned _ _) => true
  | _ => false

/-- A call can stand at a point while the session is in a state. -/
structure Point.Allows (p : Point) (state : Lifecycle) : Prop where
  owned : ∀ g, p.owned? = some g → state = g ∨ state = .closed
  late : p.isLate = true → state = .closed

def Effect.asks (k : Nat) : Effect → Bool
  | .issued k' (.createTransaction _) => k' == k
  | _ => false

def Effect.grants (k : Nat) : Effect → Bool
  | .answered k' .done => k' == k
  | _ => false

/-- The call was given the transaction by the database. -/
def Created (transaction : Transaction) (past : List Effect) : Bool :=
  past.any (Effect.asks transaction.ticket) && past.any (Effect.grants transaction.ticket)

variable {settings : TransactionSettings} {dispatch : Dispatch} {m m' : Machine}
  {s s' : Session} {k i j : Nat} {c next : Call} {past effects : List Effect}
  {status : CommitStatus} {p q : Point} {g : Lifecycle} {transaction : Transaction} {x y : Thread}

theorem issued_of_created (created : Created transaction past = true) :
    ∃ o, .issued transaction.ticket (.createTransaction o) ∈ past := by
  obtain ⟨e, member, asks⟩ := List.any_eq_true.mp (Bool.and_eq_true_iff.mp created).1
  simp only [Effect.asks] at asks
  split at asks
  · exact ⟨_, eq_of_beq asks ▸ member⟩
  · cases asks

theorem Trail.owned (h : Trail status c past) (stands : c.point? = some p)
    (owned : p.owned? = some g) : ∃ source, .changed source g ∈ past := by
  cases h with
  | aside apart =>
      have aside := apart p stands
      cases p <;> simp_all [Point.isAside, Point.owned?]
  | begin trail =>
      cases trail <;> cases stands <;> cases owned <;> exact ⟨.preparing, by simp [openingPast]⟩
  | commit trail =>
      cases trail <;> cases stands <;> cases owned <;>
        exact ⟨.running, by simp [grantingPast, committingPast]⟩
  | close trail =>
      cases trail with
      | closeTransaction state | closingTransaction state | take state =>
          cases stands
          cases owned
          exact ⟨state, by simp⟩
      | closeClient state release | closingClient state release k =>
          cases stands
          cases owned
          exact ⟨state, by simp [closingPast]⟩
      | _ => cases stands <;> cases owned

/-- A turn leaves a state that was brought about only by its call, or for good. -/
theorem Turn.leaves (h : Turn s k c s' next effects)
    (owned : s.state = .starting ∨ s.state = .committing) :
    s'.state = s.state ∨ s'.state = .closed ∨
      ∃ p, c.point? = some p ∧ p.owned? = some s.state := by
  cases h with
  | register t turn => cases turn <;> exact .inl rfl
  | execute t turn => cases turn <;> exact .inl rfl
  | begin turn =>
      cases turn with
      | started right => simp [right] at owned
      | failed fault right => exact .inr (.inr ⟨_, rfl, congrArg some right.symm⟩)
      | running right => exact .inr (.inr ⟨_, rfl, congrArg some right.symm⟩)
      | _ => exact .inl rfl
  | commit turn =>
      cases turn with
      | started right => simp [right] at owned
      | failed fault right => exact .inr (.inr ⟨_, rfl, congrArg some right.symm⟩)
      | settled right => exact .inr (.inr ⟨_, rfl, congrArg some right.symm⟩)
      | _ => exact .inl rfl
  | close turn =>
      cases turn with
      | swapped => exact .inr (.inl rfl)
      | _ => exact .inl rfl
  | drop => exact .inl rfl

theorem Point.allows_of_free (free : p.owned? = none) (early : p.isLate = false)
    (state : Lifecycle) : p.Allows state :=
  ⟨fun _ owned => absurd (free ▸ owned) nofun, fun late => absurd (early ▸ late) nofun⟩

theorem Point.allows_self (owned : p.owned? = some g) (early : p.isLate = false) : p.Allows g :=
  ⟨fun _ owned' => .inl (Option.some.inj (owned ▸ owned')), fun late => absurd (early ▸ late) nofun⟩

theorem Point.allows_closed (p : Point) : p.Allows .closed :=
  ⟨fun _ _ => .inr rfl, fun _ => rfl⟩

theorem Point.Allows.starting {b : BeginPoint} (h : (Point.begin b).Allows s.state)
    (owned : (Point.begin b).owned? = some .starting) (left : s.state ≠ .starting) :
    s.state = .closed :=
  (h.owned _ owned).resolve_left left

/-- A call goes on to a point at which it can stand. -/
theorem Turn.allows (h : Turn s k c s' next effects)
    (allowed : ∀ p, c.point? = some p → p.Allows s.state) :
    ∀ p, next.point? = some p → p.Allows s'.state := by
  intro p stands
  cases h with
  | register t turn => cases turn <;> cases stands <;> exact Point.allows_of_free rfl rfl _
  | execute t turn =>
      have apart := turn.aside.1 p stands
      cases p <;> cases apart <;> exact Point.allows_of_free rfl rfl _
  | begin turn =>
      cases turn with
      | rightState | someTargets => cases stands; exact Point.allows_of_free rfl rfl _
      | started => cases stands; exact Point.allows_self rfl rfl
      | abandoned left =>
          cases stands
          rw [(allowed _ rfl).starting rfl left]
          exact Point.allows_closed _
      | _ => cases stands <;> exact ⟨(allowed _ rfl).owned, (allowed _ rfl).late⟩
  | commit turn =>
      cases turn with
      | started => cases stands; exact Point.allows_self rfl rfl
      | _ => cases stands <;> exact ⟨(allowed _ rfl).owned, (allowed _ rfl).late⟩
  | close turn =>
      cases turn with
      | swapped => cases stands; exact Point.allows_closed _
      | _ => cases stands <;> exact ⟨(allowed _ rfl).owned, (allowed _ rfl).late⟩
  | drop => cases stands

theorem Point.owned_eq (h : p.owned? = some g) : g = .starting ∨ g = .committing ∨ g = .closed := by
  simp only [Point.owned?] at h
  split at h <;> cases h <;> simp

namespace Machine

/-- A state is brought about by one call. -/
theorem Used.owner_unique (h : Used settings dispatch m) (hx : m.threads[i]? = some x)
    (hy : m.threads[j]? = some y) (stands : x.call.point? = some p)
    (stands' : y.call.point? = some q) (owned : p.owned? = some g) (owned' : q.owned? = some g) :
    i = j := by
  obtain ⟨_, entered⟩ := (h.trail x (List.mem_of_getElem? hx)).owned stands owned
  obtain ⟨_, entered'⟩ := (h.trail y (List.mem_of_getElem? hy)).owned stands' owned'
  exact thread_unique (h.enters_once g) hx hy entered entered' (beq_self_eq_true g)
    (beq_self_eq_true g)

theorem Used.allows (h : Used settings dispatch m) :
    ∀ x ∈ m.threads, ∀ p, x.call.point? = some p → p.Allows m.session.state := by
  refine h.keep (P := fun m => ∀ x ∈ m.threads, ∀ p, x.call.point? = some p →
    p.Allows m.session.state) (by simp [threads, make]) ?_ ?_
  · intro m p used entry ih x member q stands
    rw [used.threads_call] at member
    rcases List.mem_append.mp member with old | new
    · exact ih x old q stands
    · rw [List.mem_singleton.mp new] at stands
      cases stands
      cases entry <;> exact Point.allows_of_free rfl rfl _
  · intro m i x effects y m' used _ moved ih z member q stands
    obtain ⟨j, stood⟩ := List.getElem?_of_mem member
    rcases moved.cases stood with ⟨rfl, rfl⟩ | ⟨other, stood⟩
    · exact moved.turn.allows (ih x moved.mem) q stands
    · have allowed := ih z (List.mem_of_getElem? stood) q stands
      refine ⟨fun g owned => ?_, fun late => moved.turn.closed (allowed.late late)⟩
      rcases allowed.owned g owned with here | closed
      · -- Only the call that brought `g` about could leave it: `z`, which has not moved.
        by_cases shut : g = .closed
        · exact .inr (moved.turn.closed (here.trans shut))
        · have live : m.session.state = .starting ∨ m.session.state = .committing := by
            have few := Point.owned_eq owned
            simpa [here, shut] using few
          rcases moved.turn.leaves live with same | closed | ⟨p, stands', owned'⟩
          · exact .inl (same.trans here)
          · exact .inr closed
          · exact absurd (used.owner_unique stood moved.stood stands stands' owned (here ▸ owned'))
              other
      · exact .inr (moved.turn.closed closed)

end Machine

end DumpFlow.Session
