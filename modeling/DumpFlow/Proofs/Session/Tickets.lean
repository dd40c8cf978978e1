import DumpFlow.Proofs.Session.Threads

/-!
Tickets and turns, counted. Every request draws the next ticket, so a ticket tells its request and
the call that made it. Every turn of a call leaves something on record, but for a few of which none
is taken twice; so what is on record bounds how long a call has taken.
-/

namespace DumpFlow.Session

def Effect.ticket? : Effect → Option Nat
  | .issued ticket _ => some ticket
  | _ => none

/-- How many turns without an effect a call has taken at most when it stands at a point. -/
def Point.idled : Point → Nat
  | .register _ .checkState => 0
  | .register _ .lookUp => 1
  | .register _ (.announce _) => 3
  | .register _ _ => 2
  | .begin .checkState => 0
  | .begin .checkTargets => 1
  | .begin .run => 3
  | .begin (.reclaim _) => 4
  | .begin (.closeAbandoned _ _) => 5
  | .begin _ => 2
  | .execute _ .checkState => 0
  | .execute _ .borrow => 1
  | .execute _ (.lookUp _) => 2
  | .execute _ _ => 3
  | .commit .start | .commit .borrow => 0
  | .commit _ => 1
  | .close .start | .close .take => 0
  | .close _ => 1

def Call.idled : Call → Nat
  | .ready p | .waiting p _ => p.idled
  | .returned _ | .dropped => 5

/-- The turns that a call has taken, and as many more as it may have been idle for. -/
def Thread.pace (x : Thread) : Nat :=
  x.past.length + x.call.idled

variable {settings : TransactionSettings} {dispatch : Dispatch} {m m' : Machine}
  {s s' : Session} {k : Nat} {t : Target} {c next : Call} {effects : List Effect}

theorem Turn.draws (h : Turn s k c s' next effects) :
    effects.filterMap Effect.ticket? =
      (List.range (effects.countP Effect.isIssued)).map (k + ·) := by
  cases h with
  | register t turn => cases turn <;> rfl
  | begin turn => cases turn <;> rfl
  | execute t turn => cases turn <;> rfl
  | commit turn => cases turn <;> rfl
  | close turn => cases turn <;> rfl
  | drop => rfl

theorem Point.idled_le (p : Point) : p.idled ≤ 5 := by
  cases p with
  | register t r => cases r <;> simp [idled]
  | begin b => cases b <;> simp [idled]
  | execute t e => cases e <;> simp [idled]
  | commit o => cases o <;> simp [idled]
  | close o => cases o <;> simp [idled]

theorem idled_registration (t : Target) : (Point.register t (registration t.kind)).idled = 2 := by
  cases t.kind <;> rfl

theorem Turn.idled (h : Turn s k c s' next effects) :
    c.idled < next.idled + (effects ++ Machine.returns next).length := by
  cases h with
  | register t turn =>
      cases turn with
      | unknown =>
          have two := idled_registration t
          show 1 < (Point.register t (registration t.kind)).idled + _
          omega
      | _ => simp [Call.idled, Point.idled, Call.misuse, Call.fault, Call.done, Machine.returns]
  | begin turn =>
      cases turn <;> simp [Call.idled, Point.idled, Call.misuse, Call.fault, Call.done,
        Machine.returns]
  | execute t turn =>
      cases turn with
      | announceStart =>
          split <;> simp [Call.idled, Point.idled]
      | _ => simp [Call.idled, Point.idled, Call.misuse, Call.fault, giveUp, Machine.returns]
  | commit turn =>
      cases turn <;> simp [Call.idled, Point.idled, Call.misuse, Call.fault, Call.done,
        Machine.returns]
  | close turn =>
      cases turn <;> simp [Call.idled, Point.idled, Call.fault, Call.done, Machine.returns]
  | drop p stands =>
      have low := p.idled_le
      cases c with
      | ready q | waiting q ticket =>
          obtain rfl : q = p := Option.some.inj stands
          exact Nat.lt_succ_of_le low
      | returned | dropped => cases stands

namespace Machine

theorem Moved.pace {i : Nat} {x y : Thread} (h : Moved m i x effects y m') : x.pace < y.pace := by
  have idled := h.turn.idled
  rw [Thread.pace, Thread.pace, h.past, List.length_append]
  omega

theorem ticket?_returns (next : Call) : (returns next).filterMap Effect.ticket? = [] := by
  cases next <;> rfl

/-- Tickets are drawn in order and without gaps. -/
theorem Used.tickets (h : Used settings dispatch m) :
    m.effects.filterMap Effect.ticket? = List.range m.tickets := by
  refine h.keep (P := fun m => m.effects.filterMap Effect.ticket? = List.range m.tickets) rfl ?_ ?_
  · intro m p _ _ ih
    rw [effects_call, List.filterMap_append, ih]
    exact List.append_nil _
  · intro m i x effects y m' _ _ moved ih
    rw [moved.effects_eq, List.filterMap_append, List.filterMap_append, ticket?_returns,
      List.append_nil, moved.turn.draws, ih, moved.tickets, List.range_add]

/-- A ticket tells its request, and who made it. -/
theorem Used.ticket_unique (h : Used settings dispatch m) {i j : Nat} {q q' : Request}
    (hi : ⟨i, .issued k q⟩ ∈ m.record) (hj : ⟨j, .issued k q'⟩ ∈ m.record) : i = j ∧ q = q' := by
  have once : m.record.countP (fun e => e.effect.ticket? == some k) ≤ 1 := by
    have drawn : (m.effects.filterMap Effect.ticket?).count k ≤ 1 :=
      h.tickets ▸ List.nodup_iff_count.mp List.nodup_range k
    rw [List.count, List.countP_filterMap, Machine.effects, List.countP_map] at drawn
    refine Nat.le_trans (List.countP_mono_left fun e _ same => ?_) drawn
    simp_all
  cases eq_of_countP_le_one once hi hj (beq_self_eq_true _) (beq_self_eq_true _)
  exact ⟨rfl, rfl⟩

end Machine

end DumpFlow.Session
