import DumpFlow.Proofs.Session.Favour
import DumpFlow.Proofs.Session.Tickets

/-!
Row sets belong to the call that opened them. What a row set gives therefore depends on the dump of
that call alone, however many other dumps run beside it.
-/

namespace DumpFlow.Session

/-- The row set that a dump has in hand at a point. -/
def Point.rows? : Point → Option RowSet
  | .execute _ (.fetch _ rows) | .execute _ (.announceFile _ rows _) |
    .execute _ (.closeRows _ rows _) => some rows
  | _ => none

/-- The request that a row set is the answer to. -/
def Effect.opens (rows : RowSet) : Effect → Bool
  | .issued k (.dump _ _ _ _) => k == rows.ticket
  | _ => false

/-- Only who has opened a row set has it in hand. -/
structure Opens (x : Thread) : Prop where
  dumping : ∀ t transaction statement k,
    x.call = .waiting (.execute t (.dump transaction statement)) k →
      x.past.any (Effect.opens ⟨k⟩) = true
  holding : ∀ p rows, x.call.point? = some p → p.rows? = some rows →
    x.past.any (Effect.opens rows) = true
  asking : ∀ rows, x.past.any (Effect.asksNext rows) = true →
    x.past.any (Effect.opens rows) = true

variable {settings : TransactionSettings} {dispatch : Dispatch} {m : Machine}
  {s s' : Session} {k i : Nat} {t : Target} {c next : Call} {past effects : List Effect}
  {x : Thread} {client : Client} {rows : RowSet}

theorem Turn.to_dump {ticket : Nat} {transaction : Transaction} {statement : Statement}
    (h : Turn s k c s' (.waiting (.execute t (.dump transaction statement)) ticket) effects) :
    effects.any (Effect.opens ⟨ticket⟩) = true := by
  generalize goes : Call.waiting (.execute t (.dump transaction statement)) ticket = n at h
  cases h with
  | register u turn => cases turn <;> cases goes
  | begin turn => cases turn <;> cases goes
  | execute u turn =>
      cases turn <;> cases goes
      simp [Effect.opens]
  | commit turn => cases turn <;> cases goes
  | close turn => cases turn <;> cases goes
  | drop => cases goes

theorem Turn.to_rows {p : Point} (h : Turn s k c s' next effects)
    (goes : next.point? = some p) (holds : p.rows? = some rows) :
    (∃ q, c.point? = some q ∧ q.rows? = some rows) ∨
      ∃ t transaction statement,
        c = .waiting (.execute t (.dump transaction statement)) rows.ticket := by
  cases h with
  | register u turn =>
      cases turn <;> cases goes <;> cases holds
  | begin turn => cases turn <;> cases goes <;> cases holds
  | execute u turn =>
      cases turn with
      | announceStart =>
          split at goes <;> cases goes <;> cases holds
      | dumped =>
          cases goes
          cases holds
          exact .inr ⟨_, _, _, rfl⟩
      | _ => cases goes <;> cases holds <;> exact .inl ⟨_, rfl, rfl⟩
  | commit turn => cases turn <;> cases goes <;> cases holds
  | close turn =>
      cases turn <;> cases goes <;> cases holds
  | drop => cases goes

theorem Turn.asks_next (h : Turn s k c s' next effects)
    (asks : effects.any (Effect.asksNext rows) = true) :
    ∃ q, c.point? = some q ∧ q.rows? = some rows := by
  cases h with
  | register u turn => cases turn <;> cases asks
  | begin turn => cases turn <;> cases asks
  | execute u turn =>
      cases turn with
      | askNext statement own =>
          obtain rfl : own = rows := by simpa [Effect.asksNext] using asks
          exact ⟨_, rfl, rfl⟩
      | _ => cases asks
  | commit turn => cases turn <;> cases asks
  | close turn => cases turn <;> cases asks
  | drop => cases asks

theorem exists_of_opens (h : past.any (Effect.opens rows) = true) :
    ∃ q, .issued rows.ticket q ∈ past := by
  obtain ⟨e, member, opens⟩ := List.any_eq_true.mp h
  simp only [Effect.opens] at opens
  split at opens
  · obtain rfl := beq_iff_eq.mp opens
    exact ⟨_, member⟩
  · cases opens

theorem any_returns (q : Effect → Bool) (silent : ∀ outcome, q (.returned outcome) = false)
    (next : Call) : (Machine.returns next).any q = false := by
  cases next <;> simp [Machine.returns, silent]

theorem Opens.turn (h : Opens ⟨c, past⟩) (turn : Turn s k c s' next effects) :
    Opens ⟨next, past ++ (effects ++ Machine.returns next)⟩ where
  dumping t transaction statement ticket goes := by
    have goes : next = _ := goes
    subst goes
    rw [List.any_append, List.any_append, turn.to_dump, Bool.true_or, Bool.or_true]
  holding p rows goes holds := by
    have opened : past.any (Effect.opens rows) = true := by
      rcases turn.to_rows goes holds with ⟨q, stands, held⟩ | ⟨t, transaction, statement, waits⟩
      · exact h.holding q rows stands held
      · exact h.dumping t transaction statement rows.ticket waits
    rw [List.any_append, opened, Bool.true_or]
  asking rows asks := by
    rw [List.any_append, List.any_append, any_returns _ (fun _ => rfl), Bool.or_false,
      Bool.or_eq_true] at asks
    have opened : past.any (Effect.opens rows) = true := by
      rcases asks with old | new
      · exact h.asking rows old
      · obtain ⟨q, stands, held⟩ := turn.asks_next new
        exact h.holding q rows stands held
    rw [List.any_append, opened, Bool.true_or]

namespace Machine

theorem Used.opens (h : Used settings dispatch m) : ∀ x ∈ m.threads, Opens x := by
  refine h.each ?_ fun s k c past s' next effects _ turn ih => ih.turn turn
  intro p entry
  constructor
  · exact fun _ _ _ _ waits => Call.noConfusion waits
  · intro q rows stands holds
    cases entry <;> cases stands <;> cases holds
  · intro rows asks
    cases asks

/-- What a row set gives is told by the request that opened it. -/
theorem Used.rows_eq (h : Used settings dispatch m) {transaction : Transaction}
    {statement : Statement} {destination : Path} {profile : DumpProfile}
    (opened : ⟨i, .issued rows.ticket (.dump transaction statement destination profile)⟩ ∈
      m.record) :
    client.rows m.record rows = client.files statement.text destination profile := by
  rw [Client.rows]
  generalize found : List.findSome? _ m.record = files
  cases files with
  | none =>
      have none_ := List.findSome?_eq_none_iff.mp found _ opened
      simp at none_
  | some files =>
      obtain ⟨⟨j, effect⟩, member, same⟩ := List.exists_of_findSome?_eq_some found
      simp only at same
      split at same
      · rename_i ticket transaction' statement' destination' profile'
        split at same
        · rename_i ours
          obtain ⟨-, request⟩ := h.ticket_unique (ours ▸ member) opened
          cases request
          exact (Option.some.inj same).symm
        · cases same
      · cases same

/-- Nobody else asks for the files of a row set. -/
theorem Used.countP_next (h : Used settings dispatch m) (stood : m.threads[i]? = some x)
    (opened : x.past.any (Effect.opens rows) = true) :
    m.record.countP (fun e => e.effect.asksNext rows) = x.past.countP (Effect.asksNext rows) := by
  rw [past_of_getElem? stood, past, List.countP_filterMap]
  refine List.countP_congr fun e member => ?_
  by_cases own : e.call = i
  · simp [own]
  · rw [if_neg own]
    refine iff_of_false (fun asks => own ?_) Bool.false_ne_true
    obtain ⟨y, stood', member'⟩ := h.exists_thread (mem_past.mpr member)
    have asked : y.past.any (Effect.asksNext rows) = true := List.any_eq_true.mpr ⟨_, member', asks⟩
    obtain ⟨_, own_dump⟩ := exists_of_opens opened
    obtain ⟨_, dump⟩ := exists_of_opens
      ((h.opens y (List.mem_of_getElem? stood')).asking rows asked)
    rw [past_of_getElem? stood, mem_past] at own_dump
    rw [past_of_getElem? stood', mem_past] at dump
    exact (h.ticket_unique dump own_dump).1

end Machine

end DumpFlow.Session
