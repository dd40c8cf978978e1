import DumpFlow.Proofs.Session.Deeds
import DumpFlow.Proofs.Session.Exchanges
import DumpFlow.Proofs.Session.Rows

/-!
Statements and row sets, from their opening to their closing. What a call has been given and has not
asked to close yet can be read off the point at which it stands, and a call that is dropped takes
just that with it. So the books balance: what has been opened is what has been asked to close and
what is still owed, and nothing is closed twice.
-/

namespace DumpFlow

open scoped List

/-- The ticket of the statement or row set that a request closes. -/
def Request.closes? : Request → Option Nat
  | .closeStatement statement => some statement.ticket
  | .closeRows rows => some rows.ticket
  | _ => none

/-- A call that is given up while it waits for the one request never makes the other. -/
def Request.strands : Request → Request → Bool
  | .createDirectory _, .closeStatement _ | .nextPath _, .closeStatement _ |
    .closeRows _, .closeStatement _ => true
  | .dump _ statement _ _, .closeStatement statement' => statement == statement'
  | .nextPath rows, .closeRows rows' => rows == rows'
  | _, _ => false

namespace Session

/-- The request that closes what an exchange has opened. -/
def Exchange.due? : Exchange → Option Request
  | ⟨ticket, q, .done⟩ => closing? ticket q
  | _ => none

/-- What a call has been given, as requests to close it. -/
def openedIn (effects : List Effect) : List Request :=
  (exchangesIn effects).filterMap Exchange.due?

def Effect.closing? : Effect → Option Request
  | .issued _ q => q.closes?.map fun _ => q
  | _ => none

def closingsIn (effects : List Effect) : List Request :=
  effects.filterMap Effect.closing?

def Effect.makes (q : Request) : Effect → Bool
  | .issued _ r => r == q
  | _ => false

def Effect.draws (k : Nat) (e : Effect) : Bool :=
  e.ticket? == some k

/-- What a call still has to close when it stands at a point; its own request is not made yet. -/
def Point.owes : Point → List Request
  | .register _ (.closeStatement statement) => [.closeStatement statement]
  | .execute _ (.announceStart _ statement) | .execute _ (.createDirectory _ statement) |
    .execute _ (.dump _ statement) | .execute _ (.announceFinish statement) |
    .execute _ (.closeStatement statement _) => [.closeStatement statement]
  | .execute _ (.fetch statement rows) | .execute _ (.announceFile statement rows _) |
    .execute _ (.closeRows statement rows _) => [.closeRows rows, .closeStatement statement]
  | _ => []

/-- What a call still has to close; while it waits the request of its point is made. -/
def Call.owes : Call → List Request
  | .ready p => p.owes
  | .waiting (.execute _ (.createDirectory _ statement)) _ |
    .waiting (.execute _ (.dump _ statement)) _ |
    .waiting (.execute _ (.closeRows statement _ _)) _ => [.closeStatement statement]
  | .waiting (.execute _ (.fetch statement rows)) _ =>
    [.closeRows rows, .closeStatement statement]
  | _ => []

/-- `c` is where a call stands, or stood when it was dropped, and its books balance there. -/
structure Accounted (s : Session) (x : Thread) (c : Call) : Prop where
  stands : x.call = c ∨ x.call = .dropped
  kept : c ≠ .dropped
  dumps : ∀ t p, c.point? = some (.execute t p) → .called (executing t) ∈ x.past
  open_ : pendingIn x.past = c.pending? s
  balance : openedIn x.past ~ closingsIn x.past ++ c.owes

variable {settings : TransactionSettings} {dispatch : Dispatch} {m : Machine}
  {s s' : Session} {k i : Nat} {t : Target} {c next : Call} {past effects : List Effect}
  {x : Thread} {q : Request}

@[simp] theorem closingsIn_append (es es' : List Effect) :
    closingsIn (es ++ es') = closingsIn es ++ closingsIn es' :=
  List.filterMap_append

@[simp] theorem closingsIn_returns (next : Call) : closingsIn (Machine.returns next) = [] := by
  cases next <;> rfl

/-! ### What a turn opens, and what it closes -/

/-- What a turn opens and what was owed before is what it closes and what is owed after it. -/
def Balances (s : Session) (c next : Call) (effects : List Effect) : Prop :=
  (exchangesFrom (c.pending? s) effects).filterMap Exchange.due? ++ c.owes =
    closingsIn effects ++ next.owes

theorem RegisterTurn.balances (h : RegisterTurn s k t c s' next effects) :
    Balances s c next effects := by
  cases h with
  | unknown => cases kind : t.kind <;> rfl
  | closed _ _ _ fits => rcases fits with rfl | ⟨fault, rfl⟩ <;> rfl
  | _ => rfl

theorem BeginTurn.balances (h : BeginTurn s k c s' next effects) : Balances s c next effects := by
  cases h with
  | closed _ _ _ _ fits => rcases fits with rfl | ⟨fault, rfl⟩ <;> rfl
  | _ => rfl

theorem ExecuteTurn.balances (h : ExecuteTurn s k t c s' next effects) :
    Balances s c next effects := by
  cases h with
  | announceStart => simp only [Balances]; split <;> rfl
  | rowsLeft _ _ _ _ _ fits | closed _ _ _ _ fits =>
      rcases fits with rfl | ⟨fault, rfl⟩ <;> rfl
  | _ => rfl

theorem CommitTurn.balances (h : CommitTurn s k c s' next effects) :
    Balances s c next effects := by
  cases h <;> rfl

theorem CloseTurn.balances (h : CloseTurn s k c s' next effects) : Balances s c next effects := by
  cases h <;> rfl

theorem Turn.balances (h : Turn s k c s' next effects) (kept : next ≠ .dropped) :
    Balances s c next effects := by
  cases h with
  | register t turn => exact turn.balances
  | begin turn => exact turn.balances
  | execute t turn => exact turn.balances
  | commit turn => exact turn.balances
  | close turn => exact turn.balances
  | drop => exact absurd rfl kept

theorem openedIn_turn (known : pendingIn past = c.pending? s) :
    openedIn (past ++ (effects ++ Machine.returns next)) =
      openedIn past ++ (exchangesFrom (c.pending? s) effects).filterMap Exchange.due? := by
  rw [openedIn, exchangesIn_turn known, List.filterMap_append]
  rfl

theorem Accounted.entry (s : Session) (p : Point) (entry : p.IsEntry) :
    Accounted s ⟨.ready p, [.called p]⟩ (.ready p) := by
  refine ⟨.inl rfl, nofun, fun t e stands => ?_, rfl, ?_⟩
  · cases entry <;> cases stands
    exact List.mem_singleton_self _
  · cases entry <;> exact .refl _

theorem Accounted.turn (h : Accounted s ⟨c, past⟩ c) (turn : Turn s k c s' next effects)
    (kept : next ≠ .dropped) :
    Accounted s ⟨next, past ++ (effects ++ Machine.returns next)⟩ next := by
  refine ⟨.inl rfl, kept, fun t p stands => ?_, turn.talk.pending kept h.open_, ?_⟩
  · obtain ⟨⟨p', stood⟩, -⟩ := turn.of_execute stands
    exact List.mem_append_left _ (h.dumps t p' stood)
  have balances : _ ++ c.owes = closingsIn effects ++ next.owes := turn.balances kept
  rw [openedIn_turn h.open_, closingsIn_append, closingsIn_append, closingsIn_returns,
    List.append_nil]
  calc openedIn past ++ (exchangesFrom (c.pending? s) effects).filterMap Exchange.due?
    _ ~ closingsIn past ++ c.owes ++
        (exchangesFrom (c.pending? s) effects).filterMap Exchange.due? :=
      h.balance.append_right _
    _ ~ closingsIn past ++
        ((exchangesFrom (c.pending? s) effects).filterMap Exchange.due? ++ c.owes) := by
      rw [List.append_assoc]
      exact List.perm_append_comm.append_left _
    _ = closingsIn past ++ closingsIn effects ++ next.owes := by
      rw [balances, List.append_assoc]

/-- A call that is dropped leaves its books as they are. -/
theorem Accounted.drop (h : Accounted s ⟨c, past⟩ c) :
    Accounted s ⟨.dropped, past ++ [.dropped]⟩ c := by
  refine ⟨.inr rfl, h.kept, fun t p stands => List.mem_append_left _ (h.dumps t p stands), ?_, ?_⟩
  · rw [pendingIn_append]
    exact h.open_
  · rw [openedIn, exchangesIn_append, closingsIn_append, List.filterMap_append]
    simpa [openedIn, exchangesFrom, Effect.completes, show closingsIn [.dropped] = [] from rfl]
      using h.balance

theorem Accounted.congr (h : Setup s.settings s.dispatch s') (accounted : Accounted s x c) :
    Accounted s' x c :=
  ⟨accounted.stands, accounted.kept, accounted.dumps,
    accounted.open_.trans (Call.pending?_congr h c).symm, accounted.balance⟩

/-- What a waiting call owes is stranded by what it waits for, and only dumps owe anything. -/
theorem strands_of_owes {p : Point} {ticket : Nat} (owed : q ∈ (Call.waiting p ticket).owes) :
    (∃ t e, p = .execute t e) ∧ ∃ r, p.request? s = some r ∧ r.strands q = true := by
  cases p with
  | register t r => cases owed
  | begin b => cases owed
  | commit o => cases owed
  | close o => cases owed
  | execute t e =>
      refine ⟨⟨t, e, rfl⟩, ?_⟩
      cases e with
      | createDirectory | closeRows =>
          cases List.mem_singleton.mp owed
          exact ⟨_, rfl, rfl⟩
      | dump =>
          cases List.mem_singleton.mp owed
          exact ⟨_, rfl, beq_self_eq_true _⟩
      | fetch statement rows =>
          refine ⟨_, rfl, ?_⟩
          cases owed with
          | head => exact beq_self_eq_true rows
          | tail _ later =>
              cases List.mem_singleton.mp later
              rfl
      | _ => cases owed

/-- Exchanges are told apart by the tickets that were drawn for them. -/
theorem tickets_exchangesFrom (opened : Option (Nat × Request)) (effects : List Effect) :
    ((exchangesFrom opened effects).map Exchange.ticket).Sublist
      ((opened.map Prod.fst).toList ++ effects.filterMap Effect.ticket?) := by
  induction effects generalizing opened with
  | nil => exact List.nil_sublist _
  | cons e es ih =>
      cases e with
      | issued ticket q =>
          exact (ih (some (ticket, q))).trans (List.sublist_append_right ..)
      | answered ticket reply =>
          cases opened with
          | none => exact ih none
          | some pending => exact (ih none).cons_cons pending.1
      | _ => exact ih opened

theorem closes?_of_due {e : Exchange} (h : e.due? = some q) : q.closes? = some e.ticket := by
  obtain ⟨ticket, r, reply⟩ := e
  cases reply <;> try cases h
  cases r <;> cases h <;> rfl

/-- What is opened is told apart by the tickets of the requests that opened it. -/
theorem tickets_openedIn (effects : List Effect) :
    ((openedIn effects).filterMap Request.closes?).Sublist (effects.filterMap Effect.ticket?) := by
  have known (es : List Exchange) :
      ((es.filterMap Exchange.due?).filterMap Request.closes?).Sublist
        (es.map Exchange.ticket) := by
    induction es with
    | nil => exact .slnil
    | cons e es ih =>
        cases due : e.due? with
        | none =>
            rw [List.filterMap_cons_none due]
            exact ih.cons _
        | some q =>
            rw [List.filterMap_cons_some due, List.filterMap_cons_some (closes?_of_due due)]
            exact ih.cons_cons _
  exact (known _).trans (tickets_exchangesFrom none effects)

theorem count_openedIn_le (closes : q.closes? = some k) (effects : List Effect) :
    (openedIn effects).count q ≤ effects.countP (Effect.draws k) := by
  have drawn : effects.countP (Effect.draws k) = (effects.filterMap Effect.ticket?).count k := by
    rw [List.count, List.countP_filterMap]
    refine List.countP_congr fun e _ => ?_
    cases told : e.ticket? <;> simp [Effect.draws, told]
  rw [drawn]
  refine Nat.le_trans ?_ ((tickets_openedIn effects).count_le k)
  rw [List.count, List.count, List.countP_filterMap]
  refine List.countP_mono_left fun r _ same => ?_
  rw [beq_iff_eq.mp same, closes]
  simp

theorem count_closingsIn (closes : q.closes? = some k) (effects : List Effect) :
    (closingsIn effects).count q = effects.countP (Effect.makes q) := by
  rw [closingsIn, List.count, List.countP_filterMap]
  refine List.countP_congr fun e _ => ?_
  cases e with
  | issued ticket r =>
      cases told : r.closes? with
      | none =>
          have other : r ≠ q := by rintro rfl; simp [closes] at told
          simp [Effect.closing?, Effect.makes, told, other]
      | some _ => simp [Effect.closing?, Effect.makes, told]
  | _ => simp [Effect.closing?, Effect.makes]

theorem Accounted.count (h : Accounted s x c) (closes : q.closes? = some k) :
    x.past.countP (Effect.makes q) + c.owes.count q = (openedIn x.past).count q := by
  rw [h.balance.count_eq, List.count_append, count_closingsIn closes]

namespace Machine

theorem Used.accounted (h : Used settings dispatch m) :
    ∀ x ∈ m.threads, ∃ c, Accounted (.make settings dispatch) x c := by
  refine h.each (fun p entry => ⟨_, Accounted.entry _ p entry⟩) ?_
  rintro s k c past s' next effects setup turn ⟨c', accounted⟩
  obtain ⟨p, live⟩ := turn.live
  obtain rfl : c = c' := accounted.stands.resolve_right (by rintro rfl; cases live)
  have back : Setup s.settings s.dispatch (.make settings dispatch) :=
    ⟨setup.settings.symm, setup.output.symm, setup.kinds.symm⟩
  by_cases gone : next = .dropped
  · subst gone
    obtain ⟨-, rfl⟩ := turn.of_dropped
    exact ⟨c, accounted.drop⟩
  · exact ⟨next, ((accounted.congr setup).turn turn gone).congr back⟩

theorem Used.draws_le (h : Used settings dispatch m) (k : Nat) :
    m.effects.countP (Effect.draws k) ≤ 1 := by
  have drawn : (m.effects.filterMap Effect.ticket?).count k ≤ 1 :=
    h.tickets ▸ List.nodup_iff_count.mp List.nodup_range k
  rw [List.count, List.countP_filterMap] at drawn
  refine Nat.le_trans (Nat.le_of_eq (List.countP_congr fun e _ => ?_)) drawn
  cases told : e.ticket? <;> simp [Effect.draws, told]

/-- What a call has asked to close it has been given. -/
theorem Used.makes_le_draws (h : Used settings dispatch m) (closes : q.closes? = some k)
    (member : x ∈ m.threads) :
    x.past.countP (Effect.makes q) ≤ x.past.countP (Effect.draws k) := by
  obtain ⟨c, accounted⟩ := h.accounted x member
  have balance := accounted.count closes
  have few := count_openedIn_le closes x.past
  omega

/-- Nothing is closed twice. -/
theorem Used.closes_once (h : Used settings dispatch m) (closes : q.closes? = some k) :
    m.effects.countP (Effect.makes q) ≤ 1 :=
  Nat.le_trans (h.countP_le fun _ member => h.makes_le_draws closes member) (h.draws_le k)

/-- What a call has been given is closed once, or owed by that call. -/
theorem Used.closed_or_owed (h : Used settings dispatch m) (stood : m.threads[i]? = some x)
    (accounted : Accounted s x c) (opened : q ∈ openedIn x.past) :
    m.effects.countP (Effect.makes q) + c.owes.count q = 1 := by
  obtain ⟨e, -, due⟩ := List.mem_filterMap.mp opened
  have closes := closes?_of_due due
  obtain ⟨others, perm, -⟩ := exists_perm_set stood
  have each : (others.map fun y => y.past.countP (Effect.makes q)).sum ≤
      (others.map fun y => y.past.countP (Effect.draws e.ticket)).sum :=
    List.sum_le_sum fun y member =>
      h.makes_le_draws closes (perm.mem_iff.mpr (List.mem_cons_of_mem _ member))
  have once := h.draws_le e.ticket
  rw [h.countP_effects, (perm.map _).sum_nat, List.map_cons, List.sum_cons] at once
  rw [h.countP_effects, (perm.map _).sum_nat, List.map_cons, List.sum_cons]
  have balance := accounted.count closes
  have few := count_openedIn_le closes x.past
  have some_ : 0 < (openedIn x.past).count q := List.count_pos_iff.mpr opened
  omega

/-- What the database has opened for a call is on the books of that call. -/
theorem Used.opened (h : Used settings dispatch m) {r : Request}
    (issued : ⟨i, .issued k r⟩ ∈ m.record) (answered : ⟨i, .answered k .done⟩ ∈ m.record)
    (closes : closing? k r = some q) : ∃ x, m.threads[i]? = some x ∧ q ∈ openedIn x.past := by
  obtain ⟨x, stood, heard⟩ := h.exists_thread (mem_past.mpr answered)
  have paired := h.paired x (List.mem_of_getElem? stood)
  obtain ⟨r', exchange⟩ := paired.heard k .done heard
  have issued' := paired.issued _ exchange
  rw [past_of_getElem? stood, mem_past] at issued'
  obtain ⟨-, rfl⟩ := h.ticket_unique issued issued'
  exact ⟨x, stood, List.mem_filterMap.mpr ⟨_, exchange, closes⟩⟩

end Machine

end Session

end DumpFlow
