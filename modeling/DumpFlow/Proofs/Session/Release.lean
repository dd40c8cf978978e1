import DumpFlow.Proofs.Session.Lifetime

/-!
Everything that a session opens is closed once. A transaction passes from hand to hand: from the
database to the begin that asked for it, into the slot, and from there to the close or back to the
begin that came too late. It is in one place at a time, and whoever has it last closes it.
-/

namespace DumpFlow.Session

variable {settings : TransactionSettings} {dispatch : Dispatch} {m m' : Machine}
  {s s' : Session} {k i j ticket : Nat} {c next : Call} {past effects es : List Effect}
  {status : CommitStatus} {transaction : Transaction} {x y : Thread}

def Effect.closes (transaction : Transaction) : Effect → Bool
  | .issued _ (.closeTransaction other) => other == transaction
  | _ => false

def Effect.closesClient : Effect → Bool
  | .issued _ .closeClient => true
  | _ => false

/-- The call has the transaction in its hands. -/
def Call.owns (transaction : Transaction) : Call → Bool
  | .ready (.begin (.store other)) | .ready (.begin (.closeAbandoned other _)) |
    .ready (.close (.closeTransaction other)) => other == transaction
  | _ => false

def holds (transaction : Transaction) (s : Session) : Bool :=
  s.slot == some transaction

theorem created_opening (transaction : Transaction) (k : Nat) (o : TransactionOption)
    (es : List Effect) : Created transaction (openingPast k o ++ es) =
      ((k == transaction.ticket || es.any (Effect.asks transaction.ticket)) &&
        es.any (Effect.grants transaction.ticket)) := by
  simp [Created, openingPast, Effect.asks, Effect.grants]

theorem not_created (ungranted : es.any (Effect.grants transaction.ticket) = false) :
    Created transaction es = false := by
  simp [Created, ungranted]

theorem beq_transaction (k : Nat) (transaction : Transaction) :
    ((⟨k⟩ : Transaction) == transaction) = (k == transaction.ticket) := by
  cases transaction
  simp

theorem countP_closes (k : Nat) (other transaction : Transaction) :
    [Effect.issued k (.closeTransaction other)].countP (Effect.closes transaction) =
      (other == transaction).toNat := by
  cases same : other == transaction <;> simp [Effect.closes, same]

theorem BeginTurn.balance (turn : BeginTurn s k c s' next effects) (trail : BeginTrail c past)
    (free : ∀ other, c = .ready (.begin (.store other)) → s.slot = none)
    (transaction : Transaction) :
    (next.owns transaction).toNat + effects.countP (Effect.closes transaction) +
        (s'.holds transaction).toNat + (Created transaction past).toNat =
      (c.owns transaction).toNat + (s.holds transaction).toNat +
        (Created transaction (past ++ (effects ++ Machine.returns next))).toNat := by
  cases turn with
  | wrongState | rightState | noTargets | someTargets | started | outrun | announce | ask |
    refused =>
      cases trail
      rw [not_created rfl, not_created rfl]
      rfl
  | created ticket o =>
      cases trail
      rw [not_created rfl, created_opening]
      simp [Call.owns, holds, Effect.closes, Effect.asks, Effect.grants, Machine.returns,
        beq_transaction, Nat.add_comm]
  | failed | left =>
      cases trail
      rw [created_opening, List.append_assoc, created_opening]
      rfl
  | store other =>
      cases trail
      simp [Call.owns, holds, free, created_opening, Machine.returns]
  | running | abandoned | taken =>
      cases trail
      simp [Call.owns, Call.done, Call.misuse, Call.fault, holds, Effect.closes, created_opening,
        Effect.asks, Effect.grants, Machine.returns]
  | reclaimed fault other held =>
      cases trail
      simp [Call.owns, holds, held, created_opening, Machine.returns]
  | askClose fault other =>
      cases trail
      rw [countP_closes]
      simp [Call.owns, holds, created_opening, Effect.asks, Effect.grants, Machine.returns]
  | closed ticket fault other reply fits =>
      cases trail with
      | closing first =>
          rw [created_opening, List.append_assoc, created_opening]
          cases same : first == transaction.ticket <;>
            simp [same, Call.owns, Call.misuse, Call.fault, holds, Effect.closes, Effect.asks,
              Effect.grants, Machine.returns]

theorem CloseTurn.balance (turn : CloseTurn s k c s' next effects) (transaction : Transaction) :
    (next.owns transaction).toNat + effects.countP (Effect.closes transaction) +
        (s'.holds transaction).toNat =
      (c.owns transaction).toNat + (s.holds transaction).toNat := by
  cases turn with
  | taken other held => simp [Call.owns, holds, held]
  | askTransaction other =>
      rw [countP_closes]
      simp [Call.owns, holds]
  | _ => simp [Call.owns, Call.done, Call.fault, holds, Effect.closes]

/-- Who is not a begin is given no transaction. -/
theorem Trail.not_created (h : Trail status c past) {p : Point} (stands : c.point? = some p)
    (other : ∀ b, p ≠ .begin b) : Created transaction past = false := by
  cases created : Created transaction past with
  | false => rfl
  | true =>
      obtain ⟨b, rfl⟩ := (h.begin_of_created created).point stands
      exact absurd rfl (other b)

theorem Turn.not_created (h : Turn s k c s' next effects)
    (trail : Trail s.settings.commitStatus c past) {p : Point} (stands : c.point? = some p)
    (other : ∀ b, p ≠ .begin b) :
    Created transaction (past ++ (effects ++ Machine.returns next)) = false := by
  cases created : Created transaction (past ++ (effects ++ Machine.returns next)) with
  | false => rfl
  | true =>
      obtain ⟨o, asked⟩ := issued_of_created created
      rcases List.mem_append.mp asked with old | new
      · obtain ⟨b, rfl⟩ := (trail.begin_of_mem old rfl).point stands
        exact absurd rfl (other b)
      · rw [h.creates new] at stands
        exact absurd (Option.some.inj stands).symm (other _)

theorem Turn.balance (h : Turn s k c s' next effects) (trail : Trail s.settings.commitStatus c past)
    (kept : next ≠ .dropped) (free : ∀ other, c = .ready (.begin (.store other)) → s.slot = none)
    (transaction : Transaction) :
    (next.owns transaction).toNat + effects.countP (Effect.closes transaction) +
        (s'.holds transaction).toNat + (Created transaction past).toNat =
      (c.owns transaction).toNat + (s.holds transaction).toNat +
        (Created transaction (past ++ (effects ++ Machine.returns next))).toNat := by
  have apart : ∀ p, c.point? = some p → (∀ b, p ≠ .begin b) →
      (next.owns transaction).toNat + effects.countP (Effect.closes transaction) +
          (s'.holds transaction).toNat =
        (c.owns transaction).toNat + (s.holds transaction).toNat →
      (next.owns transaction).toNat + effects.countP (Effect.closes transaction) +
          (s'.holds transaction).toNat + (Created transaction past).toNat =
        (c.owns transaction).toNat + (s.holds transaction).toNat +
          (Created transaction (past ++ (effects ++ Machine.returns next))).toNat := by
    intro p stands other same
    rw [trail.not_created stands other, h.not_created trail stands other, same]
  cases h with
  | register t turn =>
      obtain ⟨p, stands⟩ := turn.point
      refine apart _ stands (fun _ => Point.noConfusion) ?_
      cases turn <;> rfl
  | begin turn =>
      obtain ⟨p, stands⟩ := turn.point
      cases trail with
      | aside aside => cases aside _ stands
      | begin trail => exact turn.balance trail free transaction
      | commit trail => cases (trail.point stands).choose_spec
      | close trail => cases (trail.point stands).choose_spec
  | execute t turn =>
      obtain ⟨p, stands⟩ := turn.point
      refine apart _ stands (fun _ => Point.noConfusion) ?_
      cases turn <;> rfl
  | commit turn =>
      obtain ⟨p, stands⟩ := turn.point
      refine apart _ stands (fun _ => Point.noConfusion) ?_
      cases turn <;> rfl
  | close turn =>
      obtain ⟨p, stands⟩ := turn.point
      exact apart _ stands (fun _ => Point.noConfusion) (turn.balance transaction)
  | drop => exact absurd rfl kept

/-- Calls in whose next action the slot is emptied, once the session is closed, or which go on to
one. -/
def Call.willEmpty : Call → Bool
  | .ready (.close .take) | .ready (.begin .run) | .ready (.begin (.reclaim _)) => true
  | _ => false

theorem Turn.empties (h : Turn s k c s' next effects) (will : c.willEmpty = true)
    (closed : s.state = .closed) (kept : next ≠ .dropped) :
    s'.slot = none ∨ next.willEmpty = true := by
  cases h with
  | register t turn => cases turn <;> cases will
  | begin turn =>
      cases turn with
      | running starting => simp [closed] at starting
      | abandoned => exact .inr rfl
      | reclaimed => exact .inl rfl
      | taken fault empty => exact .inl empty
      | _ => cases will
  | execute t turn => cases turn <;> cases will
  | commit turn => cases turn <;> cases will
  | close turn =>
      cases turn with
      | taken => exact .inl rfl
      | empty empty => exact .inl empty
      | _ => cases will
  | drop => exact absurd rfl kept

/-- Whoever closes the session goes on to the slot. -/
theorem Turn.shuts (h : Turn s k c s' next effects) (open_ : s.state ≠ .closed)
    (closed : s'.state = .closed) : next.willEmpty = true := by
  cases h with
  | register t turn => cases turn <;> exact absurd closed open_
  | begin turn =>
      cases turn with
      | started | failed | running => cases closed
      | _ => exact absurd closed open_
  | execute t turn => cases turn <;> exact absurd closed open_
  | commit turn =>
      cases turn with
      | started | failed | settled => cases closed
      | _ => exact absurd closed open_
  | close turn =>
      cases turn with
      | swapped => rfl
      | _ => exact absurd closed open_
  | drop => exact absurd closed open_

theorem Turn.of_closing (h : Turn s k (.ready closing) s' next effects) :
    next = .dropped ∨ s'.state = .closed := by
  generalize stands : Call.ready closing = c at h
  cases h with
  | register t turn => cases turn <;> cases stands
  | begin turn => cases turn <;> cases stands
  | execute t turn => cases turn <;> cases stands
  | commit turn => cases turn <;> cases stands
  | close turn =>
      cases turn with
      | swapped => exact .inr rfl
      | already closed => exact .inr closed
      | _ => cases stands
  | drop => exact .inl rfl

theorem Turn.not_called {p : Point} (h : Turn s k c s' next effects) :
    .called p ∉ effects ++ Machine.returns next := by
  have unreturned : .called p ∉ Machine.returns next := by
    cases next <;> simp [Machine.returns]
  simp only [List.mem_append, unreturned, or_false]
  cases h with
  | register t turn => cases turn <;> simp
  | begin turn => cases turn <;> simp
  | execute t turn => cases turn <;> simp
  | commit turn => cases turn <;> simp
  | close turn => cases turn <;> simp
  | drop => simp

theorem Turn.of_dropped (h : Turn s k c s' .dropped effects) :
    s' = s ∧ effects = [.dropped] := by
  generalize goes : Call.dropped = n at h
  cases h with
  | register t turn => cases turn <;> cases goes
  | begin turn => cases turn <;> cases goes
  | execute t turn => cases turn <;> cases goes
  | commit turn => cases turn <;> cases goes
  | close turn => cases turn <;> cases goes
  | drop => exact ⟨rfl, rfl⟩

theorem CloseTrail.client_le (h : CloseTrail c past) :
    past.countP Effect.closesClient ≤ past.countP (Effect.enters .closed) := by
  induction h with
  | dropped _ ih => simpa [Effect.closesClient, Effect.enters] using ih
  | closeClient state release | closingClient state release | ended state release =>
      cases release <;>
        simp [closingPast, attempt, List.countP_cons, Effect.closesClient, Effect.enters]
  | _ => simp [Effect.closesClient, Effect.enters]

theorem Trail.client_le (h : Trail status c past) :
    past.countP Effect.closesClient ≤ past.countP (Effect.enters .closed) := by
  refine countP_le_of_mem fun e member closes => ?_
  simp only [Effect.closesClient] at closes
  split at closes
  · exact (h.close_of_mem member rfl).client_le
  · cases closes

theorem CloseTrail.ended_of_changed {outcome : Outcome} {source : Lifecycle}
    (h : CloseTrail (.returned outcome) past) (changed : .changed source .closed ∈ past) :
    ∃ release k fault, past = closingPast source release ++ attempt k .closeClient fault ++
      [.returned outcome] ∧ outcome = closeOutcome (release.bind Release.fault) fault := by
  cases h with
  | already => simp at changed
  | ended state release k fault =>
      obtain rfl : source = state := by
        cases release <;> simpa [closingPast, attempt] using changed
      exact ⟨release, k, fault, rfl, rfl⟩

/-- What a call has of a transaction, and has done to it. -/
def Thread.share (transaction : Transaction) (x : Thread) : Nat :=
  (x.call.owns transaction).toNat + x.past.countP (Effect.closes transaction)

/-- The transactions that the database has handed out. -/
def Given (record : List Entry) (transaction : Transaction) : Prop :=
  ∃ i o, ⟨i, .issued transaction.ticket (.createTransaction o)⟩ ∈ record ∧
    ⟨i, .answered transaction.ticket .done⟩ ∈ record

theorem countP_closes_returns (next : Call) (transaction : Transaction) :
    (Machine.returns next).countP (Effect.closes transaction) = 0 := by
  cases next <;> rfl

theorem created_le (past : List Effect) (transaction : Transaction) :
    (Created transaction past).toNat ≤ past.countP Effect.isCreate := by
  cases created : Created transaction past with
  | false => exact Nat.zero_le _
  | true =>
      obtain ⟨o, asked⟩ := issued_of_created created
      exact List.countP_pos_iff.mpr ⟨_, asked, rfl⟩

namespace Machine

theorem Moved.kept (moved : Moved m i x effects y m') (kept : ∀ z ∈ m'.threads, z.call ≠ .dropped) :
    ∀ z ∈ m.threads, z.call ≠ .dropped := by
  intro z member
  rcases moved.eq_or_mem member with rfl | still
  · intro gone
    obtain ⟨p, stands⟩ := moved.turn.live
    rw [gone] at stands
    cases stands
  · exact kept z still

/-- Nothing is closed that was not created, and unless a call is dropped nothing gets lost. -/
def Balanced (transaction : Transaction) (m : Machine) : Prop :=
  ∃ lost, (m.threads.map (Thread.share transaction)).sum + (m.session.holds transaction).toNat +
      lost = (m.threads.map fun x => (Created transaction x.past).toNat).sum ∧
    ((∀ x ∈ m.threads, x.call ≠ .dropped) → lost = 0)

theorem Balanced.moved (h : Balanced transaction m) (used : Used settings dispatch m)
    (moved : Moved m i x effects y m') : Balanced transaction m' := by
  obtain ⟨lost, same, whole⟩ := h
  have shares := sum_map_set (b := y) moved.stood (Thread.share transaction)
  have created := sum_map_set (b := y) moved.stood fun x => (Created transaction x.past).toNat
  rw [← moved.threads] at shares created
  by_cases gone : y.call = .dropped
  · -- Whatever the dropped call had in its hands is lost.
    refine ⟨lost + (x.call.owns transaction).toNat, ?_, fun kept => absurd gone (kept y moved.mem')⟩
    have turn := moved.turn
    rw [gone] at turn
    obtain ⟨still, silent⟩ := turn.of_dropped
    have past : y.past = x.past ++ [.dropped] := by simp [moved.past, silent, gone, returns]
    have share : y.share transaction = x.past.countP (Effect.closes transaction) := by
      simp [Thread.share, gone, past, Call.owns, Effect.closes]
    have as_created : Created transaction y.past = Created transaction x.past := by
      simp [Created, past, Effect.asks, Effect.grants]
    rw [still]
    simp only [share, as_created] at shares created
    simp only [Thread.share] at shares same ⊢
    omega
  · have balance := moved.turn.balance (used.setup.settings ▸ used.trail x moved.mem) gone
      (fun other stands => used.slot_of_store moved.stood stands) transaction
    rw [← moved.past] at balance
    refine ⟨lost, ?_, fun kept => whole (moved.kept kept)⟩
    have share : y.share transaction = (y.call.owns transaction).toNat +
        (x.past.countP (Effect.closes transaction) +
          effects.countP (Effect.closes transaction)) := by
      simp [Thread.share, moved.past, countP_closes_returns]
    have share' : x.share transaction = (x.call.owns transaction).toNat +
        x.past.countP (Effect.closes transaction) := rfl
    omega

theorem Used.balanced (h : Used settings dispatch m) (transaction : Transaction) :
    Balanced transaction m := by
  refine h.keep (P := Balanced transaction) ⟨0, rfl, fun _ => rfl⟩ ?_ ?_
  · intro m p used entry ⟨lost, same, whole⟩
    have none_yet : Thread.share transaction ⟨.ready p, [.called p]⟩ = 0 := by
      cases entry <;> rfl
    have none_given : (Created transaction [.called p]).toNat = 0 := by
      cases entry <;> rfl
    refine ⟨lost, ?_, fun kept => whole fun x member => kept x ?_⟩
    · rw [used.threads_call]
      simpa [none_yet, none_given, call] using same
    · rw [used.threads_call]
      exact List.mem_append_left _ member
  · exact fun m i x effects y m' used _ moved balanced => balanced.moved used moved

/-- Nothing is closed more often than it was handed out. -/
theorem Used.closes_le_created (h : Used settings dispatch m) (transaction : Transaction) :
    m.effects.countP (Effect.closes transaction) ≤
      (m.threads.map fun x => (Created transaction x.past).toNat).sum := by
  obtain ⟨lost, same, -⟩ := h.balanced transaction
  have closes : m.effects.countP (Effect.closes transaction) ≤
      (m.threads.map (Thread.share transaction)).sum := by
    rw [h.countP_effects]
    exact List.sum_le_sum fun x _ => Nat.le_add_left _ _
  omega

theorem Used.closes_le (h : Used settings dispatch m) (transaction : Transaction) :
    m.effects.countP (Effect.closes transaction) ≤ 1 := by
  have closes := h.closes_le_created transaction
  have created : (m.threads.map fun x => (Created transaction x.past).toNat).sum ≤
      m.effects.countP Effect.isCreate := by
    rw [h.countP_effects]
    exact List.sum_le_sum fun x _ => created_le x.past transaction
  have once := h.create_once
  omega

/-- A transaction that is in the slot of a closed session is about to be taken out. -/
theorem Used.emptying (h : Used settings dispatch m) (kept : ∀ x ∈ m.threads, x.call ≠ .dropped)
    (held : m.session.slot ≠ none) (closed : m.session.state = .closed) :
    ∃ x ∈ m.threads, x.call.willEmpty = true := by
  refine h.keep (P := fun m => (∀ x ∈ m.threads, x.call ≠ .dropped) → m.session.slot ≠ none →
    m.session.state = .closed → ∃ x ∈ m.threads, x.call.willEmpty = true)
    (fun _ held => absurd rfl held) ?_ ?_ kept held closed
  · intro m p used _ ih kept held closed
    rw [used.threads_call] at kept ⊢
    obtain ⟨x, member, will⟩ :=
      ih (fun x member => kept x (List.mem_append_left _ member)) held closed
    exact ⟨x, List.mem_append_left _ member, will⟩
  · intro m i x effects y m' used _ moved ih kept held closed
    by_cases before : m.session.state = .closed
    · rcases moved.turn.slot with same | ⟨_, -, goes, -⟩ | ⟨emptied, -⟩
      · obtain ⟨z, member, will⟩ := ih (moved.kept kept) (same ▸ held) before
        rcases moved.eq_or_mem member with rfl | still
        · rcases moved.turn.empties will before (kept y moved.mem') with emptied | still
          · exact absurd emptied held
          · exact ⟨y, moved.mem', still⟩
        · exact ⟨z, still, will⟩
      · exact ⟨y, moved.mem', by rw [goes]; rfl⟩
      · exact absurd emptied held
    · exact ⟨y, moved.mem', moved.turn.shuts before closed⟩

/-- A session is closed once a call to close has acted. -/
theorem Used.shut (h : Used settings dispatch m) :
    ∀ x ∈ m.threads, .called closing ∈ x.past →
      x.call = .ready closing ∨ x.call = .dropped ∨ m.session.state = .closed := by
  refine h.keep (P := fun m => ∀ x ∈ m.threads, .called closing ∈ x.past →
    x.call = .ready closing ∨ x.call = .dropped ∨ m.session.state = .closed)
    (by simp [threads, make]) ?_ ?_
  · intro m p used _ ih x member closes
    rw [used.threads_call] at member
    rcases List.mem_append.mp member with old | new
    · exact ih x old closes
    · rw [List.mem_singleton.mp new] at closes ⊢
      obtain rfl : closing = p := by simpa using closes
      exact .inl rfl
  · intro m i x effects y m' used _ moved ih z member closes
    rcases moved.mem_cases member with rfl | old
    · rw [moved.past] at closes
      have before := (List.mem_append.mp closes).resolve_right moved.turn.not_called
      rcases ih x moved.mem before with start | gone | closed
      · have turn := moved.turn
        rw [start] at turn
        exact .inr turn.of_closing
      · obtain ⟨p, stands⟩ := moved.turn.live
        rw [gone] at stands
        cases stands
      · exact .inr (.inr (moved.turn.closed closed))
    · exact (ih z old closes).imp_right
        fun late => late.imp_right moved.turn.closed

/-- What is known of the resources of a session from which no call was dropped. -/
structure ReleasedOnce (m : Machine) : Prop where
  transaction_at_most : ∀ transaction, m.effects.countP (Effect.closes transaction) ≤ 1
  client_at_most : m.effects.countP Effect.closesClient ≤ 1
  /-- Once nothing is under way and someone has closed the session, all is released. -/
  quiet : m.isQuiet = true → (∃ i, ⟨i, .called closing⟩ ∈ m.record) →
    m.session.state = .closed ∧ m.session.slot = none ∧
      m.effects.countP Effect.closesClient = 1 ∧
      ∀ transaction, Given m.record transaction →
        m.effects.countP (Effect.closes transaction) = 1
  /-- The call that closed the session attempts to close the client whatever became of its attempt
  to close a transaction, and its outcome is made of the faults of the two. -/
  closer : ∀ i source outcome, ⟨i, .changed source .closed⟩ ∈ m.record →
    m.outcome? i = some outcome → ∃ release k fault,
      m.past i = closingPast source release ++ attempt k .closeClient fault ++
        [.returned outcome] ∧
      outcome = closeOutcome (release.bind Release.fault) fault

theorem Used.client_le (h : Used settings dispatch m) : m.effects.countP Effect.closesClient ≤ 1 :=
  (h.countP_le fun x member => (h.trail x member).client_le).trans (h.enters_once .closed)

theorem Used.closer (h : Used settings dispatch m) {source : Lifecycle} {outcome : Outcome}
    (changed : ⟨i, .changed source .closed⟩ ∈ m.record) (returned : m.outcome? i = some outcome) :
    ∃ release k fault, m.past i = closingPast source release ++ attempt k .closeClient fault ++
      [.returned outcome] ∧ outcome = closeOutcome (release.bind Release.fault) fault := by
  obtain ⟨x, stood, member⟩ := h.exists_thread (mem_past.mpr changed)
  have trail :=
    (h.trail x (List.mem_of_getElem? stood)).close_of_mem member (by cases source <;> rfl)
  rw [call_of_outcome? stood returned] at trail
  exact past_of_getElem? stood ▸ trail.ended_of_changed member

theorem returned_of_quiet (quiet : m.isQuiet = true) (kept : .dropped ∉ m.calls) :
    ∀ x ∈ m.threads, ∃ outcome, x.call = .returned outcome := by
  intro x member
  obtain ⟨i, stood⟩ := List.getElem?_of_mem member
  have call := List.mem_of_getElem? (call_of_getElem? stood)
  have ended := List.all_eq_true.mp quiet x.call call
  cases here : x.call with
  | returned outcome => exact ⟨outcome, rfl⟩
  | dropped => exact absurd (here ▸ call) kept
  | ready p => simp [here] at ended
  | waiting p ticket => simp [here] at ended

theorem Used.client_of_quiet (h : Used settings dispatch m)
    (returned : ∀ x ∈ m.threads, ∃ outcome, x.call = .returned outcome)
    (closed : m.session.state = .closed) : m.effects.countP Effect.closesClient = 1 := by
  obtain ⟨source, changed⟩ := h.entered (by simp [closed])
  obtain ⟨i, member⟩ := mem_effects_iff.mp (closed ▸ changed)
  obtain ⟨x, stood, -⟩ := h.exists_thread member
  obtain ⟨outcome, ended⟩ := returned x (List.mem_of_getElem? stood)
  have gave : m.outcome? i = some outcome :=
    outcome?_eq_some.mpr (ended ▸ call_of_getElem? stood)
  obtain ⟨release, k, fault, past, -⟩ := h.closer (mem_past.mp member) gave
  have asked : .issued k .closeClient ∈ m.effects :=
    mem_effects_iff.mpr ⟨i, by simp [past, attempt]⟩
  exact Nat.le_antisymm h.client_le (List.countP_pos_iff.mpr ⟨_, asked, rfl⟩)

theorem Used.closes_of_quiet (h : Used settings dispatch m)
    (returned : ∀ x ∈ m.threads, ∃ outcome, x.call = .returned outcome)
    (empty : m.session.slot = none) (given : Given m.record transaction) :
    m.effects.countP (Effect.closes transaction) = 1 := by
  obtain ⟨lost, same, whole⟩ := h.balanced transaction
  have none_lost : lost = 0 := by
    refine whole fun x member gone => ?_
    obtain ⟨outcome, ended⟩ := returned x member
    simp [ended] at gone
  have shares : (m.threads.map (Thread.share transaction)).sum =
      m.effects.countP (Effect.closes transaction) := by
    rw [h.countP_effects]
    congr 1
    refine List.map_congr_left fun x member => ?_
    obtain ⟨outcome, ended⟩ := returned x member
    simp [Thread.share, ended, Call.owns]
  have free : m.session.holds transaction = false := by simp [holds, empty]
  have created : 0 < (m.threads.map fun x => (Created transaction x.past).toNat).sum := by
    obtain ⟨i, o, asked, granted⟩ := given
    obtain ⟨x, stood, asked⟩ := h.exists_thread (mem_past.mpr asked)
    have granted : .answered transaction.ticket .done ∈ x.past :=
      past_of_getElem? stood ▸ mem_past.mpr granted
    have created : Created transaction x.past = true :=
      Bool.and_eq_true_iff.mpr ⟨List.any_eq_true.mpr ⟨_, asked, beq_self_eq_true _⟩,
        List.any_eq_true.mpr ⟨_, granted, beq_self_eq_true _⟩⟩
    refine Nat.lt_of_lt_of_le ?_ (List.single_le_sum (by simp) _
      (List.mem_map_of_mem (List.mem_of_getElem? stood)))
    simp [created]
  have once := h.closes_le transaction
  simp only [shares, free, none_lost, Bool.toNat_false] at same
  omega

theorem Used.released_once (h : Used settings dispatch m) (kept : .dropped ∉ m.calls) :
    ReleasedOnce m where
  transaction_at_most := h.closes_le
  client_at_most := h.client_le
  quiet quiet closes := by
    have returned := returned_of_quiet quiet kept
    have alive : ∀ x ∈ m.threads, x.call ≠ .dropped := by
      intro x member gone
      obtain ⟨outcome, ended⟩ := returned x member
      simp [ended] at gone
    obtain ⟨i, closes⟩ := closes
    obtain ⟨x, stood, member⟩ := h.exists_thread (mem_past.mpr closes)
    obtain ⟨outcome, ended⟩ := returned x (List.mem_of_getElem? stood)
    have closed : m.session.state = .closed := by
      simpa [ended] using h.shut x (List.mem_of_getElem? stood) member
    have empty : m.session.slot = none := by
      by_contra held
      obtain ⟨y, member, will⟩ := h.emptying alive held closed
      obtain ⟨outcome, ended⟩ := returned y member
      simp [ended, Call.willEmpty] at will
    exact ⟨closed, empty, h.client_of_quiet returned closed,
      fun _ given => h.closes_of_quiet returned empty given⟩
  closer _ _ _ changed returned := h.closer changed returned

/-- A session that is closed before the transaction it has asked for arrives, so that begin is left
with it; closing the client fails. -/
theorem released_once_late :
    ∃ m, Used .standard (.standard ⟨.standard, false⟩) m ∧ .dropped ∉ m.calls ∧
      m.isQuiet = true ∧ Given m.record ⟨1⟩ ∧
      m.outcome? 2 = some (closeOutcome none (some (.server "gone"))) ∧ ReleasedOnce m := by
  have run : ((make (.make .standard (.standard ⟨.standard, false⟩))).run?
      [.call (registering (.table "a" ⟨"p/a"⟩)), .act 0, .act 0, .act 0,
        .answer 0 (.metadata (.named "a")), .act 0, .act 0, .call beginning, .act 1, .act 1, .act 1,
        .act 1, .act 1, .call closing, .act 2, .act 2, .act 2, .answer 1 .done, .act 1, .act 1,
        .act 1, .act 1, .answer 2 (.failed (.server "gone")), .answer 1 .done]).isSome = true := by
    decide
  have used := Used.start.run (by simp) (Option.some_get run).symm
  have calls : (Option.get _ run).calls = [.done, .misuse (.transition .starting .running .closed),
      .fault (.diagnostic (clientFailure (.server "gone")))] := rfl
  have kept : .dropped ∉ (Option.get _ run).calls := by
    rw [calls]
    simp [Call.done, Call.misuse, Call.fault]
  have given : Given (Option.get _ run).record ⟨1⟩ :=
    ⟨1, _, List.mem_of_getElem? (i := 8) rfl, List.mem_of_getElem? (i := 12) rfl⟩
  exact ⟨_, used, kept, rfl, given, rfl, used.released_once kept⟩

end Machine

end DumpFlow.Session
