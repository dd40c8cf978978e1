import DumpFlow.Proofs.Session.Exchanges
import DumpFlow.Proofs.Session.Release

/-!
What is still asked of a transaction that was committed or closed, and of a client that was closed.
A dump looks at the state once, when it starts, and a begin takes the transaction that it has asked
for whatever has become of the session; so those that were waiting then go on to what they were
about to ask. No other call asks for anything any more.
-/

namespace DumpFlow

/-- A call of the client, or of a transaction. -/
def Request.isUse : Request → Bool
  | .tableMetadata _ | .prepare _ | .createTransaction _ | .dump _ _ _ _ | .commit _ _ |
    .closeTransaction _ | .closeClient => true
  | .closeStatement _ | .createDirectory _ | .nextPath _ | .closeRows _ => false

/-- The state that a session has come to at least when the request is made. -/
def Request.since : Request → Lifecycle
  | .commit _ _ => .committing
  | .closeTransaction _ | .closeClient => .closed
  | _ => .preparing

namespace Session

/-- No call stands between two of its awaits. -/
def Machine.Paused (m : Machine) : Prop :=
  ∀ c ∈ m.calls, ∀ p, c = .ready p → p.IsEntry

/-- The call dumps in the transaction and waits for its statement or for its directory. -/
def Machine.Dumps (m : Machine) (i : Nat) (transaction : Transaction) : Prop :=
  ∃ t p ticket, m.calls[i]? = some (.waiting (.execute t p) ticket) ∧
    (p = .prepare transaction ∨ ∃ statement, p = .createDirectory transaction statement)

/-- Past its look at the state, a call can still come to dump in the transaction. -/
def Call.mayDump (transaction : Transaction) : Call → Bool
  | .ready (.execute _ .borrow) => true
  | .ready (.execute _ (.lookUp other)) | .ready (.execute _ (.prepare other)) |
    .waiting (.execute _ (.prepare other)) _ | .ready (.execute _ (.announceStart other _)) |
    .ready (.execute _ (.createDirectory other _)) |
    .waiting (.execute _ (.createDirectory other _)) _ |
    .ready (.execute _ (.dump other _)) => other == transaction
  | _ => false

/-- A call can still come to close a transaction. -/
def Call.mayRelease : Call → Bool
  | .ready (.begin .announce) | .ready (.begin (.create _)) | .waiting (.begin (.create _)) _ |
    .ready (.begin (.store _)) | .ready (.begin .run) | .ready (.begin (.reclaim _)) |
    .ready (.begin (.closeAbandoned _ _)) | .ready (.close .take) |
    .ready (.close (.closeTransaction _)) => true
  | _ => false

/-- A call can still come to use the client or a transaction in another way. -/
def Call.mayUse : Call → Bool
  | .ready (.register _ .lookUp) | .ready (.register _ .resolveTable) |
    .ready (.register _ .prepareQuery) | .ready (.execute _ .borrow) |
    .ready (.execute _ (.lookUp _)) | .ready (.execute _ (.prepare _)) | .ready (.begin .announce) |
    .ready (.begin (.create _)) | .ready (.commit .borrow) | .ready (.commit (.announce _)) |
    .ready (.commit (.commit _)) | .ready (.close .take) | .ready (.close (.closeTransaction _)) |
    .waiting (.close (.closeTransaction _)) _ | .ready (.close (.closeClient _)) => true
  | _ => false

/-- Once the session has come to `state`, who is so has been so before, and only who is so makes
such requests. -/
structure Inherited (state : Lifecycle) (is : Call → Bool) (makes : Request → Prop) : Prop where
  entry : ∀ p, p.IsEntry → is (.ready p) = false
  before : ∀ {s s' : Session} {k : Nat} {c next : Call} {effects : List Effect},
    Turn s k c s' next effects → state.code ≤ s.state.code → is next = true → is c = true
  asks : ∀ {s : Session} {p : Point} {q : Request}, p.request? s = some q → makes q →
    is (.ready p) = true

variable {settings : TransactionSettings} {dispatch : Dispatch} {m₀ m m' : Machine}
  {s s' : Session} {k i j ticket : Nat} {p : Point} {q : Request} {c next : Call}
  {past effects : List Effect} {x y : Thread} {transaction : Transaction} {moves : List Move}
  {state : Lifecycle} {is : Call → Bool} {makes : Request → Prop} {o : TransactionOption}

theorem mayDump_inherited (transaction : Transaction) :
    Inherited .committing (Call.mayDump transaction)
      (fun q => ∃ statement destination profile,
        q = .dump transaction statement destination profile) where
  entry p entry := by cases entry <;> rfl
  before turn late may := by
    cases turn with
    | register t turn => cases turn <;> cases may
    | begin turn => cases turn <;> cases may
    | execute t turn =>
        cases turn with
        | rightState right =>
            rw [right] at late
            exact absurd late (by decide)
        | borrowed => rfl
        | announceStart other statement =>
            split at may <;> exact may
        | known | askPrepare | askDirectory | prepared | directoryMade => exact may
        | _ => cases may
    | commit turn => cases turn <;> cases may
    | close turn => cases turn <;> cases may
    | drop => cases may
  asks {s p q} asks makes := by
    obtain ⟨statement, destination, profile, rfl⟩ := makes
    obtain ⟨t, rfl⟩ := Point.of_dump asks
    exact beq_self_eq_true _

theorem mayRelease_inherited :
    Inherited .closed Call.mayRelease
      (fun q => ∃ transaction, q = .closeTransaction transaction) where
  entry p entry := by cases entry <;> rfl
  before turn late may := by
    cases turn with
    | register t turn => cases turn <;> cases may
    | begin turn =>
        cases turn with
        | started right =>
            rw [right] at late
            exact absurd late (by decide)
        | announce | ask | created | store | abandoned | reclaimed => rfl
        | _ => cases may
    | execute t turn => cases turn <;> cases may
    | commit turn => cases turn <;> cases may
    | close turn =>
        cases turn with
        | swapped open_ => exact absurd (Lifecycle.eq_closed_of_code_le late) open_
        | taken => rfl
        | _ => cases may
    | drop => cases may
  asks {s p q} asks makes := by
    obtain ⟨transaction, rfl⟩ := makes
    cases p with
    | register t r => cases r <;> cases asks
    | begin b =>
        cases b with
        | closeAbandoned other fault => rfl
        | _ => cases asks
    | execute t e => cases e <;> cases asks
    | commit o => cases o <;> cases asks
    | close o =>
        cases o with
        | closeTransaction other => rfl
        | _ => cases asks

theorem mayUse_inherited :
    Inherited .closed Call.mayUse (fun q => q.isUse = true ∧
      (∀ transaction statement destination profile,
        q ≠ .dump transaction statement destination profile) ∧
      ∀ transaction, q ≠ .closeTransaction transaction) where
  entry p entry := by cases entry <;> rfl
  before {s _ _ _ _ _} turn late may := by
    have closed := Lifecycle.eq_closed_of_code_le late
    -- Whoever has yet to look at the state is turned away.
    cases turn with
    | register t turn =>
        cases turn with
        | handled right => simp [closed] at right
        | unknown => rfl
        | _ => cases may
    | begin turn =>
        cases turn with
        | started right => simp [closed] at right
        | announce => rfl
        | _ => cases may
    | execute t turn =>
        cases turn with
        | rightState right => simp [closed] at right
        | borrowed | known => rfl
        | announceStart => split at may <;> cases may
        | _ => cases may
    | commit turn =>
        cases turn with
        | started right => simp [closed] at right
        | borrowed | announce => rfl
        | _ => cases may
    | close turn =>
        cases turn with
        | swapped open_ => exact absurd closed open_
        | taken | empty | askTransaction | released | unreleased => rfl
        | _ => cases may
    | drop => cases may
  asks {s p q} asks makes := by
    obtain ⟨use, not_dump, not_release⟩ := makes
    cases p with
    | register t r =>
        cases r with
        | resolveTable | prepareQuery => rfl
        | _ => cases asks <;> cases use
    | begin b =>
        cases b with
        | create o => rfl
        | _ => cases asks <;> exact absurd rfl (not_release _)
    | execute t e =>
        cases e with
        | prepare => rfl
        | dump =>
            cases asks
            exact absurd rfl (not_dump _ _ _ _)
        | _ => cases asks <;> cases use
    | commit o =>
        cases o <;> cases asks
        rfl
    | close o => cases o <;> cases asks <;> rfl

/-- At an await, a call that can still come to dump in the transaction waits for the statement or
the directory of its dump. -/
theorem Call.mayDump_paused (may : c.mayDump transaction = true)
    (paused : ∀ p, c = .ready p → p.IsEntry) :
    ∃ t p ticket, c = .waiting (.execute t p) ticket ∧
      (p = .prepare transaction ∨ ∃ statement, p = .createDirectory transaction statement) := by
  cases c with
  | ready p => cases paused p rfl <;> cases may
  | waiting p ticket =>
      cases p with
      | execute t e =>
          cases e with
          | prepare other => exact ⟨t, _, ticket, rfl, .inl (by rw [eq_of_beq may])⟩
          | createDirectory other statement =>
              exact ⟨t, _, ticket, rfl, .inr ⟨statement, by rw [eq_of_beq may]⟩⟩
          | _ => cases may
      | _ => cases may
  | returned | dropped => cases may

theorem Call.mayRelease_paused (may : c.mayRelease = true)
    (paused : ∀ p, c = .ready p → p.IsEntry) :
    ∃ o ticket, c = .waiting (.begin (.create o)) ticket := by
  cases c with
  | ready p => cases paused p rfl <;> cases may
  | waiting p ticket =>
      cases p with
      | begin b =>
          cases b with
          | create o => exact ⟨o, ticket, rfl⟩
          | _ => cases may
      | _ => cases may
  | returned | dropped => cases may

theorem Call.mayUse_paused (may : c.mayUse = true) (paused : ∀ p, c = .ready p → p.IsEntry) :
    ∃ transaction ticket, c = .waiting (.close (.closeTransaction transaction)) ticket := by
  cases c with
  | ready p => cases paused p rfl <;> cases may
  | waiting p ticket =>
      cases p with
      | close o =>
          cases o with
          | closeTransaction transaction => exact ⟨transaction, ticket, rfl⟩
          | _ => cases may
      | _ => cases may
  | returned | dropped => cases may

/-- A request is made only where its call can stand. -/
theorem Point.Allows.since (h : p.Allows state) (asks : p.request? s = some q) :
    q.since.code ≤ state.code := by
  have owned {g : Lifecycle} (owned : p.owned? = some g) (low : q.since.code ≤ g.code) :
      q.since.code ≤ state.code := by
    rcases h.owned g owned with rfl | rfl
    · exact low
    · exact Lifecycle.code_le_closed _
  cases p with
  | register t r => cases r <;> cases asks <;> exact Nat.zero_le _
  | begin b =>
      cases b <;> cases asks
      · exact Nat.zero_le _
      · rw [h.late rfl]
        exact Nat.le_refl _
  | execute t e => cases e <;> cases asks <;> exact Nat.zero_le _
  | commit o =>
      cases o <;> cases asks
      exact owned rfl (Nat.le_refl _)
  | close o => cases o <;> cases asks <;> exact owned rfl (Nat.le_refl _)

namespace Machine

theorem Used.since (h : Used settings dispatch m) :
    ∀ k q, .issued k q ∈ m.effects → q.since.code ≤ m.session.state.code := by
  refine h.keep (P := fun m => ∀ k q, .issued k q ∈ m.effects →
    q.since.code ≤ m.session.state.code) (by simp [make, Machine.effects]) ?_ ?_
  · intro m p _ _ ih k q issued
    rw [effects_call] at issued
    refine ih k q ((List.mem_append.mp issued).resolve_right fun new => ?_)
    cases List.mem_singleton.mp new
  · intro m i x effects y m' used _ moved ih k q issued
    rw [moved.effects_eq] at issued
    refine Nat.le_trans ?_ moved.turn.code_le
    rcases List.mem_append.mp issued with old | new
    · exact ih k q old
    · obtain ⟨p, stands, asks⟩ := moved.turn.asked new
      exact (used.allows x moved.mem p (by rw [stands]; rfl)).since asks

/-! ### What is left to ask -/

/-- What is known of a machine that has come from `m₀`, where the session had come to `state`. -/
structure Heirs (m₀ : Machine) (state : Lifecycle) (is : Call → Bool) (makes : Request → Prop)
    (m : Machine) : Prop where
  late : state.code ≤ m.session.state.code
  stands : ∀ (i : Nat) x, m.threads[i]? = some x → is x.call = true →
    ∃ c, m₀.calls[i]? = some c ∧ is c = true
  made : ∃ later, m.record = m₀.record ++ later ∧
    ∀ (i k : Nat) q, ⟨i, .issued k q⟩ ∈ later → makes q → ∃ c, m₀.calls[i]? = some c ∧ is c = true

theorem Heirs.call (h : Heirs m₀ state is makes m) (inherited : Inherited state is makes)
    (used : Used settings dispatch m) (entry : p.IsEntry) : Heirs m₀ state is makes (m.call p) where
  late := h.late
  stands i x stood here := by
    rw [used.threads_call, List.getElem?_append] at stood
    split at stood
    · exact h.stands i x stood here
    · rw [List.mem_singleton.mp (List.mem_of_getElem? stood)] at here
      cases (inherited.entry p entry).symm.trans here
  made := by
    obtain ⟨later, same, made⟩ := h.made
    refine ⟨later ++ [⟨m.calls.length, .called p⟩], by simp [Machine.call, same], ?_⟩
    intro i k q member makes
    refine made i k q ((List.mem_append.mp member).resolve_right fun new => ?_) makes
    cases List.mem_singleton.mp new

theorem Heirs.moved (h : Heirs m₀ state is makes m) (inherited : Inherited state is makes)
    (moved : Moved m i x effects y m') : Heirs m₀ state is makes m' where
  late := Nat.le_trans h.late moved.turn.code_le
  stands j z stood here := by
    rcases moved.cases stood with ⟨rfl, rfl⟩ | ⟨-, stood⟩
    · exact h.stands j x moved.stood (inherited.before moved.turn h.late here)
    · exact h.stands j z stood here
  made := by
    obtain ⟨later, same, made⟩ := h.made
    refine ⟨later ++ (effects ++ returns y.call).map (Entry.mk i), by
      rw [moved.record, same, List.append_assoc], ?_⟩
    intro j k q member makes
    rcases List.mem_append.mp member with old | new
    · exact made j k q old makes
    · obtain ⟨effect, new, same⟩ := List.mem_map.mp new
      cases same
      obtain ⟨p, stands, asks⟩ := moved.turn.asked new
      exact h.stands i x moved.stood (stands ▸ inherited.asks asks makes)

/-- Once the session has come to `state`, such requests are made only by calls that were so. -/
theorem Used.heirs (h : Used settings dispatch m₀) (inherited : Inherited state is makes)
    (late : state.code ≤ m₀.session.state.code) (proper : ∀ move ∈ moves, move.IsProper)
    (run : m₀.run? moves = some m)
    (issued : ⟨i, .issued k q⟩ ∈ m.record.drop m₀.record.length) (made : makes q) :
    ∃ c, m₀.calls[i]? = some c ∧ is c = true := by
  have here : Heirs m₀ state is makes m₀ :=
    ⟨late, fun i x stood here => ⟨x.call, call_of_getElem? stood, here⟩, [], by simp, by simp⟩
  have heirs := h.keep_run (P := Heirs m₀ state is makes) proper run here
    (fun m p used entry ih => ih.call inherited used entry)
    (fun m i x effects y m' _ _ moved ih => ih.moved inherited moved)
  obtain ⟨later, same, all⟩ := heirs.made
  rw [same, List.drop_left] at issued
  exact all i k q issued made

/-! ### Whose transaction is closed -/

theorem Used.pends (h : Used settings dispatch m)
    (waits : m.calls[i]? = some (.waiting p ticket))
    (asks : p.request? (.make settings dispatch) = some q) : ⟨i, .issued ticket q⟩ ∈ m.record := by
  have stood : m.threads[i]? = some ⟨.waiting p ticket, m.past i⟩ := by
    simp [getElem?_threads, waits]
  have pending : pendingIn (m.past i) = some (ticket, q) := by
    rw [(h.paired _ (List.mem_of_getElem? stood)).known nofun]
    simp [Call.pending?, asks]
  exact mem_past.mp (issued_of_pendingIn pending)

/-- Nobody closes a transaction that was not asked for. -/
theorem Used.asked_of_released (h : Used settings dispatch m)
    (released : .issued k (.closeTransaction transaction) ∈ m.effects) :
    ∃ o, .issued transaction.ticket (.createTransaction o) ∈ m.effects := by
  have once : 0 < m.effects.countP (Effect.closes transaction) :=
    List.countP_pos_iff.mpr ⟨_, released, beq_self_eq_true _⟩
  obtain ⟨n, summand, positive⟩ := List.sum_pos_iff_exists_pos_nat.mp
    (Nat.lt_of_lt_of_le once (h.closes_le_created transaction))
  obtain ⟨x, member, rfl⟩ := List.mem_map.mp summand
  obtain ⟨i, stood⟩ := List.getElem?_of_mem member
  have created : Created transaction x.past = true := by
    cases here : Created transaction x.past with
    | false => simp [here] at positive
    | true => rfl
  obtain ⟨o, asked⟩ := issued_of_created created
  exact ⟨o, mem_effects_of_thread stood asked⟩

/-- Whoever closes the client has done with the transaction, and nobody else closes the session. -/
theorem Used.not_releasing (h : Used settings dispatch m)
    (closes : .issued k .closeClient ∈ m.effects) :
    m.calls[i]? ≠ some (.waiting (.close (.closeTransaction transaction)) ticket) := by
  intro waits
  obtain ⟨j, closes⟩ := mem_effects_iff.mp closes
  obtain ⟨x, stood, closes⟩ := h.exists_thread closes
  have entered : 0 < x.past.countP (Effect.enters .closed) :=
    Nat.lt_of_lt_of_le (List.countP_pos_iff.mpr ⟨_, closes, rfl⟩)
      (h.trail x (List.mem_of_getElem? stood)).client_le
  obtain ⟨e, member, enters⟩ := List.countP_pos_iff.mp entered
  have stood' : m.threads[i]? =
      some ⟨.waiting (.close (.closeTransaction transaction)) ticket, m.past i⟩ := by
    simp [getElem?_threads, waits]
  have trail := h.trail _ (List.mem_of_getElem? stood')
  obtain ⟨source, changed⟩ := trail.owned (p := .close (.closeTransaction transaction)) rfl rfl
  obtain rfl := thread_unique (h.enters_once .closed) stood stood' member changed enters
    (beq_self_eq_true _)
  obtain rfl := Option.some.inj (stood.symm.trans stood')
  -- Both have closed the session, so they are one call; but that has not come to the client yet.
  have trail := trail.close_of_mem closes rfl
  generalize m.past j = past at trail closes
  cases trail
  simp at closes

/-- What is still asked for after `m₀`, where nobody was between two awaits. -/
structure Retired (m₀ m : Machine) : Prop where
  /-- After a commit of a transaction, or the attempt to close it, it is used for no dump but those
  that were on their way then. -/
  dumps : ∀ (i k : Nat) transaction q, ⟨i, .issued k q⟩ ∈ m₀.record →
    ((∃ status, q = .commit transaction status) ∨ q = .closeTransaction transaction) →
    ∀ (j k' : Nat) statement destination profile,
      ⟨j, .issued k' (.dump transaction statement destination profile)⟩ ∈
        m.record.drop m₀.record.length → Dumps m₀ j transaction
  /-- After the client was closed, what is asked of it or of its transaction is such a dump, or a
  begin that waited for the transaction then closes it. -/
  uses : ∀ (i k : Nat), ⟨i, .issued k .closeClient⟩ ∈ m₀.record →
    ∀ (j k' : Nat) q, ⟨j, .issued k' q⟩ ∈ m.record.drop m₀.record.length → q.isUse = true →
      (∃ transaction statement destination profile,
        q = .dump transaction statement destination profile ∧ Dumps m₀ j transaction) ∨
      ∃ o ticket, q = .closeTransaction ⟨ticket⟩ ∧
        m₀.calls[j]? = some (.waiting (.begin (.create o)) ticket)

theorem dumps_of_mayDump (paused : m.Paused)
    (may : ∃ c, m.calls[i]? = some c ∧ c.mayDump transaction = true) : m.Dumps i transaction := by
  obtain ⟨c, stood, may⟩ := may
  obtain ⟨t, p, ticket, rfl, waits⟩ :=
    Call.mayDump_paused may (paused c (List.mem_of_getElem? stood))
  exact ⟨t, p, ticket, stood, waits⟩

/-- A begin closes no transaction but the one that it has waited for. -/
theorem Used.released_own (h : Used settings dispatch m₀)
    (waits : m₀.calls[i]? = some (.waiting (.begin (.create o)) ticket))
    (used : Used settings dispatch m) (grown : m₀.record <+: m.record)
    (released : .issued k (.closeTransaction transaction) ∈ m.effects) :
    transaction = ⟨ticket⟩ := by
  obtain ⟨o', asked'⟩ := used.asked_of_released released
  have asked : .issued ticket (.createTransaction o) ∈ m.effects :=
    List.mem_map.mpr ⟨_, grown.subset (h.pends waits rfl), rfl⟩
  cases eq_of_countP_le_one used.create_once asked asked' rfl rfl
  rfl

/-- Once a transaction was committed or closed, or the client was closed, only calls that were
waiting then ask anything more of them, and each only for what it was about to ask. -/
theorem Used.retired (h : Used settings dispatch m₀) (paused : m₀.Paused)
    (proper : ∀ move ∈ moves, move.IsProper) (run : m₀.run? moves = some m) : Retired m₀ m where
  dumps i k transaction q issued ends j k' statement destination profile later := by
    have since := h.since k q (List.mem_map.mpr ⟨_, issued, rfl⟩)
    have late : Lifecycle.committing.code ≤ m₀.session.state.code := by
      rcases ends with ⟨status, rfl⟩ | rfl
      · exact since
      · exact Nat.le_trans (Lifecycle.code_le_closed _) since
    exact dumps_of_mayDump paused (h.heirs (mayDump_inherited transaction) late proper run later
      ⟨statement, destination, profile, rfl⟩)
  uses i k issued j k' q later use := by
    have closes : .issued k .closeClient ∈ m₀.effects := List.mem_map.mpr ⟨_, issued, rfl⟩
    have closed : Lifecycle.closed.code ≤ m₀.session.state.code := h.since k _ closes
    -- Each kind of request has calls of its own that may still come to it.
    by_cases dumps : ∃ transaction statement destination profile,
        q = .dump transaction statement destination profile
    · obtain ⟨transaction, statement, destination, profile, rfl⟩ := dumps
      refine .inl ⟨transaction, statement, destination, profile, rfl, dumps_of_mayDump paused ?_⟩
      exact h.heirs (mayDump_inherited transaction)
        (Nat.le_trans (Lifecycle.code_le_closed _) closed) proper run later
        ⟨statement, destination, profile, rfl⟩
    by_cases releases : ∃ transaction, q = .closeTransaction transaction
    · obtain ⟨transaction, rfl⟩ := releases
      obtain ⟨c, stood, may⟩ := h.heirs mayRelease_inherited closed proper run later ⟨_, rfl⟩
      obtain ⟨o, ticket, rfl⟩ := c.mayRelease_paused may (paused c (List.mem_of_getElem? stood))
      refine .inr ⟨o, ticket, congrArg _ ?_, stood⟩
      exact h.released_own stood (h.run proper run) (run?_record run)
        (List.mem_map.mpr ⟨_, List.mem_of_mem_drop later, rfl⟩)
    · have other := h.heirs mayUse_inherited closed proper run later
        ⟨use, fun _ _ _ _ same => dumps ⟨_, _, _, _, same⟩, fun _ same => releases ⟨_, same⟩⟩
      obtain ⟨c, stood, may⟩ := other
      obtain ⟨transaction, ticket, rfl⟩ :=
        c.mayUse_paused may (paused c (List.mem_of_getElem? stood))
      exact absurd stood (h.not_releasing closes)

/-- A session over one table; its dump waits for its statement when a commit and then a close are
made, which have asked for all that they ask for. -/
def closedOverDump : Machine :=
  ((make (.make .standard (.standard ⟨.standard, false⟩))).run?
    [.call (registering (.table "a" ⟨"p/a"⟩)), .act 0, .act 0, .act 0,
      .answer 0 (.metadata (.named "a")), .act 0, .act 0, .call beginning, .act 1, .act 1, .act 1,
      .act 1, .act 1, .answer 1 .done, .act 1, .act 1, .call (executing (.table "a" ⟨"p/a"⟩)),
      .act 2, .act 2, .act 2, .act 2, .call committing, .act 3, .act 3, .act 3, .act 3,
      .call closing, .act 4, .act 4, .act 4, .answer 4 .done, .act 4]).get (by decide +kernel)

theorem used_closedOverDump :
    Used .standard (.standard ⟨.standard, false⟩) closedOverDump :=
  Used.start.run (by simp) (Option.some_get _).symm

theorem paused_closedOverDump : closedOverDump.Paused := by
  have calls : closedOverDump.calls = [.done, .done,
      .waiting (.execute (.table "a" ⟨"p/a"⟩) (.prepare ⟨1⟩)) 2,
      .waiting (.commit (.commit ⟨1⟩)) 3, .waiting (.close (.closeClient none)) 5] := rfl
  simp [Paused, calls, Call.done]

/-- The statement comes, and the dump goes on. -/
def overtakenDump : List Move :=
  [.answer 2 .done, .act 2, .act 2]

theorem retired_overtaken :
    ∃ m, ⟨3, .issued 3 (.commit ⟨1⟩ .stored)⟩ ∈ closedOverDump.record ∧
      ⟨2, .issued 6 (.dump ⟨1⟩ ⟨2, Identifier.selectAll "a"⟩ ⟨"p/a"⟩ .standard)⟩ ∈
        m.record.drop closedOverDump.record.length ∧ Retired closedOverDump m := by
  have run : (closedOverDump.run? overtakenDump).isSome = true := by decide +kernel
  have committed : closedOverDump.record[17]? = some ⟨3, .issued 3 (.commit ⟨1⟩ .stored)⟩ := rfl
  have dumped : (((closedOverDump.run? overtakenDump).get run).record.drop
      closedOverDump.record.length)[2]? = some ⟨2, .issued 6
        (.dump ⟨1⟩ ⟨2, Identifier.selectAll "a"⟩ ⟨"p/a"⟩ .standard)⟩ := rfl
  exact ⟨_, List.mem_of_getElem? committed, List.mem_of_getElem? dumped,
    used_closedOverDump.retired paused_closedOverDump (by simp [overtakenDump])
      (Option.some_get run).symm⟩

/-- A session that is closed while its begin waits for the transaction. -/
def closedOverBegin : Machine :=
  ((make (.make .standard (.standard ⟨.standard, false⟩))).run?
    [.call (registering (.table "a" ⟨"p/a"⟩)), .act 0, .act 0, .act 0,
      .answer 0 (.metadata (.named "a")), .act 0, .act 0, .call beginning, .act 1, .act 1, .act 1,
      .act 1, .act 1, .call closing, .act 2, .act 2, .act 2]).get (by decide +kernel)

/-- The transaction comes, and the begin closes it. -/
def overtakenOpening : List Move :=
  [.answer 1 .done, .act 1, .act 1, .act 1, .act 1]

theorem paused_closedOverBegin : closedOverBegin.Paused := by
  have calls : closedOverBegin.calls = [.done,
      .waiting (.begin (.create (TransactionSettings.standard.toOption ["a"]))) 1,
      .waiting (.close (.closeClient none)) 2] := rfl
  simp [Paused, calls, Call.done]

/-- A dump is made in a transaction that was committed and closed, of a client that was closed; and
a transaction is closed of a client that was closed. -/
theorem used_afterwards :
    (∃ m₀ m moves, Used .standard (.standard ⟨.standard, false⟩) m₀ ∧ m₀.Paused ∧
      (∀ move ∈ moves, move.IsProper) ∧ m₀.run? moves = some m ∧
      ⟨3, .issued 3 (.commit ⟨1⟩ .stored)⟩ ∈ m₀.record ∧
      ⟨4, .issued 4 (.closeTransaction ⟨1⟩)⟩ ∈ m₀.record ∧
      ⟨4, .issued 5 .closeClient⟩ ∈ m₀.record ∧
      ⟨2, .issued 6 (.dump ⟨1⟩ ⟨2, Identifier.selectAll "a"⟩ ⟨"p/a"⟩ .standard)⟩ ∈
        m.record.drop m₀.record.length) ∧
    ∃ m₀ m moves, Used .standard (.standard ⟨.standard, false⟩) m₀ ∧ m₀.Paused ∧
      (∀ move ∈ moves, move.IsProper) ∧ m₀.run? moves = some m ∧
      ⟨2, .issued 2 .closeClient⟩ ∈ m₀.record ∧
      ⟨1, .issued 3 (.closeTransaction ⟨1⟩)⟩ ∈ m.record.drop m₀.record.length := by
  constructor
  · have run : (closedOverDump.run? overtakenDump).isSome = true := by decide +kernel
    have committed : closedOverDump.record[17]? = some ⟨3, .issued 3 (.commit ⟨1⟩ .stored)⟩ := rfl
    have released : closedOverDump.record[20]? =
      some ⟨4, .issued 4 (.closeTransaction ⟨1⟩)⟩ := rfl
    have closed : closedOverDump.record[22]? = some ⟨4, .issued 5 .closeClient⟩ := rfl
    have dumped : (((closedOverDump.run? overtakenDump).get run).record.drop
      closedOverDump.record.length)[2]? = some ⟨2, .issued 6
        (.dump ⟨1⟩ ⟨2, Identifier.selectAll "a"⟩ ⟨"p/a"⟩ .standard)⟩ := rfl
    exact ⟨closedOverDump, _, overtakenDump, used_closedOverDump, paused_closedOverDump,
      by simp [overtakenDump], (Option.some_get run).symm, List.mem_of_getElem? committed,
      List.mem_of_getElem? released, List.mem_of_getElem? closed, List.mem_of_getElem? dumped⟩
  · have run : (closedOverBegin.run? overtakenOpening).isSome = true := by decide +kernel
    have closed : closedOverBegin.record[11]? = some ⟨2, .issued 2 .closeClient⟩ := rfl
    have released : (((closedOverBegin.run? overtakenOpening).get run).record.drop
      closedOverBegin.record.length)[1]? = some ⟨1, .issued 3 (.closeTransaction ⟨1⟩)⟩ := rfl
    exact ⟨closedOverBegin, _, overtakenOpening, Used.start.run (by simp) (Option.some_get _).symm,
      paused_closedOverBegin, by simp [overtakenOpening], (Option.some_get run).symm,
      List.mem_of_getElem? closed, List.mem_of_getElem? released⟩

end Machine

end Session

end DumpFlow
