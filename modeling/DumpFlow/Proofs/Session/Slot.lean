import DumpFlow.Proofs.Session.Custody

/-!
What the slot holds. It is filled by the one begin that was given a transaction, before that lets
the session run, and it is emptied only when the session is closed.
-/

namespace DumpFlow

open scoped List

/-- The transaction of a session is in use. -/
def Lifecycle.isActive : Lifecycle → Bool
  | running | committing | committed => true
  | _ => false

theorem Lifecycle.Next.isActive {s goal : Lifecycle} (h : Next s goal)
    (active : goal.isActive = true) : s.isActive = true ∨ goal = .running := by
  cases h <;> simp_all [Lifecycle.isActive]

theorem Lifecycle.Walk.ran {path : List (Lifecycle × Lifecycle)} {s goal : Lifecycle}
    (h : Walk .preparing path s) (entered : ∃ from_, (from_, goal) ∈ path)
    (active : goal.isActive = true) : (.starting, .running) ∈ path := by
  obtain ⟨from_, member⟩ := entered
  have next := h.next _ member
  have earlier := h.entered_of_left _ member
  cases next with
  | run => exact member
  | commit =>
      obtain ⟨before, member'⟩ := earlier.resolve_left nofun
      have next' := h.next _ member'
      cases next'
      exact member'
  | settle =>
      obtain ⟨before, member'⟩ := earlier.resolve_left nofun
      have next' := h.next _ member'
      obtain ⟨before', member''⟩ :=
        (h.entered_of_left _ member').resolve_left (by cases next'; nofun)
      cases next'
      have next'' := h.next _ member''
      cases next''
      exact member''
  | start | failStarting | failCommitting | close => cases active

namespace Session

variable {settings : TransactionSettings} {dispatch : Dispatch} {m m' : Machine}
  {s s' : Session} {k i j : Nat} {c next : Call} {past effects es : List Effect}
  {status : CommitStatus} {transaction transaction' : Transaction} {x y : Thread}

/-- What becomes of the slot in a turn. -/
theorem Turn.slot (h : Turn s k c s' next effects) :
    s'.slot = s.slot ∨
      (∃ transaction, c = .ready (.begin (.store transaction)) ∧ next = .ready (.begin .run) ∧
        s'.slot = some transaction) ∨
      s'.slot = none ∧
        (c = .ready (.close .take) ∨ ∃ fault, c = .ready (.begin (.reclaim fault))) := by
  cases h with
  | register t turn => cases turn <;> exact .inl rfl
  | execute t turn => cases turn <;> exact .inl rfl
  | begin turn =>
      cases turn with
      | store transaction => exact .inr (.inl ⟨transaction, rfl, rfl, rfl⟩)
      | reclaimed fault => exact .inr (.inr ⟨rfl, .inr ⟨fault, rfl⟩⟩)
      | _ => exact .inl rfl
  | commit turn => cases turn <;> exact .inl rfl
  | close turn =>
      cases turn with
      | taken => exact .inr (.inr ⟨rfl, .inl rfl⟩)
      | _ => exact .inl rfl
  | drop => exact .inl rfl

theorem Turn.to_run (h : Turn s k c s' (.ready (.begin .run)) effects) :
    ∃ transaction, s'.slot = some transaction := by
  cases h with
  | register t turn => generalize e : Call.ready (.begin .run) = n at turn; cases turn <;> cases e
  | execute t turn => generalize e : Call.ready (.begin .run) = n at turn; cases turn <;> cases e
  | begin turn => cases turn with | store transaction => exact ⟨transaction, rfl⟩
  | commit turn => cases turn
  | close turn => cases turn

/-- A session runs only when a begin lets it. -/
theorem Turn.runs (h : Turn s k c s' next effects) (runs : s'.state = .running) :
    s.state = .running ∨ c = .ready (.begin .run) ∧ s.state = .starting := by
  cases h with
  | register t turn => cases turn <;> exact .inl runs
  | execute t turn => cases turn <;> exact .inl runs
  | begin turn =>
      cases turn with
      | started | failed => cases runs
      | running right => exact .inr ⟨rfl, right⟩
      | _ => exact .inl runs
  | commit turn =>
      cases turn with
      | started | failed | settled => cases runs
      | _ => exact .inl runs
  | close turn =>
      cases turn with
      | swapped => cases runs
      | _ => exact .inl runs
  | drop => exact .inl runs

private theorem asked_of_created {o : TransactionOption}
    (created : Created transaction (openingPast k o ++ es) = true)
    (silent : es.any (Effect.asks transaction.ticket) = false) : k = transaction.ticket := by
  simpa [Created, openingPast, Effect.asks, silent] using (Bool.and_eq_true_iff.mp created).1

theorem BeginTrail.created (h : BeginTrail c past) (created : Created transaction past = true) :
    ∃ k o tail, transaction = ⟨k⟩ ∧ past = openingPast k o ++ .answered k .done :: tail := by
  induction h with
  | store k o | run k o | reclaim k o | closeAbandoned k o =>
      obtain rfl := asked_of_created created rfl
      exact ⟨_, o, [], rfl, rfl⟩
  | closing k _ o | done k o | taken k o | abandoned k _ o =>
      obtain rfl := asked_of_created created rfl
      exact ⟨_, o, _, rfl, rfl⟩
  | dropped _ ih =>
      obtain ⟨k, o, tail, same, rfl⟩ :=
        ih (by simpa [Created, Effect.asks, Effect.grants] using created)
      exact ⟨k, o, tail ++ [.dropped], same, by simp⟩
  | _ => simp [Created, openingPast, Effect.asks, Effect.grants] at created

theorem created_append (h : Created transaction past = true) (es : List Effect) :
    Created transaction (past ++ es) = true := by
  simp only [Created, List.any_append, Bool.and_eq_true, Bool.or_eq_true] at h ⊢
  exact ⟨.inl h.1, .inl h.2⟩

/-- Only a begin asks for a transaction. -/
theorem Trail.begin_of_created (h : Trail status c past)
    (created : Created transaction past = true) : BeginTrail c past := by
  obtain ⟨o, asked⟩ := issued_of_created created
  exact h.begin_of_mem asked rfl

theorem Trail.opened_of_created (h : Trail status c past)
    (created : Created transaction past = true) : .changed .preparing .starting ∈ past := by
  obtain ⟨k, o, tail, -, rfl⟩ := (h.begin_of_created created).created created
  simp [openingPast]

theorem Trail.created_of_store (h : Trail status (.ready (.begin (.store transaction))) past) :
    Created transaction past = true := by
  cases h with
  | aside apart => cases apart _ rfl
  | begin trail => cases trail; simp [Created, openingPast, Effect.asks, Effect.grants]
  | commit trail => cases trail
  | close trail => cases trail

/-- A begin that let the session run did so after it had been given its transaction. -/
theorem BeginTrail.ran (h : BeginTrail c past) (ran : .changed .starting .running ∈ past)
    (created : Created transaction past = true) :
    ∃ o, [.issued transaction.ticket (.createTransaction o), .answered transaction.ticket .done,
      .changed .starting .running] <+ past := by
  induction h with
  | done k o =>
      obtain rfl := asked_of_created created rfl
      exact ⟨o, .cons _ (.cons _ (.cons _
        (.cons_cons _ (.cons_cons _ (.cons_cons _ (List.nil_sublist _))))))⟩
  | dropped _ ih =>
      obtain ⟨o, sublist⟩ := ih (by simpa using ran)
        (by simpa [Created, Effect.asks, Effect.grants] using created)
      exact ⟨o, sublist.trans (List.sublist_append_left _ _)⟩
  | _ => simp [openingPast] at ran

theorem BeginTrail.opened_of_ran (h : BeginTrail c past)
    (ran : .changed .starting .running ∈ past) : .changed .preparing .starting ∈ past := by
  induction h with
  | done k o => simp [openingPast]
  | dropped _ ih => exact List.mem_append_left _ (ih (by simpa using ran))
  | _ => simp [openingPast] at ran

theorem Turn.to_store (h : Turn s k c s' (.ready (.begin (.store transaction))) effects) :
    ∃ o ticket, c = .waiting (.begin (.create o)) ticket := by
  cases h with
  | register t turn =>
      generalize e : Call.ready (.begin (.store transaction)) = n at turn
      cases turn <;> cases e
  | execute t turn =>
      generalize e : Call.ready (.begin (.store transaction)) = n at turn
      cases turn <;> cases e
  | begin turn => cases turn; exact ⟨_, _, rfl⟩
  | commit turn => cases turn
  | close turn => cases turn

theorem Trail.not_created_of_creating {o : TransactionOption}
    (h : Trail status (.waiting (.begin (.create o)) k) past) :
    Created transaction past = false := by
  cases h with
  | aside apart => cases apart _ rfl
  | begin trail => cases trail; simp [Created, openingPast, Effect.grants]
  | commit trail => cases trail
  | close trail => cases trail

/-- The transaction was handed out by the begin that let the session run. -/
def Stored (record : List Entry) (transaction : Transaction) : Prop :=
  ∃ i o, [⟨i, .issued transaction.ticket (.createTransaction o)⟩,
    ⟨i, .answered transaction.ticket .done⟩, ⟨i, .changed .starting .running⟩] <+ record

theorem Stored.append {record : List Entry} (h : Stored record transaction) (others : List Entry) :
    Stored (record ++ others) transaction := by
  obtain ⟨i, o, sublist⟩ := h
  exact ⟨i, o, sublist.trans (List.sublist_append_left _ _)⟩

namespace Machine

theorem map_past (m : Machine) (i : Nat) :
    (m.past i).map (Entry.mk i) = m.record.filter fun e => e.call = i := by
  rw [past, List.map_filterMap, ← List.filterMap_eq_filter]
  congr 1
  funext e
  by_cases ours : e.call = i
  · simp [← ours, Option.guard]
  · simp [ours, Option.guard]

theorem past_sublist (m : Machine) (i : Nat) : (m.past i).map (Entry.mk i) <+ m.record :=
  m.map_past i ▸ List.filter_sublist

/-- A transaction is created by one call, and that creates no other. -/
theorem Used.creator_unique (h : Used settings dispatch m) (hx : m.threads[i]? = some x)
    (hy : m.threads[j]? = some y) (created : Created transaction x.past = true)
    (created' : Created transaction' y.past = true) : i = j ∧ transaction = transaction' := by
  have trail := h.trail x (List.mem_of_getElem? hx)
  have trail' := h.trail y (List.mem_of_getElem? hy)
  obtain rfl : i = j := thread_unique (h.enters_once .starting) hx hy
    (trail.opened_of_created created) (trail'.opened_of_created created') rfl rfl
  obtain rfl : x = y := Option.some.inj (hx ▸ hy)
  obtain ⟨k, o, tail, rfl, same⟩ := (trail.begin_of_created created).created created
  obtain ⟨k', o', tail', rfl, same'⟩ := (trail.begin_of_created created').created created'
  have asked : some (Effect.issued k (.createTransaction o)) = some (.issued k' _) :=
    congrArg (fun past => past[3]?) (same.symm.trans same')
  cases asked
  exact ⟨rfl, rfl⟩

/-- Where the transaction in the slot comes from. -/
theorem Used.source (h : Used settings dispatch m) {transaction : Transaction}
    (held : m.session.slot = some transaction) :
    ∃ x ∈ m.threads, Created transaction x.past = true ∧
      ∀ other, x.call ≠ .ready (.begin (.store other)) := by
  refine h.keep (P := fun m => ∀ transaction, m.session.slot = some transaction →
    ∃ x ∈ m.threads, Created transaction x.past = true ∧
      ∀ other, x.call ≠ .ready (.begin (.store other))) nofun ?_ ?_ transaction held
  · intro m p used _ ih transaction held
    obtain ⟨x, member, created⟩ := ih transaction held
    rw [used.threads_call]
    exact ⟨x, List.mem_append_left _ member, created⟩
  · intro m i x effects y m' used _ moved ih transaction held
    rcases moved.turn.slot with same | ⟨stored, stands, goes, filled⟩ | ⟨emptied, -⟩
    · obtain ⟨z, member, created, past_store⟩ := ih transaction (same ▸ held)
      rcases moved.eq_or_mem member with rfl | still
      · refine ⟨y, moved.mem', moved.past ▸ created_append created _, fun other stands => ?_⟩
        have trail := used.trail z member
        have turn := moved.turn
        rw [stands] at turn
        obtain ⟨o, ticket, waits⟩ := turn.to_store
        rw [waits] at trail
        exact absurd created (by simp [trail.not_created_of_creating])
      · exact ⟨z, still, created, past_store⟩
    · obtain rfl : stored = transaction := Option.some.inj (filled ▸ held)
      have trail := used.trail x moved.mem
      rw [stands] at trail
      refine ⟨y, moved.mem', moved.past ▸ created_append trail.created_of_store _, ?_⟩
      simp [goes]
    · exact absurd (emptied ▸ held) nofun

theorem Used.slot_of_store (h : Used settings dispatch m) (stood : m.threads[i]? = some x)
    (stands : x.call = .ready (.begin (.store transaction))) : m.session.slot = none := by
  cases held : m.session.slot with
  | none => rfl
  | some other =>
      obtain ⟨y, member, created, past_store⟩ := h.source held
      obtain ⟨j, stood'⟩ := List.getElem?_of_mem member
      have trail := h.trail x (List.mem_of_getElem? stood)
      rw [stands] at trail
      obtain ⟨rfl, -⟩ := h.creator_unique stood stood' trail.created_of_store created
      obtain rfl : x = y := Option.some.inj (stood ▸ stood')
      exact absurd stands (past_store transaction)

theorem mem_effects_of_thread {e : Effect} (stood : m.threads[i]? = some x) (member : e ∈ x.past) :
    e ∈ m.effects :=
  mem_effects_iff.mpr ⟨i, past_of_getElem? stood ▸ member⟩

theorem Used.exists_thread (h : Used settings dispatch m) {e : Effect} (member : e ∈ m.past i) :
    ∃ x, m.threads[i]? = some x ∧ e ∈ x.past :=
  h.numbered.exists_thread member

theorem Used.stored_of_slot (h : Used settings dispatch m)
    (held : m.session.slot = some transaction) (ran : .changed .starting .running ∈ m.effects) :
    Stored m.record transaction := by
  obtain ⟨x, member, created, -⟩ := h.source held
  obtain ⟨i, stood⟩ := List.getElem?_of_mem member
  obtain ⟨j, member'⟩ := mem_effects_iff.mp ran
  obtain ⟨y, stood', ran'⟩ := h.exists_thread member'
  have trail := h.trail x member
  have trail' := h.trail y (List.mem_of_getElem? stood')
  have opened := (trail'.begin_of_mem ran' rfl).opened_of_ran ran'
  obtain rfl : i = j := thread_unique (h.enters_once .starting) stood stood'
    (trail.opened_of_created created) opened rfl rfl
  obtain rfl : x = y := Option.some.inj (stood ▸ stood')
  obtain ⟨o, sublist⟩ := (trail.begin_of_created created).ran ran' created
  rw [past_of_getElem? stood] at sublist
  exact ⟨i, o, (sublist.map (Entry.mk i)).trans (past_sublist m i)⟩

/-- A begin lets the session run only if there is a transaction, unless it is too late. -/
structure Filled (m : Machine) : Prop where
  running : ∀ x ∈ m.threads, x.call = .ready (.begin .run) →
    m.session.slot ≠ none ∨ m.session.state = .closed
  active : m.session.state.isActive = true → m.session.slot ≠ none

theorem Used.filled (h : Used settings dispatch m) : Filled m := by
  refine h.keep ⟨by simp [threads, make], nofun⟩ ?_ ?_
  · intro m p used entry ih
    refine ⟨fun x member stands => ?_, ih.active⟩
    rw [used.threads_call] at member
    rcases List.mem_append.mp member with old | new
    · exact ih.running x old stands
    · rw [List.mem_singleton.mp new] at stands
      cases stands
      cases entry
  · intro m i x effects y m' used _ moved ih
    rcases moved.turn.slot with same | ⟨stored, -, -, filled⟩ | ⟨-, takes⟩
    · constructor
      · intro z member stands
        rcases moved.mem_cases member with rfl | old
        · have turn := moved.turn
          rw [stands] at turn
          obtain ⟨transaction, filled⟩ := turn.to_run
          exact .inl (by simp [filled])
        · rw [same]
          exact (ih.running z old stands).imp_right moved.turn.closed
      · intro active
        rw [same]
        rcases moved.turn.course with ⟨-, still⟩ | ⟨-, next⟩
        · exact ih.active (still ▸ active)
        · rcases next.isActive active with before | runs
          · exact ih.active before
          · rcases moved.turn.runs runs with before | ⟨stands, starting⟩
            · exact ih.active (by simp [before, Lifecycle.isActive])
            · exact (ih.running x moved.mem stands).resolve_right (by simp [starting])
    · exact ⟨fun _ _ _ => .inl (by simp [filled]), fun _ => by simp [filled]⟩
    · have closed : m.session.state = .closed := by
        rcases takes with takes | ⟨fault, takes⟩
        · have allowed := used.allows x moved.mem (.close .take) (by rw [takes]; rfl)
          exact (allowed.owned .closed rfl).elim id id
        · have allowed := used.allows x moved.mem (.begin (.reclaim fault)) (by rw [takes]; rfl)
          exact allowed.late rfl
      have still := moved.turn.closed closed
      exact ⟨fun _ _ _ => .inr still, fun active => by simp [still, Lifecycle.isActive] at active⟩

end Machine

end Session

end DumpFlow
