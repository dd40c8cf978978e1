import DumpFlow.Proofs.Session.Exchanges
import DumpFlow.Proofs.Session.Slot

/-!
The life of a session under any number of calls, in any order: its states, the one transaction that
it asks for, and the one commit.
-/

namespace DumpFlow

theorem Dictionary.isEmpty_of_insertNew? {α : Type} {d d' : Dictionary α} {key : String} {value : α}
    (h : d.insertNew? key value = some d') : d'.isEmpty = false := by
  simp only [insertNew?] at h
  split at h
  · cases h
  · cases h
    cases entries : d.entries with
    | nil => simp [insert, isEmpty, entries, put]
    | cons first rest =>
        simp only [insert, isEmpty, entries, put]
        split
        · rfl
        · split <;> rfl

theorem Dispatch.isEmpty_of_enroll? {d d' : Dispatch} {t : Target} {info : DumpInfo}
    (h : d.enroll? t info = some d') : d'.isEmpty = false := by
  cases info with
  | table metadata =>
      obtain ⟨tables, new, rfl⟩ := Option.map_eq_some_iff.mp h
      simp [isEmpty, Dictionary.isEmpty_of_insertNew? new]
  | query statement =>
      obtain ⟨queries, new, rfl⟩ := Option.map_eq_some_iff.mp h
      simp [isEmpty, Dictionary.isEmpty_of_insertNew? new]

namespace Session

open scoped List

variable {settings : TransactionSettings} {dispatch : Dispatch} {m m' : Machine}
  {s s' : Session} {k i j ticket : Nat} {c next : Call} {past effects es : List Effect}
  {status : CommitStatus} {transaction : Transaction} {x y : Thread}

def Effect.isCreate : Effect → Bool
  | .issued _ (.createTransaction _) => true
  | _ => false

def Effect.isCommit : Effect → Bool
  | .issued _ (.commit _ _) => true
  | _ => false

theorem BeginTrail.creates_le (h : BeginTrail c past) :
    past.countP Effect.isCreate ≤ past.countP (Effect.enters .starting) := by
  induction h with
  | dropped _ ih => simpa [Effect.isCreate, Effect.enters] using ih
  | _ => simp [openingPast, List.countP_cons, Effect.isCreate, Effect.enters]

theorem CommitTrail.commits_le (h : CommitTrail status c past) :
    past.countP Effect.isCommit ≤ past.countP (Effect.enters .committing) := by
  induction h with
  | failed _ _ ih | left _ _ ih | dropped _ ih =>
      simpa [Effect.isCommit, Effect.enters] using ih
  | _ => simp [grantingPast, committingPast, List.countP_cons, Effect.isCommit, Effect.enters]

theorem countP_le_of_mem {q r : Effect → Bool}
    (bound : ∀ e ∈ past, q e = true → past.countP q ≤ past.countP r) :
    past.countP q ≤ past.countP r := by
  by_cases some_ : ∃ e ∈ past, q e = true
  · obtain ⟨e, member, holds⟩ := some_
    exact bound e member holds
  · rw [List.countP_eq_zero.mpr fun e member holds => some_ ⟨e, member, holds⟩]
    exact Nat.zero_le _

/-- A call asks for a transaction only after it has brought the session to start. -/
theorem Trail.creates_le (h : Trail status c past) :
    past.countP Effect.isCreate ≤ past.countP (Effect.enters .starting) := by
  refine countP_le_of_mem fun e member create => ?_
  simp only [Effect.isCreate] at create
  split at create
  · exact (h.begin_of_mem member rfl).creates_le
  · cases create

theorem Trail.commits_le (h : Trail status c past) :
    past.countP Effect.isCommit ≤ past.countP (Effect.enters .committing) := by
  refine countP_le_of_mem fun e member commit => ?_
  simp only [Effect.isCommit] at commit
  split at commit
  · exact (h.commit_of_mem member rfl).commits_le
  · cases commit

theorem Turn.creates {o : TransactionOption} (h : Turn s k c s' next effects)
    (member : .issued ticket (.createTransaction o) ∈ effects ++ Machine.returns next) :
    c = .ready (.begin (.create o)) := by
  obtain ⟨p, rfl, asks⟩ := h.asked member
  cases p with
  | register t r => cases r <;> cases asks
  | begin b =>
      cases b <;> cases asks
      rfl
  | execute t e => cases e <;> cases asks
  | commit o => cases o <;> cases asks
  | close o => cases o <;> cases asks

theorem Turn.commits (h : Turn s k c s' next effects)
    (member : .issued ticket (.commit transaction status) ∈ effects ++ Machine.returns next) :
    c = .ready (.commit (.commit transaction)) := by
  obtain ⟨p, rfl, asks⟩ := h.asked member
  cases p with
  | register t r => cases r <;> cases asks
  | begin b => cases b <;> cases asks
  | execute t e => cases e <;> cases asks
  | commit o =>
      cases o <;> cases asks
      rfl
  | close o => cases o <;> cases asks

/-- A commit has a transaction when it has found one in the slot. -/
theorem Turn.to_commit {p : CommitPoint} (h : Turn s k c s' next effects)
    (goes : next.point? = some (.commit p))
    (has : p = .announce transaction ∨ p = .commit transaction) :
    (∃ p', c.point? = some (.commit p') ∧ (p' = .announce transaction ∨ p' = .commit transaction)) ∨
      c = .ready (.commit .borrow) ∧ s.slot = some transaction := by
  cases h with
  | register t turn => exact absurd (turn.aside.1 _ goes) nofun
  | execute t turn => exact absurd (turn.aside.1 _ goes) nofun
  | begin turn => cases turn <;> cases goes
  | commit turn =>
      cases turn with
      | borrowed other held =>
          cases goes
          rcases has with has | has <;> cases has
          exact .inr ⟨rfl, held⟩
      | announce other | ask other =>
          cases goes
          rcases has with has | has <;> cases has
          exact .inl ⟨_, rfl, by simp⟩
      | _ => cases goes <;> rcases has with has | has <;> cases has
  | close turn => cases turn <;> cases goes
  | drop => cases goes

/-- Nothing is taken from the registered targets. -/
theorem Turn.registered (h : Turn s k c s' next effects) (some_ : s.dispatch.isEmpty = false) :
    s'.dispatch.isEmpty = false := by
  cases h with
  | register t turn =>
      cases turn with
      | enrolled info dispatch new => exact Dispatch.isEmpty_of_enroll? new
      | _ => exact some_
  | begin turn => cases turn <;> exact some_
  | execute t turn => cases turn <;> exact some_
  | commit turn => cases turn <;> exact some_
  | close turn => cases turn <;> exact some_
  | drop => exact some_

/-- A begin stands there only when it has found a registered target. -/
def BeginPoint.isBound : BeginPoint → Bool
  | .start | .announce | .create _ => true
  | _ => false

theorem Turn.bound {b : BeginPoint} (h : Turn s k c s' next effects)
    (goes : next.point? = some (.begin b)) (bound : b.isBound = true) :
    (∃ b', c.point? = some (.begin b') ∧ b'.isBound = true) ∨ s.dispatch.isEmpty = false := by
  cases h with
  | register t turn => exact absurd (turn.aside.1 _ goes) nofun
  | execute t turn => exact absurd (turn.aside.1 _ goes) nofun
  | begin turn =>
      cases turn with
      | someTargets free => exact .inr free
      | started | announce | ask => exact .inl ⟨_, rfl, rfl⟩
      | _ => cases goes <;> cases bound
  | commit turn => cases turn <;> cases goes
  | close turn => cases turn <;> cases goes
  | drop => cases goes

namespace Machine

theorem Used.registered (h : Used settings dispatch m) :
    ∀ x ∈ m.threads, ∀ b, x.call.point? = some (.begin b) → b.isBound = true →
      m.session.dispatch.isEmpty = false := by
  refine h.keep (P := fun m => ∀ x ∈ m.threads, ∀ b, x.call.point? = some (.begin b) →
    b.isBound = true → m.session.dispatch.isEmpty = false) (by simp [threads, make]) ?_ ?_
  · intro m p used entry ih x member b stands bound
    rw [used.threads_call] at member
    rcases List.mem_append.mp member with old | new
    · exact ih x old b stands bound
    · rw [List.mem_singleton.mp new] at stands
      cases stands
      cases entry
      cases bound
  · intro m i x effects y m' _ _ moved ih z member b stands bound
    obtain ⟨j, stood⟩ := List.getElem?_of_mem member
    apply moved.turn.registered
    rcases moved.cases stood with ⟨-, rfl⟩ | ⟨-, stood⟩
    · rcases moved.turn.bound stands bound with ⟨b', stands', bound'⟩ | some_
      · exact ih x moved.mem b' stands' bound'
      · exact some_
    · exact ih z (List.mem_of_getElem? stood) b stands bound

theorem Used.active_ran (h : Used settings dispatch m) {goal : Lifecycle}
    (entered : ∃ source, .changed source goal ∈ m.effects) (active : goal.isActive = true) :
    .changed .starting .running ∈ m.effects := by
  obtain ⟨source, member⟩ := entered
  exact mem_changesIn.mp (h.walk.ran ⟨source, mem_changesIn.mpr member⟩ active)

theorem Used.commits_stored (h : Used settings dispatch m) :
    ∀ x ∈ m.threads, ∀ p transaction, x.call.point? = some (.commit p) →
      p = .announce transaction ∨ p = .commit transaction → Stored m.record transaction := by
  refine h.keep (P := fun m => ∀ x ∈ m.threads, ∀ p transaction,
    x.call.point? = some (.commit p) → p = .announce transaction ∨ p = .commit transaction →
      Stored m.record transaction) (by simp [threads, make]) ?_ ?_
  · intro m p used entry ih x member p transaction stands has
    rw [used.threads_call] at member
    rcases List.mem_append.mp member with old | new
    · exact (ih x old p transaction stands has).append _
    · rw [List.mem_singleton.mp new] at stands
      cases stands
      cases entry
      rcases has with has | has <;> cases has
  · intro m i x effects y m' used _ moved ih z member p transaction stands has
    obtain ⟨j, stood⟩ := List.getElem?_of_mem member
    rw [moved.record]
    apply Stored.append
    rcases moved.cases stood with ⟨-, rfl⟩ | ⟨-, stood⟩
    · rcases moved.turn.to_commit stands has with ⟨p', stands', has'⟩ | ⟨stands', held⟩
      · exact ih x moved.mem p' transaction stands' has'
      · have trail := used.trail x moved.mem
        obtain ⟨source, entered⟩ := trail.owned (p := .commit .borrow) (by rw [stands']; rfl) rfl
        exact used.stored_of_slot held
          (used.active_ran ⟨source, mem_effects_of_thread moved.stood entered⟩ rfl)
    · exact ih z (List.mem_of_getElem? stood) p transaction stands has

/-- What stands on record before a commit. -/
def CommitDue (past : List Entry) (e : Entry) : Prop :=
  ∀ k transaction status, e.effect = .issued k (.commit transaction status) →
    Stored past transaction

theorem Used.commits_due (h : Used settings dispatch m) : Preceded CommitDue m.record := by
  refine h.keep (P := fun m => Preceded CommitDue m.record) (preceded_nil _) ?_ ?_
  · intro m p _ _ ih
    exact ih.snoc nofun
  · intro m i x effects y m' used _ moved ih
    rw [moved.record]
    refine ih.append fun past e rest split k transaction status commits => ?_
    have made : e ∈ (effects ++ returns y.call).map (Entry.mk i) := by simp [split]
    obtain ⟨effect, member, rfl⟩ := List.mem_map.mp made
    cases commits
    have stands := moved.turn.commits member
    exact (used.commits_stored x moved.mem (.commit transaction) transaction
      (by rw [stands]; rfl) (.inr rfl)).append past

/-- The life of a session, whatever calls are made on it, in whatever order they act, and whatever
they are answered. -/
structure Lifetime (m : Machine) : Prop where
  walk : Lifecycle.Walk .preparing (changesIn m.effects) m.session.state
  /-- A closed session stays so, and one that has committed or failed can only be closed. -/
  settled : ∀ source goal, (source, goal) ∈ changesIn m.effects →
    source ≠ .closed ∧ (source = .committed ∨ source = .failed → goal = .closed)
  create_once : m.effects.countP Effect.isCreate ≤ 1
  create_registered : ∀ move m' i k o, m.step? move = some m' →
    ⟨i, .issued k (.createTransaction o)⟩ ∈ m'.record.drop m.record.length →
    m.session.dispatch.isEmpty = false
  commit_once : m.effects.countP Effect.isCommit ≤ 1
  commit_stored : ∀ past i k transaction status rest,
    m.record = past ++ ⟨i, .issued k (.commit transaction status)⟩ :: rest →
    Stored past transaction
  slot_holds : m.session.state = .running ∨ m.session.state = .committing ∨
    m.session.state = .committed →
    ∃ transaction, m.session.slot = some transaction ∧ Stored m.record transaction

theorem Used.create_once (h : Used settings dispatch m) : m.effects.countP Effect.isCreate ≤ 1 :=
  (h.countP_le fun x member => (h.trail x member).creates_le).trans (h.enters_once .starting)

theorem Used.create_registered (h : Used settings dispatch m) {move : Move} {o : TransactionOption}
    (step : m.step? move = some m')
    (member : ⟨i, .issued k (.createTransaction o)⟩ ∈ m'.record.drop m.record.length) :
    m.session.dispatch.isEmpty = false := by
  rcases step?_cases step with ⟨p, -, rfl⟩ | ⟨i, x, effects, y, moved⟩
  · simp [call] at member
  · rw [moved.record, List.drop_left] at member
    obtain ⟨effect, member, same⟩ := List.mem_map.mp member
    cases same
    have stands := moved.turn.creates member
    exact h.registered x moved.mem (.create o) (by rw [stands]; rfl) rfl

theorem Used.slot_holds (h : Used settings dispatch m) (active : m.session.state.isActive = true) :
    ∃ transaction, m.session.slot = some transaction ∧ Stored m.record transaction := by
  obtain ⟨transaction, held⟩ := Option.ne_none_iff_exists'.mp (h.filled.active active)
  have entered := h.entered fun still => by simp [still, Lifecycle.isActive] at active
  exact ⟨transaction, held, h.stored_of_slot held (h.active_ran entered active)⟩

theorem Used.lifetime (h : Used settings dispatch m) : Lifetime m where
  walk := h.walk
  settled source goal member := by
    have next := h.walk.next _ member
    refine ⟨next.ne_closed, fun settled => next.eq_closed ?_⟩
    rcases settled with settled | settled <;> rw [settled] <;> rfl
  create_once := h.create_once
  create_registered _ _ _ _ _ step member := h.create_registered step member
  commit_once :=
    (h.countP_le fun x member => (h.trail x member).commits_le).trans (h.enters_once .committing)
  commit_stored _ _ _ _ _ _ split := h.commits_due _ _ _ split _ _ _ rfl
  slot_holds active := h.slot_holds (by rcases active with h | h | h <;> rw [h] <;> rfl)

/-- A session over one table that is closed while its commit is under way. -/
theorem lifetime_raced :
    ∃ m, Used .standard (.standard ⟨.standard, false⟩) m ∧ (changesIn m.effects).length = 4 ∧
      m.effects.countP Effect.isCommit = 1 ∧ m.isQuiet = true ∧ Lifetime m := by
  have run : ((make (.make .standard (.standard ⟨.standard, false⟩))).run?
      [.call (registering (.table "a" ⟨"p/a"⟩)), .act 0, .act 0, .act 0,
        .answer 0 (.metadata (.named "a")), .act 0, .act 0, .call beginning, .act 1, .act 1, .act 1,
        .act 1, .act 1, .answer 1 .done, .act 1, .act 1, .call committing, .act 2, .act 2, .act 2,
        .act 2, .call closing, .act 3, .answer 2 .done, .act 2, .act 3, .act 3, .answer 3 .done,
        .act 3, .answer 3 .done]).isSome = true := by decide
  have used := Used.start.run (by simp) (Option.some_get run).symm
  exact ⟨_, used, rfl, rfl, rfl, used.lifetime⟩

end Machine

end Session

end DumpFlow
