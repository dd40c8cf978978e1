import DumpFlow.Proofs.Session.Enrolment
import DumpFlow.Proofs.Session.Lifetime
import DumpFlow.Proofs.Session.Rows

/-!
What is registered once a begin has moved the session on. A registration looks at the state when it
starts and not again, so one that has found the session preparing still goes through; no other does.
The read areas of the transaction are those that were registered when it was asked for, so a dump
outside them is one of such a late registration.
-/

namespace DumpFlow.Session

open Dispatch (keyOf)

/-- A registration of `t` that has looked at the state is still under way. -/
def Machine.Late (m : Machine) (i : Nat) (t : Target) : Prop :=
  ∃ c p, m.calls[i]? = some c ∧ c.point? = some (.register t p) ∧ p ≠ .checkState

/-- The tables lie within the read areas, if there are any. -/
def Covers (d : Dispatch) (o : TransactionOption) : Prop :=
  o.inclusiveReadAreas ≠ [] → ∀ name, d.Has (.table, name) → name ∈ o.inclusiveReadAreas

/-- A dump that gets that far has found its target registered. -/
def Point.isKnown : Point → Bool
  | .execute _ .checkState | .execute _ .borrow | .execute _ (.lookUp _) => false
  | .execute _ _ => true
  | _ => false

def Effect.isDump : Effect → Bool
  | .issued _ (.dump _ _ _ _) => true
  | _ => false

/-- Whoever dumps a target has found it registered. -/
structure Founded (d : Dispatch) (x : Thread) : Prop where
  stands : ∀ t p, x.call.point? = some (.execute t p) → .called (executing t) ∈ x.past
  known : ∀ t p, x.call.point? = some (.execute t p) → (Point.execute t p).isKnown = true →
    d.Has (keyOf t)
  dumped : ∀ t, .called (executing t) ∈ x.past → x.past.any Effect.isDump = true → d.Has (keyOf t)

variable {settings : TransactionSettings} {dispatch : Dispatch} {m₀ m m' : Machine}
  {s s' : Session} {k i b : Nat} {t u : Target} {c next : Call} {past effects : List Effect}
  {x y : Thread} {moves : List Move}

/-- What is registered stays registered. -/
theorem Turn.keeps (h : Turn s k c s' next effects)
    (fits : ∀ p, c.point? = some p → p.Fits) {key : TargetKind × String}
    (there : s.dispatch.Has key) : s'.dispatch.Has key := by
  rcases h.enrols with ⟨same, -⟩ | ⟨t, info, rfl, new, -, -⟩
  · rwa [same]
  · exact ((Dispatch.enroll?_eq_some (fits _ rfl) new).2 key).mpr (.inr there)

theorem covers_toOption {d : Dispatch} : Covers d (settings.toOption d.tableNames) := by
  intro some_ name there
  simp only [TransactionSettings.toOption] at some_ ⊢
  split at some_
  · rename_i enabled
    rw [if_pos enabled, mem_ascendingTexts]
    exact there
  · exact absurd rfl some_

theorem Covers.mono {d d' : Dispatch} {o : TransactionOption} (h : Covers d' o)
    (part : ∀ key, d.Has key → d'.Has key) : Covers d o :=
  fun some_ name there => h some_ name (part _ there)

/-! ### Dumps of registered targets -/

/-- Nothing is dumped but the statement that the call holds. -/
theorem Turn.of_dumps {ticket : Nat} {transaction : Transaction} {statement : Statement}
    {destination : Path} {profile : DumpProfile} (h : Turn s k c s' next effects)
    (dumps : .issued ticket (.dump transaction statement destination profile) ∈
      effects ++ Machine.returns next) :
    ∃ t, c = .ready (.execute t (.dump transaction statement)) := by
  obtain ⟨p, rfl, asks⟩ := h.asked dumps
  obtain ⟨t, rfl⟩ := Point.of_dump asks
  exact ⟨t, rfl⟩

theorem Turn.dumps (h : Turn s k c s' next effects) (dumps : effects.any Effect.isDump = true) :
    ∃ t transaction statement, c = .ready (.execute t (.dump transaction statement)) := by
  obtain ⟨e, member, dumps⟩ := List.any_eq_true.mp dumps
  simp only [Effect.isDump] at dumps
  split at dumps
  · obtain ⟨t, stands⟩ := h.of_dumps (List.mem_append_left _ member)
    exact ⟨t, _, _, stands⟩
  · cases dumps

theorem ExecuteTurn.knows {p : ExecutePoint} (h : ExecuteTurn s k t c s' next effects)
    (goes : next.point? = some (.execute t p)) (known : (Point.execute t p).isKnown = true)
    (before : ∀ q, c.point? = some (.execute t q) → (Point.execute t q).isKnown = true →
      s.dispatch.Has (keyOf t)) : s.dispatch.Has (keyOf t) := by
  cases h with
  | known _ there => exact Dispatch.isRegistered_iff.mp there
  | rightState | borrowed =>
      cases goes
      cases known
  | wrongState | noTransaction | refused | unknown | unprepared | closed => cases goes
  | _ => exact before _ rfl rfl

theorem Founded.mono {d d' : Dispatch} (h : Founded d x) (part : ∀ key, d.Has key → d'.Has key) :
    Founded d' x :=
  ⟨h.stands, fun t p stands known => part _ (h.known t p stands known),
    fun t called dumped => part _ (h.dumped t called dumped)⟩

theorem Founded.turn (h : Founded s.dispatch ⟨c, past⟩) (registers : Registers ⟨c, past⟩)
    (turn : Turn s k c s' next effects) :
    Founded s'.dispatch ⟨next, past ++ (effects ++ Machine.returns next)⟩ where
  stands t p goes := by
    obtain ⟨⟨q, stands⟩, -⟩ := turn.of_execute goes
    exact List.mem_append_left _ (h.stands t q stands)
  known t p goes known := by
    have own := (turn.of_execute goes).2
    rw [own.frame]
    exact own.knows goes known (h.known t)
  dumped t called dumped := by
    refine turn.keeps registers.fits ?_
    have called := (List.mem_append.mp called).resolve_right turn.not_called
    rw [List.any_append, List.any_append, any_returns _ (fun _ => rfl), Bool.or_false,
      Bool.or_eq_true] at dumped
    rcases dumped with old | new
    · exact h.dumped t called old
    · obtain ⟨u, transaction, statement, rfl⟩ := turn.dumps new
      have called' := h.stands u _ rfl
      have same := (registers.called _ called).symm.trans (registers.called _ called')
      simp only [executing, Option.some.injEq, Effect.called.injEq, Point.execute.injEq,
        and_true] at same
      rw [same]
      exact h.known u _ rfl rfl

/-! ### Steps of a begin and of registrations -/

theorem Turn.of_start (h : Turn s k (.ready (.begin .start)) s' next effects)
    (right : s.state = .preparing) (kept : effects ≠ [.dropped]) :
    s' = { s with state := .starting } ∧ next = .ready (.begin .announce) ∧
      effects = [.changed .preparing .starting] := by
  have own : BeginTurn s k (.ready (.begin .start)) s' next effects :=
    h.own (p := .begin .start) kept rfl
  cases own with
  | started => exact ⟨rfl, rfl, rfl⟩
  | outrun left => exact absurd right left

/-- Once the session is no longer preparing, no registration gets past its look at the state. -/
theorem Turn.looked {p : RegisterPoint} (h : Turn s k c s' next effects)
    (begun : s.state ≠ .preparing) (goes : next.point? = some (.register t p)) :
    ∃ q, c.point? = some (.register t q) ∧ q ≠ .checkState := by
  obtain ⟨q, stands, own⟩ := h.of_register goes
  refine ⟨q, stands, ?_⟩
  rintro rfl
  cases own with
  | handled right => exact begun right
  | wrongState | refused => cases goes
  | _ => cases stands

/-- A transaction is asked for with what is registered then. -/
theorem Turn.to_create {o : TransactionOption} (h : Turn s k c s' next effects)
    (goes : next.point? = some (.begin (.create o))) :
    c.point? = some (.begin (.create o)) ∨ Covers s.dispatch o := by
  cases h with
  | register t turn => exact absurd (turn.aside.1 _ goes) nofun
  | execute t turn => exact absurd (turn.aside.1 _ goes) nofun
  | begin turn =>
      cases turn with
      | announce =>
          cases goes
          exact .inr covers_toOption
      | ask option => exact .inl goes
      | _ => cases goes
  | commit turn => cases turn <;> cases goes
  | close turn => cases turn <;> cases goes
  | drop => cases goes

namespace Machine

theorem Moved.keeps (moved : Moved m i x effects y m') (used : Used settings dispatch m)
    {key : TargetKind × String} (there : m.session.dispatch.Has key) :
    m'.session.dispatch.Has key :=
  moved.turn.keeps (used.registers x moved.mem).fits there

theorem Used.founded (h : Used settings dispatch m) :
    ∀ x ∈ m.threads, Founded m.session.dispatch x := by
  refine h.keep (P := fun m => ∀ x ∈ m.threads, Founded m.session.dispatch x)
    (by simp [threads, make]) ?_ ?_
  · intro m p used entry ih x member
    rw [used.threads_call] at member
    rcases List.mem_append.mp member with old | new
    · exact ih x old
    · rw [List.mem_singleton.mp new]
      refine ⟨fun t q stands => ?_, fun t q stands known => ?_, fun t called dumped => ?_⟩
      · cases entry <;> cases stands
        exact List.mem_singleton_self _
      · cases entry <;> cases stands
        cases known
      · cases dumped
  · intro m i x effects y m' used _ moved ih z member
    rcases moved.mem_cases member with rfl | old
    · have founded := (ih x moved.mem).turn (used.registers x moved.mem) moved.turn
      rwa [← moved.past] at founded
    · exact (ih z old).mono fun key there => moved.keeps used there

/-- What is known of a machine that has come from `m₀` and gone on: registrations that had looked at
the state by `m₀` may still be under way, and whatever is new is theirs. -/
structure Behind (m₀ m : Machine) : Prop where
  begun : m.session.state ≠ .preparing
  late : ∀ (i : Nat) x t p, m.threads[i]? = some x → x.call.point? = some (.register t p) →
    p ≠ .checkState → Late m₀ i t
  kept : ∀ key, m₀.session.dispatch.Has key → m.session.dispatch.Has key
  added : ∀ key, m.session.dispatch.Has key →
    m₀.session.dispatch.Has key ∨ ∃ i t, Late m₀ i t ∧ keyOf t = key
  told : ∃ later, m.record = m₀.record ++ later ∧
    ∀ e ∈ later, e.effect.isInfo = true → ∃ t, Late m₀ e.call t
  asks : ∀ x ∈ m.threads, ∀ o, x.call.point? = some (.begin (.create o)) →
    Covers m₀.session.dispatch o
  asked : ∀ k o, .issued k (.createTransaction o) ∈ m.effects → Covers m₀.session.dispatch o

theorem act?_start {b : Nat} (stands : m₀.calls[b]? = some (.ready (.begin .start)))
    (right : m₀.session.state = .preparing) (first : m₀.act? b = some m) :
    ∃ x y, x.call = .ready (.begin .start) ∧ y.call = .ready (.begin .announce) ∧
      m.session = { m₀.session with state := .starting } ∧
      Moved m₀ b x [.changed .preparing .starting] y m := by
  obtain ⟨_, x, effects, y, -, kept, moved⟩ := act?_moved first
  have stood : x.call = .ready (.begin .start) :=
    Option.some.inj ((call_of_getElem? moved.stood).symm.trans stands)
  have turn := moved.turn
  rw [stood] at turn
  obtain ⟨same, goes, changed⟩ := turn.of_start right kept
  exact ⟨x, y, stood, goes, same, changed ▸ moved⟩

/-- A session that is still preparing has not been asked for a transaction. -/
theorem Used.not_asked (h : Used settings dispatch m) (right : m.session.state = .preparing)
    {k : Nat} {o : TransactionOption} : .issued k (.createTransaction o) ∉ m.effects := by
  intro asked
  have once : m.effects.countP Effect.isCreate ≤ m.effects.countP (Effect.enters .starting) :=
    h.countP_le fun x member => (h.trail x member).creates_le
  have asks : 0 < m.effects.countP Effect.isCreate := List.countP_pos_iff.mpr ⟨_, asked, rfl⟩
  rw [countP_enters] at once
  obtain ⟨change, member, enters⟩ := List.countP_pos_iff.mp (Nat.lt_of_lt_of_le asks once)
  have low := h.walk.code_le change member
  rw [beq_iff_eq.mp enters, right] at low
  cases low

theorem Used.behind_start (h : Used settings dispatch m₀) {b : Nat}
    (stands : m₀.calls[b]? = some (.ready (.begin .start)))
    (right : m₀.session.state = .preparing) (first : m₀.act? b = some m) : Behind m₀ m := by
  obtain ⟨x, y, stood, goes, same, moved⟩ := act?_start stands right first
  refine ⟨by rw [same]; exact nofun, ?_, fun key there => by rwa [same], fun key there => .inl ?_,
    ⟨_, moved.record, ?_⟩, ?_, ?_⟩
  · intro j z t p here point past
    rcases moved.cases here with ⟨-, rfl⟩ | ⟨-, here⟩
    · rw [goes] at point
      cases point
    · exact ⟨z.call, p, call_of_getElem? here, point, past⟩
  · rwa [same] at there
  · rw [goes]
    intro e member info
    obtain rfl := List.mem_singleton.mp member
    cases info
  · intro z member o point
    obtain ⟨j, here⟩ := List.getElem?_of_mem member
    rcases moved.cases here with ⟨-, rfl⟩ | ⟨-, here⟩
    · rw [goes] at point
      cases point
    · have allowed := h.allows z (List.mem_of_getElem? here) _ point
      rcases allowed.owned _ rfl with here | here <;> cases right.symm.trans here
  · intro k o asked
    rw [moved.effects_eq, goes] at asked
    refine absurd ((List.mem_append.mp asked).resolve_right fun new => ?_) (h.not_asked right)
    cases List.mem_singleton.mp new

theorem Behind.call {p : Point} (h : Behind m₀ m) (used : Used settings dispatch m)
    (entry : p.IsEntry) : Behind m₀ (m.call p) where
  begun := h.begun
  late i x t q stood point past := by
    rw [used.threads_call, List.getElem?_append] at stood
    split at stood
    · exact h.late i x t q stood point past
    · rw [List.mem_singleton.mp (List.mem_of_getElem? stood)] at point
      cases point
      cases entry
      exact absurd rfl past
  kept := h.kept
  added := h.added
  told := by
    obtain ⟨later, same, told⟩ := h.told
    refine ⟨later ++ [⟨m.calls.length, .called p⟩], by simp [Machine.call, same], ?_⟩
    intro e member info
    rcases List.mem_append.mp member with old | new
    · exact told e old info
    · rw [List.mem_singleton.mp new] at info
      cases info
  asks x member o point := by
    rw [used.threads_call] at member
    rcases List.mem_append.mp member with old | new
    · exact h.asks x old o point
    · rw [List.mem_singleton.mp new] at point
      cases point
      cases entry
  asked k o asked := by
    rw [effects_call] at asked
    refine h.asked k o ((List.mem_append.mp asked).resolve_right fun new => ?_)
    cases List.mem_singleton.mp new

/-- What a turn registers is the target of a registration that had looked at the state. -/
theorem Behind.adds (h : Behind m₀ m) (used : Used settings dispatch m)
    (moved : Moved m i x effects y m') {key : TargetKind × String}
    (there : m'.session.dispatch.Has key) :
    m₀.session.dispatch.Has key ∨ ∃ i t, Late m₀ i t ∧ keyOf t = key := by
  rcases moved.turn.enrols with ⟨same, -⟩ | ⟨t, info, stands, new, -, -⟩
  · exact h.added key (same ▸ there)
  · have point : x.call.point? = some (.register t (.enroll info)) := by rw [stands]; rfl
    have fits := (used.registers x moved.mem).fits _ point
    rcases ((Dispatch.enroll?_eq_some fits new).2 key).mp there with rfl | old
    · exact .inr ⟨i, t, h.late i x t _ moved.stood point (by simp), rfl⟩
    · exact h.added key old

/-- What a turn tells of was told by a registration that had looked at the state. -/
theorem Behind.tells (h : Behind m₀ m) (moved : Moved m i x effects y m') {e : Entry}
    (member : e ∈ (effects ++ returns y.call).map (Entry.mk i)) (info : e.effect.isInfo = true) :
    ∃ t, Late m₀ e.call t := by
  obtain ⟨effect, made, rfl⟩ := List.mem_map.mp member
  have tells : effects.any Effect.isInfo = true := by
    rcases List.mem_append.mp made with here | back
    · exact List.any_eq_true.mpr ⟨effect, here, info⟩
    · have silent := isInfo_returns y.call
      rw [List.any_eq_false] at silent
      exact absurd info (silent effect back)
  obtain ⟨t, info', stands, -⟩ := moved.turn.told tells
  exact ⟨t, h.late i x t (.announce info') moved.stood (by rw [stands]; rfl) (by simp)⟩

theorem Behind.moved (h : Behind m₀ m) (used : Used settings dispatch m)
    (moved : Moved m i x effects y m') : Behind m₀ m' where
  begun := by
    rcases moved.turn.course with ⟨-, same⟩ | ⟨-, next⟩
    · exact same ▸ h.begun
    · intro back
      have later := next.code_lt
      rw [back] at later
      cases later
  late j z t p stood point past := by
    rcases moved.cases stood with ⟨rfl, rfl⟩ | ⟨-, stood⟩
    · obtain ⟨q, stands, looked⟩ := moved.turn.looked h.begun point
      exact h.late _ x t q moved.stood stands looked
    · exact h.late j z t p stood point past
  kept key there := moved.keeps used (h.kept key there)
  added key there := h.adds used moved there
  told := by
    obtain ⟨later, same, told⟩ := h.told
    refine ⟨later ++ (effects ++ returns y.call).map (Entry.mk i), by
      rw [moved.record, same, List.append_assoc], ?_⟩
    intro e member info
    rcases List.mem_append.mp member with old | new
    · exact told e old info
    · exact h.tells moved new info
  asks z member o point := by
    rcases moved.mem_cases member with rfl | old
    · rcases moved.turn.to_create point with stands | covers
      · exact h.asks x moved.mem o stands
      · exact covers.mono h.kept
    · exact h.asks z old o point
  asked k o asked := by
    rw [moved.effects_eq] at asked
    rcases List.mem_append.mp asked with old | new
    · exact h.asked k o old
    · exact h.asks x moved.mem o (by rw [moved.turn.creates new]; rfl)

theorem Behind.run (h : Behind m₀ m) (used : Used settings dispatch m)
    (proper : ∀ move ∈ moves, move.IsProper) (run : m.run? moves = some m') : Behind m₀ m' :=
  used.keep_run proper run h (fun _ _ used entry ih => ih.call used entry)
    fun _ _ _ _ _ _ used _ moved ih => ih.moved used moved

/-- What a session that was preparing at `m₀`, when a begin moved it on, has become by `m`. -/
structure Sealed (m₀ m : Machine) : Prop where
  kept : ∀ key, m₀.session.dispatch.Has key → m.session.dispatch.Has key
  /-- With no such registration under way nothing is registered any more. -/
  added : ∀ key, m.session.dispatch.Has key →
    m₀.session.dispatch.Has key ∨ ∃ i t, Late m₀ i t ∧ keyOf t = key
  told : ∀ e ∈ m.record.drop m₀.record.length, e.effect.isInfo = true → ∃ t, Late m₀ e.call t
  covered : ∀ (i j k : Nat) (t : Target) (transaction : Transaction) (statement : Statement)
    (destination : Path) (profile : DumpProfile) (o : TransactionOption), t.kind = .table →
    ⟨i, .called (executing t)⟩ ∈ m.record →
    ⟨i, .issued k (.dump transaction statement destination profile)⟩ ∈ m.record →
    ⟨j, .issued transaction.ticket (.createTransaction o)⟩ ∈ m.record →
    o.inclusiveReadAreas ≠ [] →
    t.subject ∈ o.inclusiveReadAreas ∨ ∃ i' u, Late m₀ i' u ∧ keyOf u = keyOf t

/-- A dumped target is registered. -/
theorem Used.dumped (h : Used settings dispatch m) {k : Nat} {transaction : Transaction}
    {statement : Statement} {destination : Path} {profile : DumpProfile}
    (called : ⟨i, .called (executing t)⟩ ∈ m.record)
    (dumps : ⟨i, .issued k (.dump transaction statement destination profile)⟩ ∈ m.record) :
    m.session.dispatch.Has (keyOf t) := by
  obtain ⟨x, stood, past⟩ := h.exists_thread (mem_past.mpr called)
  have dumped : x.past.any Effect.isDump = true := by
    rw [← mem_past, ← past_of_getElem? stood] at dumps
    exact List.any_eq_true.mpr ⟨_, dumps, rfl⟩
  exact (h.founded x (List.mem_of_getElem? stood)).dumped t past dumped

/-- From the moment a begin has moved the session on, only registrations that had looked at the
state before can add to what is registered, or be told of; only their tables can be dumped outside
the read areas. -/
theorem Used.sealed_from_start (h : Used settings dispatch m₀)
    (right : m₀.session.state = .preparing)
    (stands : m₀.calls[b]? = some (.ready (.begin .start)))
    (proper : ∀ move ∈ moves, move.IsProper) (run : m₀.run? (.act b :: moves) = some m) :
    Sealed m₀ m := by
  obtain ⟨m₁, first, rest⟩ := Option.bind_eq_some_iff.mp run
  have used₁ : Used settings dispatch m₁ := h.step (.act b) trivial first
  have behind := (h.behind_start stands right first).run used₁ proper rest
  have used := used₁.run proper rest
  refine ⟨behind.kept, behind.added, ?_, ?_⟩
  · obtain ⟨later, same, told⟩ := behind.told
    rwa [same, List.drop_left]
  · intro i j k t transaction statement destination profile o table called dumps asked areas
    have key : keyOf t = (.table, t.subject) := by simp [keyOf, table]
    have asked : .issued transaction.ticket (.createTransaction o) ∈ m.effects :=
      List.mem_map.mpr ⟨_, asked, rfl⟩
    rcases behind.added _ (used.dumped called dumps) with there | late
    · exact .inl (behind.asked _ o asked areas _ (key ▸ there))
    · exact .inr late

/-- A session with read areas has registered "a" and waits for what is known of "b" when a begin is
about to move it on. -/
def aboutToBegin : Machine :=
  ((make (.make ⟨.long, none, [], true, default⟩ (.standard ⟨.standard, false⟩))).run?
    [.call (registering (.table "a" ⟨"p/a"⟩)), .act 0, .act 0, .act 0,
      .answer 0 (.metadata (.named "a")), .act 0, .act 0,
      .call (registering (.table "b" ⟨"p/b"⟩)), .act 1, .act 1, .act 1,
      .call beginning, .act 2, .act 2]).get (by decide +kernel)

theorem used_aboutToBegin :
    Used ⟨.long, none, [], true, default⟩ (.standard ⟨.standard, false⟩) aboutToBegin :=
  Used.start.run (by simp) (Option.some_get _).symm

/-- The begin comes through, "b" is registered after it, and then dumped. -/
def overtakenBegin : List Move :=
  [.act 2, .act 2, .act 2, .answer 2 .done, .act 2, .act 2, .answer 1 (.metadata (.named "b")),
    .act 1, .act 1, .call (executing (.table "b" ⟨"p/b"⟩)), .act 3, .act 3, .act 3, .act 3,
    .answer 3 .done, .act 3, .act 3]

theorem sealed_overtaken :
    ∃ m, aboutToBegin.session.dispatch.tableNames = ["a"] ∧
      m.session.dispatch.tableNames = ["a", "b"] ∧ Sealed aboutToBegin m := by
  have run : (aboutToBegin.run? overtakenBegin).isSome = true := by decide +kernel
  have proper : ∀ move ∈ overtakenBegin, move.IsProper := by simp [overtakenBegin]
  exact ⟨_, rfl, rfl, used_aboutToBegin.sealed_from_start rfl rfl
    (fun move member => proper move (List.mem_cons_of_mem _ member)) (Option.some_get run).symm⟩

/-- The table "b" is registered and told of after the begin, and dumped in the transaction without
being in its read areas. -/
theorem registered_behind_begin :
    ∃ m₀ m moves o, Used ⟨.long, none, [], true, default⟩ (.standard ⟨.standard, false⟩) m₀ ∧
      m₀.session.state = .preparing ∧ m₀.calls[2]? = some (.ready (.begin .start)) ∧
      (∀ move ∈ moves, move.IsProper) ∧ m₀.run? (.act 2 :: moves) = some m ∧
      ¬ m₀.session.dispatch.Has (.table, "b") ∧ m.session.dispatch.Has (.table, "b") ∧
      (m.record.drop m₀.record.length).any (fun e => e.effect.isInfo) = true ∧
      ⟨2, .issued 2 (.createTransaction o)⟩ ∈ m.record ∧ o.inclusiveReadAreas = ["a"] ∧
      ⟨3, .called (executing (.table "b" ⟨"p/b"⟩))⟩ ∈ m.record ∧
      ⟨3, .issued 4 (.dump ⟨2⟩ ⟨3, Identifier.selectAll "b"⟩ ⟨"p/b"⟩ .standard)⟩ ∈ m.record := by
  have run : (aboutToBegin.run? overtakenBegin).isSome = true := by decide +kernel
  have proper : ∀ move ∈ overtakenBegin, move.IsProper := by simp [overtakenBegin]
  have asked : (((aboutToBegin.run? overtakenBegin).get run).record)[10]? = some ⟨2, .issued 2
    (.createTransaction ⟨.long, none, [], ["a"]⟩)⟩ := rfl
  have called : (((aboutToBegin.run? overtakenBegin).get run).record)[17]? = some ⟨3, .called
    (executing (.table "b" ⟨"p/b"⟩))⟩ := rfl
  have dumped : (((aboutToBegin.run? overtakenBegin).get run).record)[21]? = some ⟨3, .issued 4
    (.dump ⟨2⟩ ⟨3, Identifier.selectAll "b"⟩ ⟨"p/b"⟩ .standard)⟩ := rfl
  refine ⟨aboutToBegin, _, overtakenBegin.tail, ⟨.long, none, [], ["a"]⟩, used_aboutToBegin, rfl,
    rfl, fun move member => proper move (List.mem_cons_of_mem _ member),
    (Option.some_get run).symm, ?_, ?_, rfl, List.mem_of_getElem? asked, rfl,
    List.mem_of_getElem? called, List.mem_of_getElem? dumped⟩
  · have only : aboutToBegin.session.dispatch.tableNames = ["a"] := rfl
    rw [← Dispatch.mem_tableNames, only]
    simp
  · exact .tail _ (.head _)

end Machine

end DumpFlow.Session
