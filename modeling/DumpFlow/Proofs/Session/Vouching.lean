import DumpFlow.Proofs.Session.Registration
import DumpFlow.Proofs.Session.Sealing

/-!
What stands behind a dump. Registrations and dumps find the key of their target independently of
each other; since a key is registered only by a call that has asked the database about it, no
statement is dumped that was not checked before, and a registered target is never turned away.
-/

namespace DumpFlow.Session

open Dispatch (keyOf queryKey statementOf)

/-- By `past` a registration has found the statement with this text to be sound. -/
inductive Vouches (past : List Entry) : String → Prop where
  | query (j k : Nat) (t : Target) (text : String) : t.kind = .query → queryKey t = text →
      ⟨j, .called (registering t)⟩ ∈ past → ⟨j, .issued k (.prepare text)⟩ ∈ past →
      ⟨j, .answered k .done⟩ ∈ past → Vouches past text
  | table (j k : Nat) (name : String) (metadata : TableMetadata) :
      ⟨j, .issued k (.tableMetadata name)⟩ ∈ past → ⟨j, .answered k (.metadata metadata)⟩ ∈ past →
      Vouches past ("SELECT * FROM " ++ Identifier.quote name)

/-- By `past` a registration has found out about a target with this key. -/
def Checked (past : List Entry) (key : TargetKind × String) : Prop :=
  ∃ j t info learned, keyOf t = key ∧ ⟨j, .called (registering t)⟩ ∈ past ∧
    Learned t info learned ∧ ∀ e ∈ learned, ⟨j, e⟩ ∈ past

/-- The statement that is going to be dumped. -/
def ExecutePoint.statement? : ExecutePoint → Option Statement
  | .announceStart _ statement | .createDirectory _ statement | .dump _ statement =>
    some statement
  | _ => none

/-- What is known of a call that executes, by itself. -/
structure Executes (x : Thread) : Prop where
  live : ∀ t p, .called (executing t) ∈ x.past → x.call.point? = some p → ∃ q, p = .execute t q
  text : ∀ t p statement, x.call.point? = some (.execute t p) → p.statement? = some statement →
    statement.text = statementOf t
  /-- Once the statement is open, what goes wrong is reported as a diagnostic. -/
  outcome : ∀ t statement outcome fault,
    x.call.point? = some (.execute t (.closeStatement statement outcome)) →
    outcome ≠ .error (.misuse fault)

variable {settings : TransactionSettings} {dispatch : Dispatch} {m₀ m m' : Machine}
  {s s' : Session} {k ticket i : Nat} {t : Target} {c next : Call} {past effects : List Effect}
  {x y : Thread} {transaction : Transaction} {statement : Statement} {destination : Path}
  {profile : DumpProfile} {record new : List Entry} {key : TargetKind × String}
  {output : DumpOutput}

theorem Vouches.append {text : String} (h : Vouches record text) :
    Vouches (record ++ new) text := by
  cases h with
  | query j k t text kind key called issued answered =>
      exact .query j k t text kind key (List.mem_append_left _ called)
        (List.mem_append_left _ issued) (List.mem_append_left _ answered)
  | table j k name metadata issued answered =>
      exact .table j k name metadata (List.mem_append_left _ issued)
        (List.mem_append_left _ answered)

theorem Checked.append (h : Checked record key) : Checked (record ++ new) key := by
  obtain ⟨j, t, info, learned, same, called, found, all⟩ := h
  exact ⟨j, t, info, learned, same, List.mem_append_left _ called, found,
    fun e member => List.mem_append_left _ (all e member)⟩

theorem Checked.vouches (h : Checked record (keyOf t)) : Vouches record (statementOf t) := by
  obtain ⟨j, u, info, learned, same, called, found, all⟩ := h
  cases found with
  | table k metadata kind' =>
      have issued := all _ (List.mem_cons_self ..)
      have answered := all _ (List.mem_cons_of_mem _ (List.mem_cons_self ..))
      cases kind : t.kind with
      | table =>
          have name : u.subject = t.subject := by simpa [keyOf, kind, kind'] using same
          rw [name] at issued
          simpa [statementOf, kind, Identifier.selectAll] using
            .table j k _ metadata issued answered
      | query => simp [keyOf, kind, kind'] at same
  | query k k' reply kind' =>
      have issued := all _ (List.mem_cons_self ..)
      have answered := all _ (List.mem_cons_of_mem _ (List.mem_cons_self ..))
      cases kind : t.kind with
      | table => simp [keyOf, kind, kind'] at same
      | query =>
          have text : queryKey u = queryKey t := by simpa [keyOf, kind, kind'] using same
          rw [text] at issued
          simpa [statementOf, kind] using .query j k u _ kind' text called issued answered

theorem Turn.next_dropped (h : Turn s k c s' next [.dropped]) : next = .dropped := by
  cases h with
  | register u turn => cases turn
  | begin turn => cases turn
  | execute u turn => cases turn
  | commit turn => cases turn
  | close turn => cases turn
  | drop => rfl

theorem Turn.stays_execute {q : ExecutePoint} {p : Point} (h : Turn s k c s' next effects)
    (stands : c.point? = some (.execute t q)) (goes : next.point? = some p) :
    ∃ r, p = .execute t r := by
  have kept : effects ≠ [.dropped] := by
    rintro rfl
    rw [h.next_dropped] at goes
    cases goes
  have own : ExecuteTurn s k t c s' next effects := h.own (p := .execute t q) kept stands
  cases own <;> cases goes <;> exact ⟨_, rfl⟩

theorem ExecuteTurn.text {p : ExecutePoint} (h : ExecuteTurn s k t c s' next effects)
    (before : ∀ q statement, c.point? = some (.execute t q) → q.statement? = some statement →
      statement.text = statementOf t)
    (goes : next.point? = some (.execute t p)) (opened : p.statement? = some statement) :
    statement.text = statementOf t := by
  cases h with
  | prepared =>
      cases goes
      cases opened
      rfl
  | announceStart transaction statement' =>
      have same := before _ statement' rfl rfl
      split at goes <;>
        · cases goes
          cases opened
          exact same
  | askDirectory | directoryMade | askDump =>
      cases goes
      cases opened
      exact before _ _ rfl rfl
  | wrongState | noTransaction | refused | unknown | unprepared | closed => cases goes
  | _ =>
      cases goes
      cases opened

theorem ExecuteTurn.outcome {outcome : Outcome} {fault : Misuse}
    (h : ExecuteTurn s k t c s' next effects)
    (before : ∀ statement outcome,
      c.point? = some (.execute t (.closeStatement statement outcome)) →
      outcome ≠ .error (.misuse fault))
    (goes : next.point? = some (.execute t (.closeStatement statement outcome))) :
    outcome ≠ .error (.misuse fault) := by
  cases h with
  | askClose statement outcome =>
      cases goes
      exact before _ _ rfl
  | announceFinish | directoryDenied | undumped | rowsFailed | rowsLeft =>
      cases goes
      nofun
  | announceStart => split at goes <;> cases goes
  | _ => cases goes

theorem Executes.turn (h : Executes ⟨c, past⟩) (turn : Turn s k c s' next effects) :
    Executes ⟨next, past ++ (effects ++ Machine.returns next)⟩ where
  live t p called goes := by
    obtain ⟨q, stands⟩ := turn.live
    obtain ⟨r, rfl⟩ := h.live t q ((List.mem_append.mp called).resolve_right turn.not_called) stands
    exact turn.stays_execute stands goes
  text t p statement goes opened :=
    (turn.of_execute goes).2.text (fun q statement => h.text t q statement) goes opened
  outcome t statement outcome fault goes :=
    (turn.of_execute goes).2.outcome (fun statement outcome => h.outcome t statement outcome fault)
      goes

theorem ExecuteTurn.welcomes {fault : Misuse}
    (h : ExecuteTurn s k t c s' (.fault (.misuse fault)) effects)
    (handled : s.dispatch.refusal? t = none) (there : s.dispatch.Has (keyOf t))
    (opened : ∀ statement outcome,
      c.point? = some (.execute t (.closeStatement statement outcome)) →
      outcome ≠ .error (.misuse fault)) : ∃ f, fault = .state f := by
  generalize ends : Call.fault (.misuse fault) = n at h
  cases h with
  | wrongState | noTransaction =>
      cases ends
      exact ⟨_, rfl⟩
  | refused _ _ _ refused =>
      rw [handled] at refused
      cases refused
  | unknown _ missing =>
      rw [Dispatch.isRegistered_iff.mpr there] at missing
      cases missing
  | closed ticket statement outcome =>
      cases ends
      exact absurd rfl (opened statement _ rfl)
  | _ => cases ends

/-- A dump of a registered target is turned away for the state of the session alone. -/
theorem Turn.welcomes {fault : Misuse} (h : Turn s k c s' (.fault (.misuse fault)) effects)
    (executes : Executes ⟨c, past⟩) (called : .called (executing t) ∈ past)
    (handled : s.dispatch.refusal? t = none) (there : s.dispatch.Has (keyOf t)) :
    ∃ f, fault = .state f := by
  obtain ⟨p, live⟩ := h.live
  obtain ⟨q, rfl⟩ := executes.live t p called live
  have kept : effects ≠ [.dropped] := by
    rintro rfl
    cases h.next_dropped
  have own : ExecuteTurn s k t c s' (.fault (.misuse fault)) effects :=
    h.own (p := .execute t q) kept live
  exact own.welcomes handled there fun statement outcome =>
    executes.outcome t statement outcome fault

namespace Machine

theorem Used.executes (h : Used settings dispatch m) : ∀ x ∈ m.threads, Executes x := by
  refine h.each ?_ fun s k c past s' next effects _ turn ih => ih.turn turn
  intro p entry
  constructor
  · intro t q called stands
    cases List.mem_singleton.mp called
    cases stands
    exact ⟨_, rfl⟩
  · intro t q statement stands opened
    cases entry <;> cases stands
    cases opened
  · intro t statement outcome fault stands
    cases entry <;> cases stands

/-- What is registered has been found out about. -/
theorem Used.checked (h : Used settings (.standard output) m) :
    ∀ key, m.session.dispatch.Has key → Checked m.record key := by
  refine h.keep (P := fun m => ∀ key, m.session.dispatch.Has key → Checked m.record key) ?_ ?_ ?_
  · exact fun key there => absurd there Dispatch.not_has_standard
  · exact fun m p _ _ ih key there => (ih key there).append
  · intro m i x effects y m' used _ moved ih key there
    rw [moved.record]
    rcases moved.turn.enrols with ⟨same, -⟩ | ⟨t, info, stands, new, -, -⟩
    · exact (ih key (same ▸ there)).append
    · have point : x.call.point? = some (.register t (.enroll info)) := by rw [stands]; rfl
      have registers := used.registers x moved.mem
      have fits : Dispatch.Fits t info := registers.fits _ point
      rcases ((Dispatch.enroll?_eq_some fits new).2 key).mp there with rfl | old
      · obtain ⟨called, -⟩ := registers.stands t _ point
        have trail := used.registerTrail x moved.mem t called
        rw [stands] at trail
        obtain ⟨learned, found, past⟩ := trail.of_enroll
        have on_record {e : Effect} (member : e ∈ x.past) : ⟨i, e⟩ ∈ m.record :=
          mem_past.mp (past_of_getElem? moved.stood ▸ member)
        refine Checked.append ⟨i, t, info, learned, rfl, on_record called, found, ?_⟩
        exact fun e member => on_record (past ▸ List.mem_cons_of_mem _ member)
      · exact (ih key old).append

/-- A statement that is dumped has been vouched for before. -/
def Behests (past : List Entry) (e : Entry) : Prop :=
  ∀ k transaction statement destination profile,
    e.effect = .issued k (.dump transaction statement destination profile) →
    Vouches past statement.text

theorem Used.behests (h : Used settings (.standard output) m) : Preceded Behests m.record := by
  refine h.keep (P := fun m => Preceded Behests m.record) (preceded_nil _) ?_ ?_
  · intro m p _ _ ih
    refine ih.snoc fun k transaction statement destination profile same => ?_
    cases same
  · intro m i x effects y m' used _ moved ih
    rw [moved.record]
    refine ih.append fun past e rest split k transaction statement destination profile dumps => ?_
    have member : e ∈ (effects ++ returns y.call).map (Entry.mk i) := by simp [split]
    obtain ⟨effect, here, rfl⟩ := List.mem_map.mp member
    obtain rfl : effect = .issued k (.dump transaction statement destination profile) := dumps
    obtain ⟨t, stands⟩ := moved.turn.of_dumps here
    have point : x.call.point? = some (.execute t (.dump transaction statement)) := by
      rw [stands]; rfl
    have there := (used.founded x moved.mem).known t _ point rfl
    rw [(used.executes x moved.mem).text t _ statement point rfl]
    exact (used.checked _ there).vouches.append

/-- What is registered in `m₀` stays registered, and its dumps that had not ended by then end in no
misuse but of the state. -/
structure Welcoming (m₀ m : Machine) : Prop where
  kept : ∀ key, m₀.session.dispatch.Has key → m.session.dispatch.Has key
  welcomes : ∀ (i : Nat) x t fault, m.threads[i]? = some x → .called (executing t) ∈ x.past →
    m₀.session.dispatch.Has (keyOf t) → m₀.outcome? i = none →
    x.call = .fault (.misuse fault) → ∃ f, fault = .state f

theorem Welcoming.moved (h : Welcoming m₀ m) (used : Used settings (.standard output) m)
    (moved : Moved m i x effects y m') : Welcoming m₀ m' where
  kept key there := moved.keeps used (h.kept key there)
  welcomes j z t fault stood called there open_ ends := by
    rcases moved.cases stood with ⟨rfl, rfl⟩ | ⟨-, stood⟩
    · rw [moved.past] at called
      have called := (List.mem_append.mp called).resolve_right moved.turn.not_called
      have turn := moved.turn
      rw [ends] at turn
      exact turn.welcomes (used.executes x moved.mem) called
        (Dispatch.refusal?_eq_none used.setup.kinds t) (h.kept _ there)
    · exact h.welcomes j z t fault stood called there open_ ends

theorem Used.welcoming {moves : List Move} (h : Used settings (.standard output) m₀)
    (proper : ∀ move ∈ moves, move.IsProper) (run : m₀.run? moves = some m) :
    Welcoming m₀ m := by
  refine h.keep_run (P := Welcoming m₀) proper run ⟨fun _ there => there, ?_⟩ ?_ ?_
  · intro i x t fault stood _ _ open_ ends
    have ended : m₀.outcome? i = some (.error (.misuse fault)) :=
      outcome?_eq_some.mpr ((call_of_getElem? stood).trans (congrArg some ends))
    rw [open_] at ended
    cases ended
  · intro m p used _ ih
    refine ⟨ih.kept, fun i x t fault stood called there open_ ends => ?_⟩
    rw [used.threads_call, List.getElem?_append] at stood
    split at stood
    · exact ih.welcomes i x t fault stood called there open_ ends
    · obtain rfl := List.mem_singleton.mp (List.mem_of_getElem? stood)
      cases ends
  · exact fun m i x effects y m' used _ moved ih => ih.moved used moved

/-- What stands behind the dumps of a session. -/
structure Vouched (m : Machine) : Prop where
  dumped : ∀ past i k transaction statement destination profile rest,
    m.record = past ++
      ⟨i, .issued k (.dump transaction statement destination profile)⟩ :: rest →
    Vouches past statement.text
  /-- A target that has the key of one whose registration returned well is not turned away any more
  for being unregistered. -/
  welcome : ∀ j u, ⟨j, .called (registering u)⟩ ∈ m.record → m.outcome? j = some (.ok ()) →
    ∀ moves m', (∀ move ∈ moves, move.IsProper) → m.run? moves = some m' →
    ∀ i t fault, ⟨i, .called (executing t)⟩ ∈ m'.record → keyOf t = keyOf u →
      m.outcome? i = none → m'.outcome? i = some (.error (.misuse fault)) → ∃ f, fault = .state f

theorem Used.vouched (h : Used settings (.standard output) m) : Vouched m where
  dumped past i k transaction statement destination profile rest split :=
    h.behests past _ rest split k transaction statement destination profile rfl
  welcome j u called returned moves m' proper run i t fault called' same open_ ends := by
    obtain ⟨x, stood, called⟩ := h.exists_thread (mem_past.mpr called)
    have done : x.call = .done :=
      Option.some.inj ((call_of_getElem? stood).symm.trans (outcome?_eq_some.mp returned))
    have there := h.enrolment.kept x (List.mem_of_getElem? stood) u (.inr ⟨done, called⟩)
    obtain ⟨y, stood', called'⟩ := (h.run proper run).exists_thread (mem_past.mpr called')
    have ended : y.call = .fault (.misuse fault) :=
      Option.some.inj ((call_of_getElem? stood').symm.trans (outcome?_eq_some.mp ends))
    exact (h.welcoming proper run).welcomes i y t fault stood' called' (same ▸ there) open_ ended

/-- A query is registered, and dumped under another label and with other blanks around it. -/
theorem vouched_padded :
    ∃ m, Used .standard (.standard ⟨.standard, false⟩) m ∧
      ⟨2, .issued 4 (.dump ⟨2⟩ ⟨3, "SELECT 1"⟩ ⟨"p/r"⟩ .standard)⟩ ∈ m.record ∧ Vouched m := by
  have run : ((make (.make .standard (.standard ⟨.standard, false⟩))).run?
      [.call (registering (.query "q" " SELECT 1 " ⟨"p/q"⟩)), .act 0, .act 0, .act 0,
        .answer 0 .done, .act 0, .answer 0 .done, .act 0, .act 0, .call beginning, .act 1, .act 1,
        .act 1, .act 1, .act 1, .answer 1 .done, .act 1, .act 1,
        .call (executing (.query "r" "SELECT 1\n" ⟨"p/r"⟩)), .act 2, .act 2, .act 2, .act 2,
        .answer 2 .done, .act 2, .act 2]).isSome = true := by decide +kernel
  have used : Used .standard (.standard ⟨.standard, false⟩) _ :=
    Used.start.run (by simp) (Option.some_get run).symm
  have dumped : ((Option.get _ run).record)[18]? = some
      ⟨2, .issued 4 (.dump ⟨2⟩ ⟨3, "SELECT 1"⟩ ⟨"p/r"⟩ .standard)⟩ := rfl
  exact ⟨_, used, List.mem_of_getElem? dumped, used.vouched⟩

end Machine

end DumpFlow.Session
