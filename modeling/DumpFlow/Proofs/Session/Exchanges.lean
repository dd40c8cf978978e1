import DumpFlow.Proofs.Session.Threads

/-!
Requests with their answers. A call asks for one thing at a time and does nothing else until it is
answered, so what it has done tells which of its requests got which answer and which one is still
open.
-/

namespace DumpFlow.Session

/-- A request and the answer to it. -/
structure Exchange where
  ticket : Nat
  request : Request
  reply : Reply

/-- The request that is open after an effect, if `pending` is before it. -/
def Effect.leaves (pending : Option (Nat × Request)) : Effect → Option (Nat × Request)
  | .issued ticket q => some (ticket, q)
  | .answered _ _ => none
  | _ => pending

def pendingFrom (pending : Option (Nat × Request)) (effects : List Effect) :
    Option (Nat × Request) :=
  effects.foldl Effect.leaves pending

/-- The exchange that an effect completes. -/
def Effect.completes (pending : Option (Nat × Request)) : Effect → Option Exchange
  | .answered _ reply => pending.map fun (ticket, q) => ⟨ticket, q, reply⟩
  | _ => none

def exchangesFrom : Option (Nat × Request) → List Effect → List Exchange
  | _, [] => []
  | pending, e :: effects =>
    (e.completes pending).toList ++ exchangesFrom (e.leaves pending) effects

/-- The request that a call with these effects is waiting for. -/
def pendingIn (effects : List Effect) : Option (Nat × Request) :=
  pendingFrom none effects

def exchangesIn (effects : List Effect) : List Exchange :=
  exchangesFrom none effects

/-- What is asked for at a point. It depends on how the session was set up, and on nothing that its
calls change. -/
def Point.request? (s : Session) : Point → Option Request
  | .register t .resolveTable => some (.tableMetadata t.subject)
  | .register t .prepareQuery => some (.prepare (Dispatch.queryKey t))
  | .register _ (.closeStatement statement) => some (.closeStatement statement)
  | .begin (.create option) => some (.createTransaction option)
  | .begin (.closeAbandoned transaction _) => some (.closeTransaction transaction)
  | .execute t (.prepare _) => some (.prepare (Dispatch.statementOf t))
  | .execute t (.createDirectory _ _) => some (.createDirectory t.destination)
  | .execute t (.dump transaction statement) =>
    some (.dump transaction statement t.destination s.dispatch.output.profile)
  | .execute _ (.fetch _ rows) => some (.nextPath rows)
  | .execute _ (.closeRows _ rows _) => some (.closeRows rows)
  | .execute _ (.closeStatement statement _) => some (.closeStatement statement)
  | .commit (.commit transaction) => some (.commit transaction s.settings.commitStatus)
  | .close (.closeTransaction transaction) => some (.closeTransaction transaction)
  | .close (.closeClient _) => some .closeClient
  | _ => none

/-- A dump is asked for only where its statement is dumped. -/
theorem Point.of_dump {s : Session} {p : Point} {transaction : Transaction}
    {statement : Statement} {destination : Path} {profile : DumpProfile}
    (h : p.request? s = some (.dump transaction statement destination profile)) :
    ∃ t, p = .execute t (.dump transaction statement) := by
  cases p with
  | register t r => cases r <;> cases h
  | begin b => cases b <;> cases h
  | execute t e =>
      cases e <;> cases h
      exact ⟨t, rfl⟩
  | commit o => cases o <;> cases h
  | close o => cases o <;> cases h

/-- The request that a call waits for. -/
def Call.pending? (s : Session) : Call → Option (Nat × Request)
  | .waiting p ticket => (p.request? s).map (ticket, ·)
  | _ => none

def Call.isWaiting : Call → Bool
  | .waiting _ _ => true
  | _ => false

/-- Neither a request nor an answer. -/
def Effect.isSilent : Effect → Bool
  | .issued _ _ | .answered _ _ => false
  | _ => true

variable {s s' : Session} {k : Nat} {c next : Call} {past effects : List Effect}
  {opened : Option (Nat × Request)} {t : Target}

@[simp] theorem pendingIn_append (es es' : List Effect) :
    pendingIn (es ++ es') = pendingFrom (pendingIn es) es' :=
  List.foldl_append

theorem exchangesFrom_append (es es' : List Effect) :
    exchangesFrom opened (es ++ es') =
      exchangesFrom opened es ++ exchangesFrom (pendingFrom opened es) es' := by
  induction es generalizing opened with
  | nil => rfl
  | cons e es ih => simp [exchangesFrom, ih, pendingFrom]

@[simp] theorem exchangesIn_append (es es' : List Effect) :
    exchangesIn (es ++ es') = exchangesIn es ++ exchangesFrom (pendingIn es) es' :=
  exchangesFrom_append es es'

theorem pendingFrom_silent (silent : ∀ e ∈ effects, e.isSilent = true) :
    pendingFrom opened effects = opened := by
  induction effects with
  | nil => rfl
  | cons e es ih =>
      obtain ⟨first, rest⟩ := List.forall_mem_cons.mp silent
      have kept : e.leaves opened = opened := by
        cases e with
        | issued | answered => cases first
        | _ => rfl
      rw [pendingFrom, List.foldl_cons, kept]
      exact ih rest

theorem exchangesFrom_silent (silent : ∀ e ∈ effects, e.isSilent = true) :
    exchangesFrom opened effects = [] := by
  induction effects with
  | nil => rfl
  | cons e es ih =>
      obtain ⟨first, rest⟩ := List.forall_mem_cons.mp silent
      have step : e.completes opened = none ∧ e.leaves opened = opened := by
        cases e with
        | issued | answered => cases first
        | _ => exact ⟨rfl, rfl⟩
      rw [exchangesFrom, step.1, step.2]
      exact ih rest

theorem silent_returns (next : Call) : ∀ e ∈ Machine.returns next, e.isSilent = true := by
  cases next <;> simp [Machine.returns, Effect.isSilent]

/-- Every turn asks for something, hears an answer, gives the call up, or does neither. -/
inductive Talk (s : Session) (k : Nat) : Call → Call → List Effect → Prop where
  | asks (p : Point) (q : Request) : p.request? s = some q →
      Talk s k (.ready p) (.waiting p k) [.issued k q]
  | hears (p : Point) (ticket : Nat) (reply : Reply) (next : Call) :
      resume ticket p reply = some next → next.isWaiting = false →
      Talk s k (.waiting p ticket) next [.answered ticket reply]
  | silent (p : Point) (next : Call) (effects : List Effect) : next.isWaiting = false →
      (∀ e ∈ effects, e.isSilent = true) → Talk s k (.ready p) next effects
  | drops (c : Call) : Talk s k c .dropped [.dropped]

theorem RegisterTurn.talk (h : RegisterTurn s k t c s' next effects) : Talk s k c next effects := by
  cases h with
  | askTable | askPrepare | askClose => exact .asks _ _ rfl
  | found | missed | prepared | unprepared => exact .hears _ _ _ _ rfl rfl
  | closed _ _ _ fits =>
      rcases fits with rfl | ⟨fault, rfl⟩ <;> exact .hears _ _ _ _ rfl rfl
  | _ => exact .silent _ _ _ rfl (by simp [Effect.isSilent])

theorem BeginTurn.talk (h : BeginTurn s k c s' next effects) : Talk s k c next effects := by
  cases h with
  | ask | askClose => exact .asks _ _ rfl
  | created | refused => exact .hears _ _ _ _ rfl rfl
  | closed _ _ _ _ fits =>
      rcases fits with rfl | ⟨fault, rfl⟩ <;> exact .hears _ _ _ _ rfl rfl
  | _ => exact .silent _ _ _ rfl (by simp [Effect.isSilent])

theorem ExecuteTurn.talk (h : ExecuteTurn s k t c s' next effects) : Talk s k c next effects := by
  cases h with
  | askPrepare | askDirectory | askDump | askNext | askCloseRows | askClose => exact .asks _ _ rfl
  | prepared | unprepared | directoryMade | directoryDenied | dumped | undumped | file | noFile |
    fetchFailed | rowsClosed | rowsFailed => exact .hears _ _ _ _ rfl rfl
  | rowsLeft _ _ _ _ _ fits | closed _ _ _ _ fits =>
      rcases fits with rfl | ⟨fault, rfl⟩ <;> exact .hears _ _ _ _ rfl rfl
  | _ => exact .silent _ _ _ rfl (by simp [Effect.isSilent])

theorem CommitTurn.talk (h : CommitTurn s k c s' next effects) : Talk s k c next effects := by
  cases h with
  | ask => exact .asks _ _ rfl
  | granted | refused => exact .hears _ _ _ _ rfl rfl
  | _ => exact .silent _ _ _ rfl (by simp [Effect.isSilent])

theorem CloseTurn.talk (h : CloseTurn s k c s' next effects) : Talk s k c next effects := by
  cases h with
  | askTransaction | askClient => exact .asks _ _ rfl
  | released | unreleased | ended | endedAfter | clientFailed | bothFailed =>
      exact .hears _ _ _ _ rfl rfl
  | _ => exact .silent _ _ _ rfl (by simp [Effect.isSilent])

theorem Turn.talk (h : Turn s k c s' next effects) : Talk s k c next effects := by
  cases h with
  | register t turn => exact turn.talk
  | begin turn => exact turn.talk
  | execute t turn => exact turn.talk
  | commit turn => exact turn.talk
  | close turn => exact turn.talk
  | drop => exact .drops c

/-- Only a request is answered. -/
theorem request?_of_resume {ticket : Nat} {p : Point} {reply : Reply}
    (h : resume ticket p reply = some next) : ∃ q, p.request? s = some q := by
  cases p with
  | register t r => cases r <;> first | exact ⟨_, rfl⟩ | simp [resume, resumeRegister] at h
  | begin b => cases b <;> first | exact ⟨_, rfl⟩ | simp [resume, resumeBegin] at h
  | execute t e => cases e <;> first | exact ⟨_, rfl⟩ | simp [resume, resumeExecute] at h
  | commit o => cases o <;> first | exact ⟨_, rfl⟩ | simp [resume, resumeCommit] at h
  | close o => cases o <;> first | exact ⟨_, rfl⟩ | simp [resume, resumeClose] at h

theorem request?_congr (h : Setup s.settings s.dispatch s') (p : Point) :
    p.request? s' = p.request? s := by
  unfold Point.request?
  split <;> simp only [h.settings, h.output]

theorem Call.pending?_congr (h : Setup s.settings s.dispatch s') (c : Call) :
    c.pending? s' = c.pending? s := by
  cases c with
  | waiting p ticket => simp only [pending?, request?_congr h]
  | _ => rfl

theorem Call.pending?_eq_none (h : c.isWaiting = false) : c.pending? s = none := by
  cases c with
  | waiting => cases h
  | _ => rfl

/-- Who waits has asked for something. -/
theorem Talk.waits (h : Talk s k c next effects) (waits : next.isWaiting = true) :
    next.pending? s ≠ none := by
  cases h with
  | asks p q asked => simp [Call.pending?, asked]
  | hears _ _ _ _ _ spoken | silent _ _ _ spoken => cases spoken.symm.trans waits
  | drops => cases waits

theorem Talk.pending (h : Talk s k c next effects) (kept : next ≠ .dropped)
    (known : pendingIn past = c.pending? s) :
    pendingIn (past ++ (effects ++ Machine.returns next)) = next.pending? s := by
  rw [pendingIn_append, known, pendingFrom, List.foldl_append, ← pendingFrom, ← pendingFrom,
    pendingFrom_silent (silent_returns next)]
  cases h with
  | asks p q asked => simp [pendingFrom, Effect.leaves, Call.pending?, asked]
  | hears p ticket reply next _ spoken => exact (Call.pending?_eq_none spoken).symm
  | silent p next effects spoken silent =>
      rw [pendingFrom_silent silent, Call.pending?_eq_none spoken]
      rfl
  | drops => exact absurd rfl kept

theorem exchangesIn_turn (known : pendingIn past = c.pending? s) :
    exchangesIn (past ++ (effects ++ Machine.returns next)) =
      exchangesIn past ++ exchangesFrom (c.pending? s) effects := by
  rw [exchangesIn_append, exchangesFrom_append, exchangesFrom_silent (silent_returns next), known,
    List.append_nil]

/-- An answer completes an exchange of the turn in which it is heard. -/
theorem Turn.heard {ticket : Nat} {reply : Reply} (h : Turn s k c s' next effects)
    (member : .answered ticket reply ∈ effects ++ Machine.returns next) :
    ∃ q, ⟨ticket, q, reply⟩ ∈ exchangesFrom (c.pending? s) effects := by
  have member : .answered ticket reply ∈ effects := (List.mem_append.mp member).resolve_right
    fun back => by cases silent_returns next _ back
  cases h.talk with
  | asks => cases List.mem_singleton.mp member
  | drops => cases List.mem_singleton.mp member
  | silent p next effects _ silent => cases silent _ member
  | hears p ticket' reply' next resumes =>
      cases List.mem_singleton.mp member
      obtain ⟨q, asked⟩ := request?_of_resume (s := s) resumes
      exact ⟨q, by simp [exchangesFrom, Effect.completes, Call.pending?, asked]⟩

/-- A request is made by a call that stands at its point. -/
theorem Turn.asked {ticket : Nat} {q : Request} (h : Turn s k c s' next effects)
    (member : .issued ticket q ∈ effects ++ Machine.returns next) :
    ∃ p, c = .ready p ∧ p.request? s = some q := by
  have member : .issued ticket q ∈ effects := (List.mem_append.mp member).resolve_right
    fun back => by cases silent_returns next _ back
  cases h.talk with
  | asks p q' asks =>
      cases List.mem_singleton.mp member
      exact ⟨p, rfl, asks⟩
  | drops => cases List.mem_singleton.mp member
  | hears => cases List.mem_singleton.mp member
  | silent p next effects _ silent => cases silent _ member

theorem issued_of_pendingFrom {q : Request} (h : pendingFrom opened effects = some (k, q)) :
    opened = some (k, q) ∨ .issued k q ∈ effects := by
  induction effects generalizing opened with
  | nil => exact .inl h
  | cons e es ih =>
      rcases ih h with here | later
      · cases e with
        | issued ticket r =>
            cases here
            exact .inr (List.mem_cons_self ..)
        | answered => cases here
        | _ => exact .inl here
      · exact .inr (List.mem_cons_of_mem _ later)

theorem issued_of_pendingIn {q : Request} (h : pendingIn past = some (k, q)) :
    .issued k q ∈ past :=
  (issued_of_pendingFrom h).resolve_left nofun

/-- A call knows which of its requests is open, and its exchanges are its own requests with the
answers to them. -/
structure Paired (s : Session) (x : Thread) : Prop where
  known : x.call ≠ .dropped → pendingIn x.past = x.call.pending? s
  waits : x.call.isWaiting = true → x.call.pending? s ≠ none
  issued : ∀ e ∈ exchangesIn x.past, .issued e.ticket e.request ∈ x.past
  answered : ∀ e ∈ exchangesIn x.past, .answered e.ticket e.reply ∈ x.past
  heard : ∀ ticket reply, .answered ticket reply ∈ x.past →
    ∃ q, ⟨ticket, q, reply⟩ ∈ exchangesIn x.past

theorem Paired.entry (s : Session) (p : Point) : Paired s ⟨.ready p, [.called p]⟩ := by
  refine ⟨fun _ => rfl, nofun, fun e member => ?_, fun e member => ?_,
    fun ticket reply member => ?_⟩
  · cases member
  · cases member
  · cases List.mem_singleton.mp member

theorem Paired.turn (h : Turn s k c s' next effects) (ih : Paired s ⟨c, past⟩) :
    Paired s ⟨next, past ++ (effects ++ Machine.returns next)⟩ := by
  have known : pendingIn past = c.pending? s := by
    obtain ⟨p, live⟩ := h.live
    exact ih.known (by rintro rfl; cases live)
  have new : ∀ e ∈ exchangesFrom (c.pending? s) effects,
      .issued e.ticket e.request ∈ past ∧ .answered e.ticket e.reply ∈ effects := by
    intro e member
    cases h.talk with
    | asks | drops => simp [exchangesFrom, Effect.completes] at member
    | silent p next effects _ silent =>
        rw [exchangesFrom_silent silent] at member
        cases member
    | hears p ticket reply =>
        cases asked : p.request? s with
        | none => simp [exchangesFrom, Effect.completes, Call.pending?, asked] at member
        | some q =>
            obtain rfl : e = ⟨ticket, q, reply⟩ := by
              simpa [exchangesFrom, Effect.completes, Call.pending?, asked] using member
            refine ⟨issued_of_pendingIn ?_, List.mem_singleton_self _⟩
            rw [known, Call.pending?, asked]
            rfl
  refine ⟨fun going => h.talk.pending going known, h.talk.waits, fun e member => ?_,
    fun e member => ?_, fun ticket reply member => ?_⟩
  · rw [exchangesIn_turn known] at member
    rcases List.mem_append.mp member with old | fresh
    · exact List.mem_append_left _ (ih.issued e old)
    · exact List.mem_append_left _ (new e fresh).1
  · rw [exchangesIn_turn known] at member
    rcases List.mem_append.mp member with old | fresh
    · exact List.mem_append_left _ (ih.answered e old)
    · exact List.mem_append_right _ (List.mem_append_left _ (new e fresh).2)
  · rw [exchangesIn_turn known]
    rcases List.mem_append.mp member with old | fresh
    · obtain ⟨q, exchange⟩ := ih.heard ticket reply old
      exact ⟨q, List.mem_append_left _ exchange⟩
    · obtain ⟨q, exchange⟩ := h.heard fresh
      exact ⟨q, List.mem_append_right _ exchange⟩

theorem Paired.congr {x : Thread} (h : Setup s.settings s.dispatch s') (ih : Paired s x) :
    Paired s' x :=
  ⟨fun going => (ih.known going).trans (Call.pending?_congr h x.call).symm,
    fun waits => Call.pending?_congr h x.call ▸ ih.waits waits, ih.issued, ih.answered, ih.heard⟩

namespace Machine

variable {settings : TransactionSettings} {dispatch : Dispatch} {m : Machine}

theorem Used.paired (h : Used settings dispatch m) :
    ∀ x ∈ m.threads, Paired (.make settings dispatch) x := by
  refine h.each (fun p _ => Paired.entry _ p) ?_
  intro s k c past s' next effects setup turn ih
  have back : Setup s.settings s.dispatch (.make settings dispatch) :=
    ⟨setup.settings.symm, setup.output.symm, setup.kinds.symm⟩
  exact ((ih.congr setup).turn turn).congr back

end Machine

end DumpFlow.Session
