import DumpFlow.Session.Handler
import DumpFlow.Proofs.Session.Dump
import DumpFlow.Proofs.Session.Registration

/-!
Everything that the dump of a registered target does, whatever it is answered: in which order it
asks for what and tells its monitor, what it closes, and which of its failures it gives back. In the
scripts of dumps the numbers are the tickets of the requests.
-/

namespace DumpFlow.Session

/-- How the rows of a dump were read: the fetches that told a file, with the file, the one that told
none, and the close. -/
structure Fetching where
  rounds : List (Nat × String)
  last : Nat
  lastFault : Option ClientFault
  close : Nat
  closeFault : Option ClientFault

/-- What became of a dump that has its statement. -/
inductive Course where
  | denied (directory : Nat) (reason : String)
  | undumped (directory : Option Nat) (dump : Nat) (fault : ClientFault)
  | read (directory : Option Nat) (dump : Nat) (fetching : Fetching)

/-- What became of a dump. -/
inductive Script where
  | unprepared (prepare : Nat) (fault : ClientFault)
  | prepared (prepare : Nat) (course : Course) (close : Nat) (closeFault : Option ClientFault)

/-- The step of a dump that failed. -/
inductive DumpFailure where
  | prepare (fault : ClientFault)
  | directory (reason : String)
  /-- To dump, to fetch a file, or to close the rows. -/
  | dump (fault : ClientFault)

namespace DumpFailure

def diagnostic (t : Target) : DumpFailure → Diagnostic
  | prepare fault => dumpPrepareDiagnostic t.label fault
  | directory reason => directoryDiagnostic t.destination reason
  | dump fault => dumpDiagnostic t.label fault

def kind : DumpFailure → DiagnosticKind
  | prepare fault => if fault.isIo then .ioError else .prepareFailure
  | directory _ => .ioError
  | dump fault => if fault.isIo then .ioError else .operationFailure

theorem kind_diagnostic (t : Target) (f : DumpFailure) : (f.diagnostic t).kind = f.kind := by
  cases f <;> rfl

end DumpFailure

/-- What a dump gives back whose first failure is the given one. -/
def dumpOutcome (t : Target) : Option DumpFailure → Outcome
  | none => .ok ()
  | some f => .error (.diagnostic (f.diagnostic t))

/-- The answer to the fetch that tells no file. -/
def lastReply : Option ClientFault → Reply
  | none => .path none
  | some fault => .failed fault

/-- A dump that has told of its start. -/
def begunPast (t : Target) (k : Nat) : List Effect :=
  attempt k (.prepare (Dispatch.statementOf t)) none ++ [.emitted (.start t.label t.destination)]

/-- A directory that was made, if one was. -/
def madePast (t : Target) (directory : Option Nat) : List Effect :=
  directory.elim [] fun k => attempt k (.createDirectory t.destination) none

def lastFetch (rows : RowSet) (k : Nat) (fault : Option ClientFault) : List Effect :=
  [.issued k (.nextPath rows), .answered k (lastReply fault)]

namespace Fetching

variable (f : Fetching)

def failure? : Option DumpFailure :=
  (f.lastFault.or f.closeFault).map .dump

def effects (t : Target) (rows : RowSet) : List Effect :=
  (f.rounds.flatMap fun r => round t rows r.1 r.2) ++ lastFetch rows f.last f.lastFault ++
    attempt f.close (.closeRows rows) f.closeFault

end Fetching

variable (o : DumpOutput) (transaction : Transaction) (t : Target)

namespace Course

/-- The first failure, in the order of the steps. -/
def failure? : Course → Option DumpFailure
  | denied _ reason => some (.directory reason)
  | undumped _ _ fault => some (.dump fault)
  | read _ _ f => f.failure?

/-- A directory is made if, and only if, one is asked for. -/
def Fits : Course → Prop
  | denied _ _ => o.createDirectory = true
  | undumped directory _ _ | read directory _ _ => directory.isSome = o.createDirectory

def effects (statement : Statement) : Course → List Effect
  | denied k reason => [.issued k (.createDirectory t.destination), .answered k (.denied reason)]
  | undumped directory k fault =>
    madePast t directory ++
      attempt k (.dump transaction statement t.destination o.profile) (some fault)
  | read directory k f =>
    madePast t directory ++ attempt k (.dump transaction statement t.destination o.profile) none ++
      f.effects t ⟨k⟩

/-- The end is told of only after everything went well. -/
def finish (course : Course) : List Effect :=
  match course.failure? with
  | none => [.emitted (.finish t.label t.destination)]
  | some _ => []

/-- Up to the close of the statement. -/
def past (k : Nat) (course : Course) : List Effect :=
  begunPast t k ++ course.effects o transaction t ⟨k, Dispatch.statementOf t⟩ ++ course.finish t

end Course

namespace Script

def failure? : Script → Option DumpFailure
  | unprepared _ fault => some (.prepare fault)
  | prepared _ course _ _ => course.failure?

def Fits : Script → Prop
  | unprepared _ _ => True
  | prepared _ course _ _ => course.Fits o

def effects : Script → List Effect
  | unprepared k fault => attempt k (.prepare (Dispatch.statementOf t)) (some fault)
  | prepared k course close fault =>
    course.past o transaction t k ++
      attempt close (.closeStatement ⟨k, Dispatch.statementOf t⟩) fault

end Script

/-- A dump that has its rows, and has been told some files. -/
def Dumping.toldPast (d : Dumping) : List Effect :=
  begunPast t d.statement ++ madePast t d.directory ++
    attempt d.rows (.dump transaction (d.opened t) t.destination o.profile) none ++
    d.rounds.flatMap fun r => round t ⟨d.rows⟩ r.1 r.2

/-- What a dump that nobody gives up has done by the time it stands at one of its points. -/
inductive DumpPath : Call → List Effect → Prop where
  | lookUp : DumpPath (.ready (dumping transaction t)) []
  | prepare : DumpPath (.ready (.execute t (.prepare transaction))) []
  | preparing (k : Nat) :
      DumpPath (.waiting (.execute t (.prepare transaction)) k)
        [.issued k (.prepare (Dispatch.statementOf t))]
  | announceStart (k : Nat) :
      DumpPath (.ready (.execute t (.announceStart transaction ⟨k, Dispatch.statementOf t⟩)))
        (attempt k (.prepare (Dispatch.statementOf t)) none)
  | createDirectory (k : Nat) : o.createDirectory = true →
      DumpPath (.ready (.execute t (.createDirectory transaction ⟨k, Dispatch.statementOf t⟩)))
        (begunPast t k)
  | creating (k k' : Nat) : o.createDirectory = true →
      DumpPath
        (.waiting (.execute t (.createDirectory transaction ⟨k, Dispatch.statementOf t⟩)) k')
        (begunPast t k ++ [.issued k' (.createDirectory t.destination)])
  | dump (k : Nat) (directory : Option Nat) : directory.isSome = o.createDirectory →
      DumpPath (.ready (.execute t (.dump transaction ⟨k, Dispatch.statementOf t⟩)))
        (begunPast t k ++ madePast t directory)
  | dumping (k : Nat) (directory : Option Nat) (k' : Nat) :
      directory.isSome = o.createDirectory →
      DumpPath (.waiting (.execute t (.dump transaction ⟨k, Dispatch.statementOf t⟩)) k')
        (begunPast t k ++ madePast t directory ++
          [.issued k' (.dump transaction ⟨k, Dispatch.statementOf t⟩ t.destination o.profile)])
  | fetch (d : Dumping) : d.directory.isSome = o.createDirectory →
      DumpPath (.ready (.execute t (.fetch (d.opened t) ⟨d.rows⟩))) (d.toldPast o transaction t)
  | fetching (d : Dumping) (k : Nat) : d.directory.isSome = o.createDirectory →
      DumpPath (.waiting (.execute t (.fetch (d.opened t) ⟨d.rows⟩)) k)
        (d.toldPast o transaction t ++ [.issued k (.nextPath ⟨d.rows⟩)])
  | announceFile (d : Dumping) (k : Nat) (path : String) :
      d.directory.isSome = o.createDirectory →
      DumpPath (.ready (.execute t (.announceFile (d.opened t) ⟨d.rows⟩ path)))
        (d.toldPast o transaction t ++
          [.issued k (.nextPath ⟨d.rows⟩), .answered k (.path (some path))])
  | closeRows (d : Dumping) (k : Nat) (fault : Option ClientFault) :
      d.directory.isSome = o.createDirectory →
      DumpPath (.ready (.execute t (.closeRows (d.opened t) ⟨d.rows⟩ fault)))
        (d.toldPast o transaction t ++ lastFetch ⟨d.rows⟩ k fault)
  | closingRows (d : Dumping) (k : Nat) (fault : Option ClientFault) (k' : Nat) :
      d.directory.isSome = o.createDirectory →
      DumpPath (.waiting (.execute t (.closeRows (d.opened t) ⟨d.rows⟩ fault)) k')
        (d.toldPast o transaction t ++ lastFetch ⟨d.rows⟩ k fault ++
          [.issued k' (.closeRows ⟨d.rows⟩)])
  | announceFinish (k : Nat) (course : Course) : course.Fits o → course.failure? = none →
      DumpPath (.ready (.execute t (.announceFinish ⟨k, Dispatch.statementOf t⟩)))
        (begunPast t k ++ course.effects o transaction t ⟨k, Dispatch.statementOf t⟩)
  | closeStatement (k : Nat) (course : Course) : course.Fits o →
      DumpPath (.ready (.execute t (.closeStatement ⟨k, Dispatch.statementOf t⟩
        (dumpOutcome t course.failure?)))) (course.past o transaction t k)
  | closing (k : Nat) (course : Course) (k' : Nat) : course.Fits o →
      DumpPath (.waiting (.execute t (.closeStatement ⟨k, Dispatch.statementOf t⟩
        (dumpOutcome t course.failure?))) k')
        (course.past o transaction t k ++
          [.issued k' (.closeStatement ⟨k, Dispatch.statementOf t⟩)])
  | returned (script : Script) : script.Fits o →
      DumpPath (.returned (dumpOutcome t script.failure?))
        (script.effects o transaction t ++ [.returned (dumpOutcome t script.failure?)])

variable {o : DumpOutput} {transaction : Transaction} {t : Target} {s s' : Session} {k : Nat}
  {c next : Call} {past effects : List Effect} {p : Point}

theorem Dumping.toldPast_snoc (d : Dumping) (k : Nat) (path : String) :
    ({ d with rounds := d.rounds ++ [(k, path)] } : Dumping).toldPast o transaction t =
      d.toldPast o transaction t ++ round t ⟨d.rows⟩ k path := by
  simp [toldPast, opened]

theorem Course.past_of_failure {course : Course} {f : DumpFailure}
    (failed : course.failure? = some f) :
    course.past o transaction t k =
      begunPast t k ++ course.effects o transaction t ⟨k, Dispatch.statementOf t⟩ := by
  simp [past, finish, failed]

/-- What becomes of a dump whose rows are read and closed. -/
def Dumping.course (d : Dumping) (last : Nat) (lastFault : Option ClientFault) (close : Nat)
    (closeFault : Option ClientFault) : Course :=
  .read d.directory d.rows ⟨d.rounds, last, lastFault, close, closeFault⟩

theorem Dumping.begunPast_course (d : Dumping) (last : Nat) (lastFault : Option ClientFault)
    (close : Nat) (closeFault : Option ClientFault) :
    begunPast t d.statement ++ (d.course last lastFault close closeFault).effects o transaction t
        ⟨d.statement, Dispatch.statementOf t⟩ =
      d.toldPast o transaction t ++ lastFetch ⟨d.rows⟩ last lastFault ++
        attempt close (.closeRows ⟨d.rows⟩) closeFault := by
  simp [course, Course.effects, Fetching.effects, toldPast, opened]

theorem exists_replyOf {reply : Reply} (h : reply = .done ∨ ∃ fault, reply = .failed fault) :
    ∃ fault, reply = replyOf fault := by
  rcases h with rfl | ⟨fault, rfl⟩
  · exact ⟨none, rfl⟩
  · exact ⟨some fault, rfl⟩

/-- A dump whose last step before the close of its statement was its first to fail. -/
theorem DumpPath.give_up (k : Nat) (course : Course) {f : DumpFailure} (fits : course.Fits o)
    (failed : course.failure? = some f) :
    DumpPath o transaction t (giveUp t ⟨k, Dispatch.statementOf t⟩ (f.diagnostic t))
      (begunPast t k ++ course.effects o transaction t ⟨k, Dispatch.statementOf t⟩) := by
  have path : DumpPath o transaction t _ _ := .closeStatement k course fits
  rwa [failed, Course.past_of_failure failed] at path

/-- Where a dump stands tells all that it has done, and a turn adds what comes next. -/
theorem DumpPath.turn (path : DumpPath o transaction t c past)
    (turn : ExecuteTurn s k t c s' next effects) (output : s.dispatch.output = o)
    (registered : s.dispatch.isRegistered t = true) :
    DumpPath o transaction t next (past ++ (effects ++ Machine.returns next)) := by
  cases turn with
  | wrongState | rightState | noTransaction | refused | borrowed => cases path
  | unknown _ unknown => simp [registered] at unknown
  | known => cases path; exact .prepare
  | askPrepare => cases path; exact .preparing k
  | announceStart _ statement =>
      cases path with
      | announceStart ticket =>
          rw [output]
          split
          · rename_i asked
            exact .createDirectory ticket asked
          · rename_i unasked
            have path : DumpPath o transaction t _ _ :=
              .dump ticket none (by simpa using unasked)
            simpa [madePast, begunPast, Machine.returns] using path
  | askDirectory =>
      cases path with | createDirectory ticket asked => exact .creating ticket k asked
  | askDump =>
      cases path with
      | dump ticket directory fits =>
          subst output
          exact .dumping ticket directory k fits
  | askNext => cases path with | fetch d fits => exact .fetching d k fits
  | announceFile statement rows file =>
      cases path with
      | announceFile d ticket _ fits =>
          have path : DumpPath o transaction t _ _ :=
            .fetch { d with rounds := d.rounds ++ [(ticket, file)] } fits
          rw [Dumping.toldPast_snoc] at path
          simpa [round, Machine.returns, Dumping.opened] using path
  | askCloseRows =>
      cases path with | closeRows d ticket _ fits => exact .closingRows d ticket _ k fits
  | announceFinish =>
      cases path with
      | announceFinish ticket course fits well =>
          have path : DumpPath o transaction t _ _ := .closeStatement ticket course fits
          rw [well] at path
          simpa [Machine.returns, Course.past, Course.finish, well, dumpOutcome] using path
  | askClose =>
      cases path with | closeStatement ticket course fits => exact .closing ticket course k fits
  | prepared ticket => cases path; exact .announceStart ticket
  | unprepared ticket _ fault =>
      cases path
      exact .returned (.unprepared ticket fault) trivial
  | directoryMade ticket =>
      cases path with
      | creating first _ asked =>
          have path : DumpPath o transaction t _ _ := .dump first (some ticket) asked.symm
          simpa [madePast, attempt, replyOf, Machine.returns] using path
  | directoryDenied ticket _ _ reason =>
      cases path with
      | creating first _ asked =>
          have path : DumpPath o transaction t _ _ :=
            .give_up first (.denied ticket reason) asked rfl
          simpa [Course.effects, DumpFailure.diagnostic, giveUp, Machine.returns] using path
  | dumped ticket =>
      cases path with
      | dumping first directory _ fits =>
          have path : DumpPath o transaction t _ _ := .fetch ⟨first, directory, ticket, []⟩ fits
          simpa [Dumping.toldPast, Dumping.opened, attempt, replyOf, Machine.returns] using path
  | undumped ticket _ _ fault =>
      cases path with
      | dumping first directory _ fits =>
          have path : DumpPath o transaction t _ _ :=
            .give_up first (.undumped directory ticket fault) fits rfl
          simpa [Course.effects, attempt, replyOf, DumpFailure.diagnostic, giveUp,
            Machine.returns] using path
  | file ticket _ _ file =>
      cases path with
      | fetching d _ fits =>
          simpa [Machine.returns] using DumpPath.announceFile d ticket file fits
  | noFile ticket =>
      cases path with
      | fetching d _ fits =>
          simpa [Machine.returns, lastFetch, lastReply] using
            DumpPath.closeRows d ticket none fits
  | fetchFailed ticket _ _ fault =>
      cases path with
      | fetching d _ fits =>
          simpa [Machine.returns, lastFetch, lastReply] using
            DumpPath.closeRows d ticket (some fault) fits
  | rowsClosed ticket =>
      cases path with
      | closingRows d last _ _ fits =>
          have path : DumpPath o transaction t _ _ :=
            .announceFinish d.statement (d.course last none ticket none) fits rfl
          rw [Dumping.begunPast_course] at path
          simpa [Machine.returns, attempt, replyOf, Dumping.opened] using path
  | rowsFailed ticket _ _ fault =>
      cases path with
      | closingRows d last _ _ fits =>
          have path : DumpPath o transaction t _ _ :=
            .give_up d.statement (d.course last none ticket (some fault)) fits rfl
          rw [Dumping.begunPast_course] at path
          simpa [Machine.returns, attempt, replyOf, DumpFailure.diagnostic, giveUp,
            Dumping.opened] using path
  | rowsLeft ticket _ _ fault reply answered =>
      cases path with
      | closingRows d last _ _ fits =>
          obtain ⟨closeFault, rfl⟩ := exists_replyOf answered
          have path : DumpPath o transaction t _ _ :=
            .give_up d.statement (d.course last (some fault) ticket closeFault) fits rfl
          rw [Dumping.begunPast_course] at path
          simpa [Machine.returns, attempt, DumpFailure.diagnostic, giveUp,
            Dumping.opened] using path
  | closed ticket statement outcome reply answered =>
      cases path with
      | closing first course _ fits =>
          obtain ⟨fault, rfl⟩ := exists_replyOf answered
          have path : DumpPath o transaction t _ _ :=
            .returned (.prepared first course ticket fault) fits
          simpa [Script.effects, Script.failure?, attempt, Machine.returns] using path

/-! ### The end of a dump -/

theorem Course.not_finish {course : Course} {statement : Statement} {label : String}
    {destination : Path} :
    .emitted (.finish label destination) ∉
      begunPast t k ++ course.effects o transaction t statement := by
  cases course with
  | denied => simp [begunPast, effects, attempt]
  | undumped directory => cases directory <;> simp [begunPast, effects, madePast, attempt]
  | read directory =>
      cases directory <;>
        simp [begunPast, effects, Fetching.effects, madePast, round, lastFetch, attempt]

/-- The end is told of if, and only if, every step went well. -/
theorem Script.finish_iff (o : DumpOutput) (transaction : Transaction) (t : Target)
    (script : Script) :
    .emitted (.finish t.label t.destination) ∈ script.effects o transaction t ↔
      script.failure? = none := by
  cases script with
  | unprepared => simp [effects, attempt, failure?]
  | prepared k course =>
      simp only [effects, Course.past, List.mem_append, List.append_assoc, failure?, Course.finish]
      rw [← or_assoc, ← List.mem_append, or_iff_right Course.not_finish]
      cases course.failure? <;> simp [attempt]

theorem dumpOutcome_eq_ok {failure : Option DumpFailure} :
    dumpOutcome t failure = .ok () ↔ failure = none := by
  cases failure <;> simp [dumpOutcome]

/-! ### Progress -/

/-- The replies that a request can be given. -/
def Request.Takes : Request → Reply → Prop
  | .tableMetadata _, .metadata _ | .tableMetadata _, .failed _ => True
  | .nextPath _, .path _ | .nextPath _, .failed _ => True
  | .createDirectory _, .done | .createDirectory _, .denied _ => True
  | .tableMetadata _, _ | .nextPath _, _ | .createDirectory _, _ => False
  | _, .done | _, .failed _ => True
  | _, _ => False

def Effect.isFile : Effect → Bool
  | .emitted (.file _ _) => true
  | _ => false

theorem DumpPath.point (path : DumpPath o transaction t c past) (stands : c.point? = some p) :
    ∃ e, p = .execute t e := by
  cases path <;> cases stands <;> exact ⟨_, rfl⟩

theorem DumpPath.answerable {ticket : Nat}
    (path : DumpPath o transaction t (.waiting p ticket) past) (s : Session) :
    ∃ q, s.act p = .request q ∧
      ∀ reply, Request.Takes q reply → (resume ticket p reply).isSome := by
  cases path with
  | preparing | creating | dumping | closing =>
      refine ⟨_, rfl, fun reply takes => ?_⟩
      cases reply <;> first | rfl | cases takes
  | fetching =>
      refine ⟨_, rfl, fun reply takes => ?_⟩
      cases reply with
      | path file => cases file <;> rfl
      | failed => rfl
      | _ => cases takes
  | closingRows _ _ fault =>
      refine ⟨_, rfl, fun reply takes => ?_⟩
      cases fault <;> cases reply <;> first | rfl | cases takes

/-- The only turn without effects is the one that finds the target. -/
def Call.unlooked : Call → Nat
  | .ready (.execute _ (.lookUp _)) => 1
  | _ => 0

theorem DumpPath.counts (path : DumpPath o transaction t c past)
    (turn : ExecuteTurn s k t c s' next effects) :
    1 + next.unlooked ≤ c.unlooked + (effects ++ Machine.returns next).length := by
  cases turn with
  | wrongState | rightState | noTransaction | refused | borrowed => cases path
  | announceStart => split <;> simp [Call.unlooked]
  | _ => simp [Call.unlooked, Call.fault, giveUp, Machine.returns]

/-- Apart from what its files call for, no more than `n` effects. -/
def Brief (n : Nat) (effects : List Effect) : Prop :=
  effects.length ≤ n + 3 * effects.countP Effect.isFile

theorem brief_of_length {n : Nat} (short : effects.length ≤ n) : Brief n effects :=
  Nat.le_add_right_of_le short

theorem brief_one (e : Effect) : Brief 1 [e] :=
  brief_of_length (Nat.le_refl 1)

theorem brief_two (e e' : Effect) : Brief 2 [e, e'] :=
  brief_of_length (Nat.le_refl 2)

theorem Brief.append {n n' : Nat} {effects' : List Effect} (h : Brief n effects)
    (h' : Brief n' effects') : Brief (n + n') (effects ++ effects') := by
  simp only [Brief, List.length_append, List.countP_append] at *
  omega

theorem Brief.le {n n' : Nat} (h : Brief n effects) (few : n ≤ n') : Brief n' effects :=
  Nat.le_trans h (Nat.add_le_add_right few _)

theorem brief_attempt (k : Nat) (q : Request) (fault : Option ClientFault) :
    Brief 2 (attempt k q fault) :=
  brief_two ..

theorem brief_begun (k : Nat) : Brief 3 (begunPast t k) :=
  brief_of_length (Nat.le_refl 3)

theorem brief_made (directory : Option Nat) : Brief 2 (madePast t directory) := by
  cases directory with
  | none => exact brief_of_length (Nat.zero_le 2)
  | some k => exact brief_attempt ..

theorem brief_rounds (rows : RowSet) (rounds : List (Nat × String)) :
    Brief 0 (rounds.flatMap fun r => round t rows r.1 r.2) := by
  induction rounds with
  | nil => exact Nat.le_refl 0
  | cons r rounds ih =>
      have first : Brief 0 (round t rows r.1 r.2) := by simp [Brief, round, Effect.isFile]
      exact first.append ih

theorem Dumping.brief_told (d : Dumping) : Brief 7 (d.toldPast o transaction t) :=
  (((brief_begun _).append (brief_made _)).append (brief_attempt ..)).append (brief_rounds ..)

theorem Fetching.brief (f : Fetching) (rows : RowSet) : Brief 4 (f.effects t rows) :=
  ((brief_rounds ..).append (brief_two ..)).append (brief_attempt ..)

theorem Course.brief_effects (course : Course) (statement : Statement) :
    Brief 8 (course.effects o transaction t statement) := by
  cases course with
  | denied => exact (brief_two ..).le (by decide)
  | undumped directory => exact ((brief_made _).append (brief_attempt ..)).le (by decide)
  | read directory k f =>
      exact ((brief_made _).append (brief_attempt ..)).append (f.brief _)

theorem Course.brief_finish (course : Course) : Brief 1 (course.finish t) := by
  unfold finish
  split
  · exact brief_one _
  · exact brief_of_length (Nat.zero_le 1)

theorem Course.brief_past (course : Course) : Brief 12 (course.past o transaction t k) :=
  ((brief_begun k).append (course.brief_effects _)).append course.brief_finish

theorem Script.brief (script : Script) : Brief 14 (script.effects o transaction t) := by
  cases script with
  | unprepared => exact (brief_attempt ..).le (by decide)
  | prepared k course => exact course.brief_past.append (brief_attempt ..)

/-- A dump does not do more than its files call for. -/
theorem DumpPath.brief (path : DumpPath o transaction t c past) : Brief 15 past := by
  cases path with
  | lookUp | prepare | preparing | announceStart | createDirectory | creating =>
      exact brief_of_length (by simp [begunPast, attempt])
  | dump k directory => exact ((brief_begun _).append (brief_made _)).le (by decide)
  | dumping k directory =>
      exact (((brief_begun _).append (brief_made _)).append
        (brief_one _)).le (by decide)
  | fetch d => exact d.brief_told.le (by decide)
  | fetching d => exact (d.brief_told.append (brief_one _)).le (by decide)
  | announceFile d | closeRows d =>
      exact (d.brief_told.append (brief_two ..)).le (by decide)
  | closingRows d =>
      exact ((d.brief_told.append (brief_two ..)).append
        (brief_one _)).le (by decide)
  | announceFinish k course =>
      exact ((brief_begun _).append (course.brief_effects _)).le (by decide)
  | closeStatement k course => exact course.brief_past.le (by decide)
  | closing k course =>
      exact (course.brief_past.append (brief_one _)).le (by decide)
  | returned script => exact script.brief.append (brief_one _)

/-! ### A dump among other calls -/

/-- Is it a move of call `i`? -/
def Move.isOf (i : Nat) : Move → Bool
  | .call _ => false
  | .act j | .answer j _ | .drop j => decide (j = i)

namespace Machine

variable {m m' : Machine} {moves before : List Move} {i j turns : Nat} {x y : Thread}

/-- Call `i` is a dump of `t` that has taken some turns and that nobody has given up. -/
structure Underway (o : DumpOutput) (transaction : Transaction) (t : Target) (i turns : Nat)
    (m : Machine) : Prop where
  numbered : m.Numbered
  output : m.session.dispatch.output = o
  registered : m.session.dispatch.isRegistered t = true
  stands : ∃ c past, m.threads[i]? = some ⟨c, .called (dumping transaction t) :: past⟩ ∧
    DumpPath o transaction t c past ∧ turns + c.unlooked ≤ past.length + 1

theorem underway_call (h : m.Numbered) (registered : m.session.dispatch.isRegistered t = true) :
    Underway m.session.dispatch.output transaction t m.calls.length 0
      (m.call (dumping transaction t)) where
  numbered := numbered_call h _
  output := rfl
  registered := registered
  stands := by
    refine ⟨_, _, ?_, .lookUp, Nat.le_refl 1⟩
    rw [threads_call h, ← length_threads, List.getElem?_concat_length]

theorem Underway.call (h : Underway o transaction t i turns m) (p : Point) :
    Underway o transaction t i turns (m.call p) where
  numbered := numbered_call h.numbered p
  output := h.output
  registered := h.registered
  stands := by
    obtain ⟨c, past, stood, path, few⟩ := h.stands
    refine ⟨c, past, ?_, path, few⟩
    rw [threads_call h.numbered, List.getElem?_append_left (List.getElem?_eq_some_iff.mp stood).1]
    exact stood

/-- A turn of any call but the drop of this one. -/
theorem Underway.moved (h : Underway o transaction t i turns m)
    (moved : Moved m j x effects y m') (kept : j = i → effects ≠ [.dropped]) :
    Underway o transaction t i (turns + if j = i then 1 else 0) m' where
  numbered := moved.numbered h.numbered
  output := moved.turn.setup.output.trans h.output
  registered := by
    -- Another call can register a target meanwhile, but none is ever removed.
    have there := Dispatch.isRegistered_iff.mp h.registered
    refine Dispatch.isRegistered_iff.mpr ?_
    rcases moved.turn.enrols with ⟨same, -⟩ | ⟨_, _, -, new, -, -⟩
    · exact same ▸ there
    · exact (Dispatch.within_enroll? new).1.has there
  stands := by
    obtain ⟨c, past, stood, path, few⟩ := h.stands
    by_cases ours : j = i
    · subst ours
      obtain rfl := Option.some.inj (moved.stood.symm.trans stood)
      obtain ⟨p, live⟩ := moved.turn.live
      obtain ⟨e, rfl⟩ := path.point live
      have turn : ExecuteTurn m.session m.tickets t c m'.session y.call effects :=
        moved.turn.own (kept rfl) live
      refine ⟨y.call, _, ?_, path.turn turn h.output h.registered, ?_⟩
      · rw [moved.threads, List.getElem?_set_self (by simpa using moved.lt), ← List.cons_append,
          ← moved.past]
      · have grown := path.counts turn
        rw [List.length_append, if_pos rfl]
        omega
    · rw [if_neg ours]
      exact ⟨c, past, moved.stays stood (Ne.symm ours), path, few⟩

theorem Underway.step {move : Move} (h : Underway o transaction t i turns m)
    (kept : move ≠ .drop i) (step : m.step? move = some m') :
    Underway o transaction t i (turns + if move.isOf i then 1 else 0) m' := by
  cases move with
  | call p =>
      cases step
      exact h.call p
  | act j =>
      obtain ⟨_, x, effects, y, -, kept, moved⟩ := act?_moved step
      simpa [Move.isOf] using h.moved moved fun _ => kept
  | answer j reply =>
      obtain ⟨_, _, x, y, -, moved⟩ := answer?_moved step
      simpa [Move.isOf] using h.moved moved fun _ => by simp
  | drop j =>
      obtain ⟨x, effects, y, moved⟩ := drop?_moved step
      simpa [Move.isOf] using h.moved moved fun ours => absurd (ours ▸ rfl) kept

theorem Underway.run (h : Underway o transaction t i turns m) (kept : .drop i ∉ moves)
    (run : m.run? moves = some m') :
    Underway o transaction t i (turns + moves.countP (Move.isOf i)) m' := by
  induction moves generalizing m turns with
  | nil => exact Option.some.inj run ▸ h
  | cons move moves ih =>
      obtain ⟨next, first, rest⟩ := Option.bind_eq_some_iff.mp run
      obtain ⟨this, those⟩ := List.ne_and_not_mem_of_not_mem_cons kept
      have underway := ih (h.step (Ne.symm this) first) those rest
      rwa [List.countP_cons, Nat.add_comm (moves.countP _), ← Nat.add_assoc]

/-- A dump that has returned, with all that it has done. -/
structure Transcript (o : DumpOutput) (transaction : Transaction) (t : Target)
    (script : Script) (past : List Effect) (outcome : Outcome) : Prop where
  fits : script.Fits o
  exact : past = .called (dumping transaction t) ::
    (script.effects o transaction t ++ [.returned outcome])
  ok_iff : outcome = .ok () ↔ script.failure? = none
  finish_iff : outcome = .ok () ↔ .emitted (.finish t.label t.destination) ∈ past
  fault : ∀ f, script.failure? = some f →
    outcome = .error (.diagnostic (f.diagnostic t)) ∧ (f.diagnostic t).kind = f.kind

theorem transcript_of_path {outcome : Outcome} {past : List Effect}
    (path : DumpPath o transaction t (.returned outcome) past) :
    ∃ script, Transcript o transaction t script (.called (dumping transaction t) :: past)
      outcome := by
  cases path with
  | returned script fits =>
      refine ⟨script, fits, rfl, dumpOutcome_eq_ok, ?_, ?_⟩
      · simp [dumpOutcome_eq_ok, ← script.finish_iff o transaction t]
      · rintro f failed
        exact ⟨by rw [failed]; rfl, DumpFailure.kind_diagnostic t f⟩

/-- The dump of a registered target by call `i`, after some moves of which none gives it up. -/
structure Dumped (o : DumpOutput) (transaction : Transaction) (t : Target) (i : Nat)
    (moves : List Move) (m : Machine) : Prop where
  transcript : ∀ outcome, m.outcome? i = some outcome →
    ∃ script, Transcript o transaction t script (m.past i) outcome
  /-- Until it returns, it can act or waits for an answer, and any answer that fits will do. -/
  goes_on : m.outcome? i = none → (m.act? i).isSome ∨
    ∃ k q, m.pending? i = some (k, q) ∧ ∀ reply, Request.Takes q reply →
      (m.answer? i reply).isSome
  /-- It returns in the end, unless the rows go on for ever. -/
  few : moves.countP (Move.isOf i) ≤ 16 + 3 * (m.past i).countP Effect.isFile

theorem goes_on_of_path (call : m.calls[i]? = some c) (path : DumpPath o transaction t c past)
    (open_ : m.outcome? i = none) :
    (m.act? i).isSome ∨ ∃ k q, m.pending? i = some (k, q) ∧
      ∀ reply, Request.Takes q reply → (m.answer? i reply).isSome := by
  cases c with
  | ready p => exact .inl (by simp [act?, call])
  | waiting p k =>
      obtain ⟨q, asks, takes⟩ := path.answerable m.session
      exact .inr ⟨k, q, by simp [pending?, call, asks],
        fun reply fits => by simpa [answer?, call] using takes reply fits⟩
  | returned outcome => simp [outcome?, call] at open_
  | dropped => cases path

theorem Underway.dumped (h : Underway o transaction t i (moves.countP (Move.isOf i)) m) :
    Dumped o transaction t i moves m := by
  obtain ⟨c, past, stood, path, few⟩ := h.stands
  have call : m.calls[i]? = some c := call_of_getElem? stood
  have whole : m.past i = .called (dumping transaction t) :: past := (past_of_getElem? stood).symm
  refine ⟨fun outcome ended => ?_, fun open_ => ?_, ?_⟩
  · obtain rfl : c = .returned outcome := call_of_outcome? stood ended
    exact whole ▸ transcript_of_path path
  · exact goes_on_of_path call path open_
  · have brief : past.length ≤ 15 + 3 * past.countP Effect.isFile := path.brief
    rw [whole, List.countP_cons_of_neg (by simp [Effect.isFile])]
    omega

/-- Whatever the database and the file system answer, and whatever other calls do meanwhile. -/
theorem dump_transcript (reached : (make s).run? before = some m)
    (registered : m.session.dispatch.isRegistered t = true)
    (run : (m.call (dumping transaction t)).run? moves = some m')
    (kept : .drop m.calls.length ∉ moves) :
    Dumped m.session.dispatch.output transaction t m.calls.length moves m' := by
  have numbered : m.Numbered := (numbered_make s).run reached
  have underway := (underway_call numbered registered).run kept run
  rw [Nat.zero_add] at underway
  exact underway.dumped

/-- A table has been registered. -/
def enrolled : Machine :=
  ((make (.make .standard (.standard ⟨.standard, true⟩))).run?
    [.call (enrolling (.table "a" ⟨"p/a"⟩)), .act 0, .act 0, .answer 0 (.metadata (.named "a")),
      .act 0, .act 0]).get (by decide +kernel)

/-- A dump whose second fetch fails, and after it both closes. -/
def unread : List Move :=
  [.act 1, .act 1, .answer 1 .done, .act 1, .act 1, .answer 1 .done, .act 1, .answer 1 .done,
    .act 1, .answer 1 (.path (some "p/a/1")), .act 1, .act 1, .answer 1 (.failed (.io "reset")),
    .act 1, .answer 1 (.failed (.server "gone")), .act 1, .answer 1 (.failed (.server "gone"))]

theorem dump_transcript_unread :
    ∃ m', (enrolled.call (dumping ⟨0⟩ (.table "a" ⟨"p/a"⟩))).run? unread = some m' ∧
      m'.outcome? 1 = some (.error (.diagnostic (dumpDiagnostic "a" (.io "reset")))) ∧
      Dumped ⟨.standard, true⟩ ⟨0⟩ (.table "a" ⟨"p/a"⟩) 1 unread m' := by
  have run : ((enrolled.call (dumping ⟨0⟩ (.table "a" ⟨"p/a"⟩))).run? unread).isSome = true := by
    decide +kernel
  have registered : enrolled.session.dispatch.isRegistered (.table "a" ⟨"p/a"⟩) = true := by
    decide +kernel
  have dumped : Dumped _ ⟨0⟩ _ _ _ _ :=
    dump_transcript (Option.some_get _).symm registered (Option.some_get run).symm
      (by simp [unread])
  exact ⟨_, (Option.some_get run).symm, rfl, dumped⟩

end Machine

end DumpFlow.Session
