import DumpFlow.Proofs.Session.Enrolment

/-!
What a registration has done, from where it stands. A call that is about to enroll its target has
asked the database about it and was answered well, however it was called and whatever the others
did meanwhile.
-/

namespace DumpFlow.Session

open Dispatch (keyOf queryKey)

/-- What has been found out about a target, and how. -/
inductive Learned (t : Target) : DumpInfo → List Effect → Prop where
  | table (k : Nat) (metadata : TableMetadata) : t.kind = .table →
      Learned t (.table metadata)
        [.issued k (.tableMetadata t.subject), .answered k (.metadata metadata)]
  /-- Whether the statement could be closed does not matter. -/
  | query (k k' : Nat) (reply : Reply) : t.kind = .query →
      Learned t (.query (queryKey t))
        [.issued k (.prepare (queryKey t)), .answered k .done,
          .issued k' (.closeStatement ⟨k, queryKey t⟩), .answered k' reply]

/-- Where a registration of `t` stands that was called at `entry`, and all that it has done. -/
inductive RegisterTrail (t : Target) (entry : Point) : Call → List Effect → Prop where
  | checkState : RegisterTrail t entry (.ready (.register t .checkState)) [.called entry]
  | lookUp : RegisterTrail t entry (.ready (.register t .lookUp)) [.called entry]
  | resolve : t.kind = .table →
      RegisterTrail t entry (.ready (.register t .resolveTable)) [.called entry]
  | resolving (k : Nat) : t.kind = .table →
      RegisterTrail t entry (.waiting (.register t .resolveTable) k)
        [.called entry, .issued k (.tableMetadata t.subject)]
  | prepare : t.kind = .query →
      RegisterTrail t entry (.ready (.register t .prepareQuery)) [.called entry]
  | preparing (k : Nat) : t.kind = .query →
      RegisterTrail t entry (.waiting (.register t .prepareQuery) k)
        [.called entry, .issued k (.prepare (queryKey t))]
  | close (k : Nat) : t.kind = .query →
      RegisterTrail t entry (.ready (.register t (.closeStatement ⟨k, queryKey t⟩)))
        [.called entry, .issued k (.prepare (queryKey t)), .answered k .done]
  | closing (k k' : Nat) : t.kind = .query →
      RegisterTrail t entry (.waiting (.register t (.closeStatement ⟨k, queryKey t⟩)) k')
        [.called entry, .issued k (.prepare (queryKey t)), .answered k .done,
          .issued k' (.closeStatement ⟨k, queryKey t⟩)]
  | enroll {info : DumpInfo} {learned : List Effect} : Learned t info learned →
      RegisterTrail t entry (.ready (.register t (.enroll info))) (.called entry :: learned)
  | announce {info : DumpInfo} {learned : List Effect} : Learned t info learned →
      RegisterTrail t entry (.ready (.register t (.announce info))) (.called entry :: learned)
  | announced {info : DumpInfo} {learned : List Effect} : Learned t info learned →
      RegisterTrail t entry .done (.called entry :: (learned ++
        [.emitted (.info t.label info t.destination), .returned (.ok ())]))
  | outrun {info : DumpInfo} {learned : List Effect} : Learned t info learned →
      RegisterTrail t entry .done (.called entry :: (learned ++ [.returned (.ok ())]))
  | known : RegisterTrail t entry .done [.called entry, .returned (.ok ())]
  | failed (fault : DumpFault) (told : List Effect) : emittedIn told = [] →
      (∀ p, .called p ∉ told) →
      RegisterTrail t entry (.fault fault)
        (.called entry :: (told ++ [.returned (.error fault)]))
  | dropped {c : Call} {p : Point} {past : List Effect} : c.point? = some p →
      RegisterTrail t entry c past → RegisterTrail t entry .dropped (past ++ [.dropped])

variable {settings : TransactionSettings} {dispatch : Dispatch} {m : Machine}
  {s s' : Session} {k : Nat} {t : Target} {entry : Point} {c next : Call}
  {past effects learned : List Effect} {info : DumpInfo}

theorem Learned.fits (h : Learned t info learned) : Dispatch.Fits t info := by
  cases h with
  | table k metadata kind => exact kind
  | query k k' reply kind => exact ⟨kind, rfl⟩

theorem Learned.silent (h : Learned t info learned) : emittedIn learned = [] := by
  cases h <;> rfl

theorem Learned.not_called (h : Learned t info learned) (p : Point) : .called p ∉ learned := by
  cases h <;> simp

theorem RegisterTrail.turn (h : RegisterTrail t entry c past)
    (turn : Turn s k c s' next effects) :
    RegisterTrail t entry next (past ++ (effects ++ Machine.returns next)) := by
  cases turn with
  | register u turn =>
      cases turn with
      | wrongState => cases h; exact .failed _ [] rfl fun _ => List.not_mem_nil
      | refused => cases h; exact .failed _ [] rfl fun _ => List.not_mem_nil
      | handled => cases h; exact .lookUp
      | known => cases h; exact .known
      | unknown =>
          cases h
          cases kind : t.kind with
          | table => exact .resolve kind
          | query => exact .prepare kind
      | askTable => cases h with | resolve kind => exact .resolving k kind
      | askPrepare => cases h with | prepare kind => exact .preparing k kind
      | askClose => cases h with | close ticket kind => exact .closing ticket k kind
      | enrolled =>
          cases h with
          | enroll learned => simpa [Machine.returns] using RegisterTrail.announce learned
      | outrun => cases h with | enroll learned => exact .outrun learned
      | announce => cases h with | announce learned => exact .announced learned
      | found ticket metadata =>
          cases h with | resolving _ kind => exact .enroll (.table ticket metadata kind)
      | missed ticket fault =>
          cases h with
          | resolving =>
              exact .failed _ [.issued ticket (.tableMetadata t.subject),
                .answered ticket (.failed fault)] rfl (by simp)
      | prepared ticket => cases h with | preparing _ kind => exact .close ticket kind
      | unprepared ticket fault =>
          cases h with
          | preparing =>
              exact .failed _ [.issued ticket (.prepare (queryKey t)),
                .answered ticket (.failed fault)] rfl (by simp)
      | closed ticket statement reply =>
          cases h with | closing k' _ kind => exact .enroll (.query k' ticket reply kind)
  | begin turn => cases turn <;> cases h
  | execute u turn => cases turn <;> cases h
  | commit turn => cases turn <;> cases h
  | close turn => cases turn <;> cases h
  | drop p stands => exact .dropped stands h

/-- A registration that stands before its enrolment has learned what it enrolls. -/
theorem RegisterTrail.of_enroll
    (h : RegisterTrail t entry (.ready (.register t (.enroll info))) past) :
    ∃ learned, Learned t info learned ∧ past = .called entry :: learned := by
  cases h with
  | enroll found => exact ⟨_, found, rfl⟩

namespace Machine

theorem Used.registerTrail (h : Used settings dispatch m) : ∀ x ∈ m.threads, ∀ t,
    .called (registering t) ∈ x.past → RegisterTrail t (registering t) x.call x.past := by
  refine h.each (Q := fun x => ∀ t, .called (registering t) ∈ x.past →
    RegisterTrail t (registering t) x.call x.past) ?_ ?_
  · intro p _ t called
    cases List.mem_singleton.mp called
    exact .checkState
  · intro s k c past s' next effects _ turn ih t called
    exact (ih t ((List.mem_append.mp called).resolve_right turn.not_called)).turn turn

end Machine

end DumpFlow.Session
