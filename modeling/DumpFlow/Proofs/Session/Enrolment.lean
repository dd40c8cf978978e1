import DumpFlow.Proofs.Registry
import DumpFlow.Proofs.Session.Release

/-!
Who has registered what. Between the look at what is registered and the registration itself other
calls may register the same key; the registration looks once more, so a key is registered by one
call, and only that call says so.
-/

namespace DumpFlow.Session

open Dispatch (keyOf)

def Effect.isInfo : Effect → Bool
  | .emitted (.info _ _ _) => true
  | _ => false

/-- What is known of a target at a point of its registration is of its kind. -/
def Point.Fits : Point → Prop
  | .register t .resolveTable => t.kind = .table
  | .register t .prepareQuery | .register t (.closeStatement _) => t.kind = .query
  | .register t (.enroll info) | .register t (.announce info) => Dispatch.Fits t info
  | _ => True

/-- What is known of a call that registers, by itself. -/
structure Registers (x : Thread) : Prop where
  called : ∀ p, .called p ∈ x.past → x.past.head? = some (.called p)
  stands : ∀ t p, x.call.point? = some (.register t p) →
    .called (registering t) ∈ x.past ∧ x.past.any Effect.isInfo = false
  live : ∀ t p, .called (registering t) ∈ x.past → x.call.point? = some p →
    ∃ r, p = .register t r
  fits : ∀ p, x.call.point? = some p → p.Fits
  told : x.past.any Effect.isInfo = true → x.call = .done

/-- It is this call that has registered the target, and it says so next or has said so. -/
def Enrolled (t : Target) (x : Thread) : Prop :=
  .called (registering t) ∈ x.past ∧
    ((∃ info, x.call = .ready (.register t (.announce info))) ∨
      x.past.any Effect.isInfo = true)

variable {settings : TransactionSettings} {dispatch : Dispatch} {m m' : Machine}
  {s s' : Session} {k i : Nat} {t u : Target} {c next : Call} {past effects : List Effect}
  {x y : Thread}

theorem Registers.target_unique (h : Registers x) (ht : .called (registering t) ∈ x.past)
    (hu : .called (registering u) ∈ x.past) : t = u := by
  have same := (h.called _ ht).symm.trans (h.called _ hu)
  simp only [registering, Option.some.injEq, Effect.called.injEq, Point.register.injEq] at same
  exact same.1

theorem Turn.of_register {p : RegisterPoint} (h : Turn s k c s' next effects)
    (goes : next.point? = some (.register t p)) :
    ∃ q, c.point? = some (.register t q) ∧ RegisterTurn s k t c s' next effects := by
  cases h with
  | register u turn =>
      obtain ⟨q, stands⟩ := turn.point
      have same : u = t := by
        cases turn <;> cases goes <;> rfl
      exact ⟨q, same ▸ stands, same ▸ turn⟩
  | begin turn => cases turn <;> cases goes
  | execute u turn => cases turn <;> cases goes
  | commit turn => cases turn <;> cases goes
  | close turn =>
      cases turn with
      | _ => cases goes
  | drop p stands => cases goes

theorem Turn.of_execute {p : ExecutePoint} (h : Turn s k c s' next effects)
    (goes : next.point? = some (.execute t p)) :
    (∃ q, c.point? = some (.execute t q)) ∧ ExecuteTurn s k t c s' next effects := by
  cases h with
  | register u turn => cases turn <;> cases goes
  | begin turn => cases turn <;> cases goes
  | execute u turn =>
      obtain ⟨q, stands⟩ := turn.point
      have same : u = t := by
        cases turn <;> cases goes <;> rfl
      subst same
      exact ⟨⟨q, stands⟩, turn⟩
  | commit turn => cases turn <;> cases goes
  | close turn => cases turn <;> cases goes
  | drop => cases goes

theorem Turn.stays_register {q : RegisterPoint} {p : Point} (h : Turn s k c s' next effects)
    (stands : c.point? = some (.register t q)) (goes : next.point? = some p) :
    ∃ r, p = .register t r := by
  cases h with
  | register u turn =>
      obtain ⟨q', stands'⟩ := turn.point
      cases stands.symm.trans stands'
      cases turn <;> cases goes <;> exact ⟨_, rfl⟩
  | begin turn =>
      obtain ⟨b, stands'⟩ := turn.point
      cases stands.symm.trans stands'
  | execute u turn =>
      obtain ⟨e, stands'⟩ := turn.point
      cases stands.symm.trans stands'
  | commit turn =>
      obtain ⟨o, stands'⟩ := turn.point
      cases stands.symm.trans stands'
  | close turn =>
      obtain ⟨o, stands'⟩ := turn.point
      cases stands.symm.trans stands'
  | drop => cases goes

theorem RegisterTurn.fits {p : Point} (h : RegisterTurn s k t c s' next effects)
    (before : ∀ p, c.point? = some p → p.Fits) (goes : next.point? = some p) : p.Fits := by
  cases h with
  | wrongState | refused | known | outrun | announce | missed | unprepared => cases goes
  | handled => cases goes; trivial
  | unknown =>
      cases goes
      cases kind : t.kind <;> exact kind
  | askTable | askPrepare | askClose => cases goes; exact before _ rfl
  | enrolled info =>
      cases goes
      exact before (.register t (.enroll info)) rfl
  | found =>
      cases goes
      exact before (.register t .resolveTable) rfl
  | prepared =>
      cases goes
      exact before (.register t .prepareQuery) rfl
  | closed ticket statement reply =>
      cases goes
      exact ⟨before (.register t (.closeStatement statement)) rfl, rfl⟩

theorem Turn.told (h : Turn s k c s' next effects) (told : effects.any Effect.isInfo = true) :
    ∃ t info, c = .ready (.register t (.announce info)) ∧ next = .done := by
  cases h with
  | register t turn =>
      cases turn with
      | announce info => exact ⟨t, info, rfl, rfl⟩
      | _ => cases told
  | begin turn => cases turn <;> cases told
  | execute t turn => cases turn <;> cases told
  | commit turn => cases turn <;> cases told
  | close turn => cases turn <;> cases told
  | drop => cases told

theorem isInfo_returns (next : Call) : (Machine.returns next).any Effect.isInfo = false := by
  cases next <;> rfl

theorem Registers.turn (h : Registers ⟨c, past⟩) (turn : Turn s k c s' next effects) :
    Registers ⟨next, past ++ (effects ++ Machine.returns next)⟩ where
  called p member := by
    have old := h.called p ((List.mem_append.mp member).resolve_right turn.not_called)
    rw [List.head?_append, old]
    rfl
  stands t p goes := by
    obtain ⟨q, stands, own⟩ := turn.of_register goes
    obtain ⟨called, untold⟩ := h.stands t q stands
    refine ⟨List.mem_append_left _ called, ?_⟩
    have silent : effects.any Effect.isInfo = false := by
      by_contra told
      obtain ⟨u, info, -, rfl⟩ := turn.told (by simpa using told)
      cases goes
    rw [List.any_append, List.any_append, untold, silent, isInfo_returns]
    rfl
  live t p member goes := by
    obtain ⟨q, live⟩ := turn.live
    have old := (List.mem_append.mp member).resolve_right turn.not_called
    obtain ⟨r, rfl⟩ := h.live t q old live
    exact turn.stays_register live goes
  fits p goes := by
    cases turn with
    | register t turn => exact turn.fits h.fits goes
    | begin turn => cases turn <;> cases goes <;> trivial
    | execute t turn => cases turn <;> cases goes <;> trivial
    | commit turn => cases turn <;> cases goes <;> trivial
    | close turn => cases turn <;> cases goes <;> trivial
    | drop => cases goes
  told told := by
    rw [List.any_append, List.any_append, isInfo_returns, Bool.or_false, Bool.or_eq_true] at told
    rcases told with old | new
    · obtain ⟨p, live⟩ := turn.live
      rw [show c = .done from h.told old] at live
      cases live
    · obtain ⟨u, info, -, done⟩ := turn.told new
      exact done

theorem Machine.Used.registers (h : Used settings dispatch m) : ∀ x ∈ m.threads, Registers x := by
  refine h.each ?_ fun s k c past s' next effects _ turn ih => ih.turn turn
  intro p entry
  constructor
  · intro q member
    rw [List.mem_singleton.mp member]
    rfl
  · intro t r stands
    cases entry <;> cases stands
    exact ⟨List.mem_singleton_self _, rfl⟩
  · intro t q member stands
    cases List.mem_singleton.mp member
    cases stands
    exact ⟨.checkState, rfl⟩
  · intro q stands
    cases entry <;> cases stands <;> trivial
  · exact nofun

/-- What a turn does to what is registered, and to who has registered it. -/
theorem Turn.enrols (h : Turn s k c s' next effects) :
    (s'.dispatch = s.dispatch ∧ ∀ t info, next ≠ .ready (.register t (.announce info))) ∨
      ∃ t info, c = .ready (.register t (.enroll info)) ∧
        s.dispatch.enroll? t info = some s'.dispatch ∧
        next = .ready (.register t (.announce info)) ∧ effects = [] := by
  cases h with
  | register t turn =>
      cases turn with
      | enrolled info dispatch new => exact .inr ⟨t, info, rfl, new, rfl, rfl⟩
      | unknown =>
          refine .inl ⟨rfl, fun u info same => ?_⟩
          cases kind : t.kind <;> rw [kind] at same <;> cases same
      | _ => exact .inl ⟨rfl, fun u info same => by cases same⟩
  | begin turn => cases turn <;> exact .inl ⟨rfl, fun u info same => by cases same⟩
  | execute t turn => cases turn <;> exact .inl ⟨rfl, fun u info same => by cases same⟩
  | commit turn => cases turn <;> exact .inl ⟨rfl, fun u info same => by cases same⟩
  | close turn => cases turn <;> exact .inl ⟨rfl, fun u info same => by cases same⟩
  | drop => exact .inl ⟨rfl, fun u info same => by cases same⟩

theorem Turn.of_announce {info : DumpInfo}
    (h : Turn s k (.ready (.register t (.announce info))) s' next effects) :
    (next = .done ∧ effects = [.emitted (.info t.label info t.destination)]) ∨ next = .dropped := by
  cases h with
  | register u turn => cases turn; exact .inl ⟨rfl, rfl⟩
  | begin turn => cases turn
  | execute u turn => cases turn
  | commit turn => cases turn
  | close turn => cases turn
  | drop => exact .inr rfl

/-- A registration that returns well leaves its target registered. -/
theorem Turn.has_key {p : RegisterPoint} (h : Turn s k c s' .done effects)
    (stands : c.point? = some (.register t p)) (fits : (Point.register t p).Fits) :
    s.dispatch.Has (keyOf t) ∨ ∃ info, c = .ready (.register t (.announce info)) := by
  cases h with
  | register u turn =>
      obtain ⟨q, stands'⟩ := turn.point
      cases stands.symm.trans stands'
      generalize goes : Call.done = n at turn
      cases turn with
      | known there => exact .inl (Dispatch.isRegistered_iff.mp there)
      | outrun info there =>
          cases stands
          exact .inl (Dispatch.enroll?_eq_none fits there)
      | announce info => exact .inr ⟨info, rfl⟩
      | _ => cases goes
  | begin turn =>
      obtain ⟨b, stands'⟩ := turn.point
      cases stands.symm.trans stands'
  | execute u turn =>
      obtain ⟨e, stands'⟩ := turn.point
      cases stands.symm.trans stands'
  | commit turn =>
      obtain ⟨o, stands'⟩ := turn.point
      cases stands.symm.trans stands'
  | close turn =>
      obtain ⟨o, stands'⟩ := turn.point
      cases stands.symm.trans stands'

namespace Machine

/-- What the keys that are registered have to do with the calls. -/
structure Enrolment (dispatch : Dispatch) (m : Machine) : Prop where
  kept : ∀ x ∈ m.threads, ∀ t, Enrolled t x ∨ x.call = .done ∧ .called (registering t) ∈ x.past →
    m.session.dispatch.Has (keyOf t)
  once : ∀ (i j : Nat) x y t u, m.threads[i]? = some x → m.threads[j]? = some y → Enrolled t x →
    Enrolled u y → keyOf t = keyOf u → i = j
  source : ∀ key, m.session.dispatch.Has key → dispatch.Has key ∨
    ∃ x ∈ m.threads, ∃ t, keyOf t = key ∧ .called (registering t) ∈ x.past ∧
      (Enrolled t x ∨ x.call = .dropped)

/-- A call has registered its target already before a turn in which it does not do so. -/
theorem Moved.enrolled_before (moved : Moved m i x effects y m') (registers : Registers x)
    (other : ∀ t info, y.call ≠ .ready (.register t (.announce info))) (h : Enrolled t y) :
    Enrolled t x := by
  have called : .called (registering t) ∈ x.past := by
    have member := h.1
    rw [moved.past] at member
    exact (List.mem_append.mp member).resolve_right moved.turn.not_called
  refine ⟨called, ?_⟩
  rcases h.2 with ⟨info, stands⟩ | told
  · exact absurd stands (other t info)
  · rw [moved.past, List.any_append, List.any_append, isInfo_returns, Bool.or_false,
      Bool.or_eq_true] at told
    rcases told with old | new
    · exact .inr old
    · obtain ⟨u, info, stands, -⟩ := moved.turn.told new
      obtain ⟨called', -⟩ := registers.stands u (.announce info) (by rw [stands]; rfl)
      obtain rfl := registers.target_unique called called'
      exact .inl ⟨info, stands⟩

/-- A call that has registered its target still has, unless it is dropped before it says so. -/
theorem Moved.enrolled_after (moved : Moved m i x effects y m') (h : Enrolled t x) :
    Enrolled t y ∨ y.call = .dropped := by
  have called : .called (registering t) ∈ y.past := by
    rw [moved.past]
    exact List.mem_append_left _ h.1
  rcases h.2 with ⟨info, stands⟩ | told
  · have turn := moved.turn
    rw [stands] at turn
    rcases turn.of_announce with ⟨-, same⟩ | gone
    · refine .inl ⟨called, .inr ?_⟩
      rw [moved.past, same]
      simp [Effect.isInfo]
    · exact .inr gone
  · refine .inl ⟨called, .inr ?_⟩
    rw [moved.past, List.any_append, told]
    rfl

theorem enrolment_start (settings : TransactionSettings) (dispatch : Dispatch) :
    Enrolment dispatch (make (.make settings dispatch)) where
  kept x member := by cases member
  once i j x y t u stood := by
    rw [show (make (.make settings dispatch)).threads = [] from rfl] at stood
    cases stood
  source key there := .inl there

theorem Enrolment.call {p : Point} (h : Enrolment dispatch m) (used : Used settings dispatch m) :
    Enrolment dispatch (m.call p) := by
  have not_enrolled : ∀ t, ¬ Enrolled t ⟨.ready p, [.called p]⟩ := by
    rintro t ⟨called, ⟨info, stands⟩ | told⟩
    · cases stands
      cases List.mem_singleton.mp called
    · cases told
  have known : ∀ {j : Nat} {z : Thread} {t : Target}, (m.call p).threads[j]? = some z →
      Enrolled t z → m.threads[j]? = some z := by
    intro j z t stood enrolled
    rw [used.threads_call, List.getElem?_append] at stood
    split at stood
    · exact stood
    · rw [List.mem_singleton.mp (List.mem_of_getElem? stood)] at enrolled
      exact absurd enrolled (not_enrolled t)
  constructor
  · intro x member t has
    rw [used.threads_call] at member
    rcases List.mem_append.mp member with old | new
    · exact h.kept x old t has
    · rw [List.mem_singleton.mp new] at has
      rcases has with enrolled | ⟨done, -⟩
      · exact absurd enrolled (not_enrolled t)
      · cases done
  · intro i j x y t u hx hy ex ey same
    exact h.once i j x y t u (known hx ex) (known hy ey) ex ey same
  · intro key there
    refine (h.source key there).imp_right fun ⟨x, member, found⟩ => ⟨x, ?_, found⟩
    rw [used.threads_call]
    exact List.mem_append_left _ member

/-- A registration that returns well leaves its target registered, whoever has registered it. -/
theorem Enrolment.kept_of_done (h : Enrolment dispatch m) (member : x ∈ m.threads)
    (registers : Registers x) (called : .called (registering t) ∈ x.past)
    (turn : Turn m.session k x.call s' .done effects) : m.session.dispatch.Has (keyOf t) := by
  obtain ⟨p, stands⟩ := turn.live
  obtain ⟨r, rfl⟩ := registers.live t p called stands
  rcases turn.has_key stands (registers.fits _ stands) with there | ⟨info, announces⟩
  · exact there
  · exact h.kept x member t (.inl ⟨called, .inl ⟨info, announces⟩⟩)

theorem Enrolment.quiet (h : Enrolment dispatch m) (used : Used settings dispatch m)
    (moved : Moved m i x effects y m') (same : m'.session.dispatch = m.session.dispatch)
    (other : ∀ t info, y.call ≠ .ready (.register t (.announce info))) :
    Enrolment dispatch m' := by
  have registers := used.registers x moved.mem
  have before : ∀ {j : Nat} {z : Thread} {t : Target}, m'.threads[j]? = some z → Enrolled t z →
      ∃ z', m.threads[j]? = some z' ∧ Enrolled t z' := by
    intro j z t stood enrolled
    rcases moved.cases stood with ⟨rfl, rfl⟩ | ⟨-, stood⟩
    · exact ⟨x, moved.stood, moved.enrolled_before registers other enrolled⟩
    · exact ⟨z, stood, enrolled⟩
  constructor
  · intro z member t has
    rw [same]
    rcases moved.mem_cases member with rfl | old
    · rcases has with enrolled | ⟨done, called⟩
      · exact h.kept x moved.mem t (.inl (moved.enrolled_before registers other enrolled))
      · rw [moved.past] at called
        have called := (List.mem_append.mp called).resolve_right moved.turn.not_called
        have turn := moved.turn
        rw [done] at turn
        exact h.kept_of_done moved.mem registers called turn
    · exact h.kept z old t has
  · intro j j' z z' t u hz hz' ez ez' key
    obtain ⟨w, hw, ew⟩ := before hz ez
    obtain ⟨w', hw', ew'⟩ := before hz' ez'
    exact h.once j j' w w' t u hw hw' ew ew' key
  · intro key there
    rw [same] at there
    refine (h.source key there).imp_right fun ⟨z, member, t, key, called, found⟩ => ?_
    rcases moved.eq_or_mem member with rfl | still
    · refine ⟨y, moved.mem', t, key, moved.past ▸ List.mem_append_left _ called, ?_⟩
      rcases found with enrolled | gone
      · exact moved.enrolled_after enrolled
      · obtain ⟨p, live⟩ := moved.turn.live
        rw [gone] at live
        cases live
    · exact ⟨z, still, t, key, called, found⟩

theorem Enrolment.enrol {info : DumpInfo} (h : Enrolment dispatch m)
    (used : Used settings dispatch m) (moved : Moved m i x effects y m')
    (stands : x.call = .ready (.register t (.enroll info)))
    (new : m.session.dispatch.enroll? t info = some m'.session.dispatch)
    (goes : y.call = .ready (.register t (.announce info))) : Enrolment dispatch m' := by
  have registers := used.registers x moved.mem
  obtain ⟨called, untold⟩ := registers.stands t (.enroll info) (by rw [stands]; rfl)
  have fits : Dispatch.Fits t info :=
    registers.fits (.register t (.enroll info)) (by rw [stands]; rfl)
  obtain ⟨fresh, grown⟩ := Dispatch.enroll?_eq_some fits new
  have registers' := registers.turn moved.turn
  rw [← moved.past] at registers'
  have enrolled : Enrolled t y := ⟨moved.past ▸ List.mem_append_left _ called, .inl ⟨info, goes⟩⟩
  have only : ∀ u, .called (registering u) ∈ y.past → u = t := fun u called' =>
    registers'.target_unique called' enrolled.1
  constructor
  · intro z member u has
    rcases moved.mem_cases member with rfl | old
    · have called' : .called (registering u) ∈ z.past := has.elim And.left And.right
      exact (grown _).mpr (.inl (congrArg keyOf (only u called')))
    · exact (grown _).mpr (.inr (h.kept z old u has))
  · intro j j' z z' u u' hz hz' ez ez' key
    rcases moved.cases hz with ⟨rfl, rfl⟩ | ⟨other, hz⟩
    · rcases moved.cases hz' with ⟨rfl, rfl⟩ | ⟨other', hz'⟩
      · rfl
      · obtain rfl := only u ez.1
        exact absurd (h.kept z' (List.mem_of_getElem? hz') u' (.inl ez')) (key ▸ fresh)
    · rcases moved.cases hz' with ⟨rfl, rfl⟩ | ⟨other', hz'⟩
      · obtain rfl := only u' ez'.1
        exact absurd (h.kept z (List.mem_of_getElem? hz) u (.inl ez)) (key ▸ fresh)
      · exact h.once j j' z z' u u' hz hz' ez ez' key
  · intro key there
    rcases (grown key).mp there with rfl | old
    · exact .inr ⟨y, moved.mem', t, rfl, enrolled.1, .inl enrolled⟩
    · refine (h.source key old).imp_right fun ⟨z, member, u, key, called', found⟩ => ?_
      rcases moved.eq_or_mem member with rfl | still
      · obtain rfl := registers.target_unique called' called
        exact ⟨y, moved.mem', u, key, enrolled.1, .inl enrolled⟩
      · exact ⟨z, still, u, key, called', found⟩

theorem Used.enrolment (h : Used settings dispatch m) : Enrolment dispatch m := by
  refine h.keep (enrolment_start settings dispatch) ?_ ?_
  · exact fun m p used _ ih => ih.call used
  · intro m i x effects y m' used _ moved ih
    rcases moved.turn.enrols with ⟨same, other⟩ | ⟨t, info, stands, new, goes, -⟩
    · exact ih.quiet used moved same other
    · exact ih.enrol used moved stands new goes

end Machine

end DumpFlow.Session
