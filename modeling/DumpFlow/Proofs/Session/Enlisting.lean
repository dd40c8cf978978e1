import DumpFlow.Session.Handler
import DumpFlow.Proofs.Session.Registration

/-!
Targets that are registered on a dispatch itself, by calls that overlap. Several calls may find the
same key unregistered and ask the database about it, and may be answered differently; the look that
each of them takes when it enrolls its target decides which of them it is that registers the key,
and that one tells of it.
-/

namespace DumpFlow.Session

open Dispatch (keyOf queryKey)

/-- It is this call that has registered the target with what it knows of it, and it says so next or
has said so. -/
def Enlists (t : Target) (info : DumpInfo) (x : Thread) : Prop :=
  .called (enrolling t) ∈ x.past ∧
    (x.call = .ready (.register t (.announce info)) ∨
      .emitted (.info t.label info t.destination) ∈ x.past)

/-- A call that has not asked for anything and told of nothing. -/
inductive Untouched (t : Target) : Thread → Prop where
  | unlooked : Untouched t ⟨.ready (enrolling t), [.called (enrolling t)]⟩
  | known : Untouched t ⟨.done, [.called (enrolling t), .returned (.ok ())]⟩
  | dropped : Untouched t ⟨.dropped, [.called (enrolling t), .dropped]⟩

namespace Machine

/-- The machine after some moves of users who register targets on its dispatch, and who give up a
call only before it has begun or while it waits. -/
inductive Enlisting (m₀ : Machine) : Machine → Prop where
  | start : Enlisting m₀ m₀
  | call {m : Machine} (t : Target) : Enlisting m₀ m → Enlisting m₀ (m.call (enrolling t))
  | act {m m' : Machine} (i : Nat) : Enlisting m₀ m → m.act? i = some m' → Enlisting m₀ m'
  | answer {m m' : Machine} (i : Nat) (reply : Reply) : Enlisting m₀ m →
      m.answer? i reply = some m' → Enlisting m₀ m'
  | drop {m m' : Machine} (i : Nat) : Enlisting m₀ m →
      (∀ p, m.calls[i]? = some (.ready p) → ∃ t, p = enrolling t) → m.drop? i = some m' →
      Enlisting m₀ m'

/-- The key of the target that a call has been made for. -/
def key? (m : Machine) (i : Nat) : Option (TargetKind × String) :=
  match m.past i with
  | .called (.register t _) :: _ => some (keyOf t)
  | _ => none

/-- How often the monitor was told of a target with this key. -/
def told (m : Machine) (key : TargetKind × String) : Nat :=
  m.record.countP fun e => e.effect.isInfo && decide (m.key? e.call = some key)

end Machine

variable {m₀ m m' : Machine} {s s' : Session} {k i j : Nat} {t u : Target} {c next : Call}
  {p entry : Point} {past effects learned : List Effect} {info info' : DumpInfo} {x y : Thread}
  {event : MonitorEvent} {output : DumpOutput}

theorem RegisterTrail.head (h : RegisterTrail t entry c past) :
    past.head? = some (.called entry) := by
  induction h with
  | dropped _ _ ih => simp [List.head?_append, ih]
  | _ => rfl

theorem RegisterTrail.called (h : RegisterTrail t entry c past) : .called p ∈ past ↔ p = entry := by
  induction h with
  | enroll learned | announce learned => simp [learned.not_called]
  | announced learned | outrun learned => simp [learned.not_called]
  | failed fault _ silent not_called => simp [not_called]
  | dropped _ _ ih => simp [ih]
  | _ => simp

theorem RegisterTrail.silent (h : RegisterTrail t entry c past) (live : c.point? = some p) :
    emittedIn past = [] := by
  cases h with
  | enroll learned | announce learned => exact learned.silent
  | announced | outrun | known | failed | dropped => cases live
  | _ => rfl

theorem not_mem_of_emittedIn (silent : emittedIn past = []) (event : MonitorEvent) :
    .emitted event ∉ past := by
  intro member
  have told : event ∈ emittedIn past := List.mem_filterMap.mpr ⟨_, member, rfl⟩
  simp [silent] at told

theorem RegisterTrail.not_told (h : RegisterTrail t entry c past) (live : c.point? = some p)
    (event : MonitorEvent) : .emitted event ∉ past :=
  not_mem_of_emittedIn (h.silent live) event

/-- A call that has told of something has registered its target and is done. -/
theorem RegisterTrail.of_emitted (h : RegisterTrail t entry c past)
    (told : .emitted event ∈ past) :
    ∃ info learned, Learned t info learned ∧ c = .done ∧
      event = .info t.label info t.destination ∧
      past = .called entry :: (learned ++ [.emitted event, .returned (.ok ())]) := by
  cases h with
  | announced learned =>
      have silent := not_mem_of_emittedIn learned.silent event
      obtain rfl : event = .info t.label _ t.destination := by simpa [silent] using told
      exact ⟨_, _, learned, rfl, rfl, rfl⟩
  | outrun learned =>
      have silent := not_mem_of_emittedIn learned.silent event
      simp [silent] at told
  | failed fault _ silent =>
      have silent := not_mem_of_emittedIn silent event
      simp [silent] at told
  | dropped live trail =>
      have silent := trail.not_told live event
      simp [silent] at told
  | known => simp at told
  | enroll learned | announce learned =>
      have silent := not_mem_of_emittedIn learned.silent event
      simp [silent] at told
  | _ => simp at told

theorem RegisterTrail.of_announce
    (h : RegisterTrail t entry (.ready (.register u (.announce info))) past) :
    u = t ∧ ∃ learned, Learned t info learned ∧ past = .called entry :: learned := by
  cases h with
  | announce learned => exact ⟨rfl, _, learned, rfl⟩

theorem enrolling_inj (h : enrolling t = enrolling u) : t = u := by
  cases h
  rfl

/-- A registration that is under way stands at a point of its own, with what fits its target. -/
theorem RegisterTrail.stands (h : RegisterTrail t entry c past) (live : c.point? = some p) :
    (∃ q, p = .register t q) ∧ p.Fits := by
  cases h with
  | checkState | lookUp => cases live; exact ⟨⟨_, rfl⟩, trivial⟩
  | resolve kind | resolving _ kind | prepare kind | preparing _ kind | close _ kind
  | closing _ _ kind =>
      cases live
      exact ⟨⟨_, rfl⟩, kind⟩
  | enroll learned | announce learned =>
      cases live
      exact ⟨⟨_, rfl⟩, learned.fits⟩
  | announced | outrun | known | failed | dropped => cases live

theorem RegisterTrail.of_enlists (h : RegisterTrail t (enrolling t) c past)
    (enlists : Enlists t info ⟨c, past⟩) : ∃ learned, Learned t info learned ∧
      ((c = .ready (.register t (.announce info)) ∧ past = .called (enrolling t) :: learned) ∨
        c = .done ∧ past = .called (enrolling t) ::
          (learned ++ [.emitted (.info t.label info t.destination), .returned (.ok ())])) := by
  rcases enlists.2 with stands | told
  · obtain rfl : c = .ready (.register t (.announce info)) := stands
    obtain ⟨-, learned, found, same⟩ := h.of_announce
    exact ⟨learned, found, .inl ⟨rfl, same⟩⟩
  · obtain ⟨info', learned, found, done, event, same⟩ := h.of_emitted told
    cases event
    exact ⟨learned, found, .inr ⟨done, same⟩⟩

/-- A call has registered its target already before a turn in which it does not do so. -/
theorem Enlists.before (trail : RegisterTrail t (enrolling t) c past)
    (turn : Turn s k c s' next effects)
    (other : ∀ u info, next ≠ .ready (.register u (.announce info)))
    (h : Enlists t info ⟨next, past ++ (effects ++ Machine.returns next)⟩) :
    Enlists t info ⟨c, past⟩ := by
  obtain ⟨p, live⟩ := turn.live
  refine ⟨trail.called.mpr rfl, .inl ?_⟩
  have told := h.2.resolve_left (other t info)
  have new := (List.mem_append.mp told).resolve_left (trail.not_told live _)
  have now : .emitted (.info t.label info t.destination) ∈ effects := by
    refine (List.mem_append.mp new).resolve_right fun back => ?_
    cases next <;> simp [Machine.returns] at back
  obtain ⟨u, info', stands, -⟩ := turn.told (List.any_eq_true.mpr ⟨_, now, rfl⟩)
  subst stands
  obtain ⟨rfl, -⟩ := trail.of_announce
  rcases turn.of_announce with ⟨-, rfl⟩ | rfl
  · cases List.mem_singleton.mp now
    rfl
  · obtain ⟨-, rfl⟩ := turn.of_dropped
    cases List.mem_singleton.mp now

/-- A call that has registered its target still has, if it is not dropped before it says so. -/
theorem Enlists.after (turn : Turn s k c s' next effects)
    (kept : ∀ u info, c = .ready (.register u (.announce info)) → next ≠ .dropped)
    (h : Enlists t info ⟨c, past⟩) :
    Enlists t info ⟨next, past ++ (effects ++ Machine.returns next)⟩ := by
  refine ⟨List.mem_append_left _ h.1, .inr ?_⟩
  rcases h.2 with stands | told
  · obtain rfl : c = .ready (.register t (.announce info)) := stands
    rcases turn.of_announce with ⟨-, rfl⟩ | gone
    · exact List.mem_append_right _ (List.mem_append_left _ (List.mem_singleton_self _))
    · exact absurd gone (kept t info rfl)
  · exact List.mem_append_left _ told

/-- A call for a registered key ends with the look that it takes first. -/
theorem Turn.of_lookUp (h : Turn s k (.ready (enrolling t)) s' next effects)
    (there : s.dispatch.Has (keyOf t)) :
    (next = .done ∧ effects = []) ∨ next = .dropped ∧ effects = [.dropped] := by
  cases h with
  | register u turn =>
      cases turn with
      | known => exact .inl ⟨rfl, rfl⟩
      | unknown missing =>
          rw [Dispatch.isRegistered_iff.mpr there] at missing
          cases missing
  | begin turn => cases turn
  | execute u turn => cases turn
  | commit turn => cases turn
  | close turn => cases turn
  | drop => exact .inr ⟨rfl, rfl⟩

theorem Untouched.turn (h : Untouched t ⟨c, past⟩) (turn : Turn s k c s' next effects)
    (there : s.dispatch.Has (keyOf t)) :
    Untouched t ⟨next, past ++ (effects ++ Machine.returns next)⟩ := by
  cases h with
  | unlooked =>
      rcases turn.of_lookUp there with ⟨rfl, rfl⟩ | ⟨rfl, rfl⟩
      · exact .known
      · exact .dropped
  | known | dropped =>
      obtain ⟨p, live⟩ := turn.live
      cases live

namespace Machine

theorem Enlisting.keep {P : Machine → Prop} (h : Enlisting m₀ m) (start : P m₀)
    (call : ∀ m t, P m → P (m.call (enrolling t)))
    (turn : ∀ m i x effects y m', Moved m i x effects y m' →
      (∀ t info, x.call = .ready (.register t (.announce info)) → y.call ≠ .dropped) →
      P m → P m') : P m := by
  induction h with
  | start => exact start
  | call t _ ih => exact call _ t ih
  | act i _ hs ih =>
      obtain ⟨_, x, effects, y, -, kept, moved⟩ := act?_moved hs
      refine turn _ i x effects y _ moved (fun _ _ _ gone => ?_) ih
      have turn := moved.turn
      rw [gone] at turn
      exact kept turn.of_dropped.2
  | answer i reply _ hs ih =>
      obtain ⟨_, _, x, y, waits, moved⟩ := answer?_moved hs
      refine turn _ i x _ y _ moved (fun t info stands => ?_) ih
      rw [waits] at stands
      cases stands
  | drop i _ paused hs ih =>
      obtain ⟨x, effects, y, moved⟩ := drop?_moved hs
      refine turn _ i x effects y _ moved (fun t info stands => ?_) ih
      obtain ⟨u, same⟩ := paused _ (stands ▸ call_of_getElem? moved.stood)
      cases same

/-- What is registered and who has registered it. -/
structure Roll (m : Machine) : Prop where
  numbered : m.Numbered
  trails : ∀ x ∈ m.threads, ∃ t, RegisterTrail t (enrolling t) x.call x.past
  kept : ∀ x ∈ m.threads, ∀ t info, Enlists t info x → m.session.dispatch.Holds t info
  once : ∀ (i j : Nat) x y t u info info', m.threads[i]? = some x → m.threads[j]? = some y →
    Enlists t info x → Enlists u info' y → keyOf t = keyOf u → i = j
  source : ∀ key, m.session.dispatch.Has key →
    ∃ x ∈ m.threads, ∃ t info, keyOf t = key ∧ Enlists t info x
  done : ∀ x ∈ m.threads, ∀ t, .called (enrolling t) ∈ x.past → x.call = .done →
    m.session.dispatch.Has (keyOf t)

theorem Roll.target_eq (h : m.Roll) (member : x ∈ m.threads) (called : .called p ∈ x.past) :
    ∃ t, p = enrolling t ∧ RegisterTrail t (enrolling t) x.call x.past := by
  obtain ⟨t, trail⟩ := h.trails x member
  exact ⟨t, trail.called.mp called, trail⟩

theorem Roll.trail (h : m.Roll) (member : x ∈ m.threads) (called : .called (enrolling t) ∈ x.past) :
    RegisterTrail t (enrolling t) x.call x.past := by
  obtain ⟨u, same, trail⟩ := h.target_eq member called
  exact enrolling_inj same ▸ trail

theorem Roll.has (h : m.Roll) (member : x ∈ m.threads) (enlists : Enlists t info x) :
    m.session.dispatch.Has (keyOf t) := by
  obtain ⟨learned, found, -⟩ := (h.trail member enlists.1).of_enlists enlists
  exact (h.kept x member t info enlists).has found.fits

theorem roll_make (empty : s.dispatch = .standard output) : (make s).Roll where
  numbered e member := by cases member
  trails x member := by cases member
  kept x member := by cases member
  once i j x y t u info info' stood := by
    rw [show (make s).threads = [] from rfl] at stood
    cases stood
  source key there := by
    rw [show (make s).session.dispatch = s.dispatch from rfl, empty] at there
    exact absurd there Dispatch.not_has_standard
  done x member := by cases member

theorem Roll.call (h : m.Roll) (t : Target) : (m.call (enrolling t)).Roll := by
  have threads := threads_call h.numbered (enrolling t)
  have not_enlists : ∀ u info,
      ¬ Enlists u info ⟨.ready (enrolling t), [.called (enrolling t)]⟩ := by
    rintro u info ⟨-, stands | told⟩
    · cases stands
    · cases List.mem_singleton.mp told
  have known : ∀ {j : Nat} {z : Thread} {u : Target} {info : DumpInfo},
      (m.call (enrolling t)).threads[j]? = some z → Enlists u info z →
      m.threads[j]? = some z := by
    intro j z u info stood enlists
    rw [threads, List.getElem?_append] at stood
    split at stood
    · exact stood
    · rw [List.mem_singleton.mp (List.mem_of_getElem? stood)] at enlists
      exact absurd enlists (not_enlists u info)
  have member_cases : ∀ {x : Thread}, x ∈ (m.call (enrolling t)).threads →
      x ∈ m.threads ∨ x = ⟨.ready (enrolling t), [.called (enrolling t)]⟩ := by
    intro x member
    rw [threads] at member
    exact (List.mem_append.mp member).imp_right List.mem_singleton.mp
  constructor
  · exact numbered_call h.numbered _
  · intro x member
    rcases member_cases member with old | rfl
    · exact h.trails x old
    · exact ⟨t, .lookUp⟩
  · intro x member u info enlists
    rcases member_cases member with old | rfl
    · exact h.kept x old u info enlists
    · exact absurd enlists (not_enlists u info)
  · intro i j x y u u' info info' hx hy ex ey same
    exact h.once i j x y u u' info info' (known hx ex) (known hy ey) ex ey same
  · intro key there
    obtain ⟨x, member, found⟩ := h.source key there
    exact ⟨x, threads ▸ List.mem_append_left _ member, found⟩
  · intro x member u called done
    rcases member_cases member with old | rfl
    · exact h.done x old u called done
    · cases done

/-- A turn in which nothing is registered. -/
theorem Roll.quiet (h : m.Roll) (moved : Moved m i x effects y m')
    (kept : ∀ t info, x.call = .ready (.register t (.announce info)) → y.call ≠ .dropped)
    (same : m'.session.dispatch = m.session.dispatch)
    (other : ∀ t info, y.call ≠ .ready (.register t (.announce info))) : m'.Roll := by
  obtain ⟨t, trail⟩ := h.trails x moved.mem
  have trail' := trail.turn moved.turn
  rw [← moved.past] at trail'
  have only {u : Target} (called : .called (enrolling u) ∈ y.past) : u = t :=
    enrolling_inj (trail'.called.mp called)
  have before {u : Target} {info : DumpInfo} (enlists : Enlists u info y) : Enlists u info x := by
    obtain rfl := only enlists.1
    refine Enlists.before trail moved.turn other ?_
    rwa [← moved.past]
  have after {u : Target} {info : DumpInfo} (enlists : Enlists u info x) : Enlists u info y := by
    have now := enlists.after moved.turn kept
    rwa [← moved.past] at now
  constructor
  · exact moved.numbered h.numbered
  · intro z member
    rcases moved.mem_cases member with rfl | old
    · exact ⟨t, trail'⟩
    · exact h.trails z old
  · intro z member u info enlists
    rw [same]
    rcases moved.mem_cases member with rfl | old
    · exact h.kept x moved.mem u info (before enlists)
    · exact h.kept z old u info enlists
  · have back : ∀ {j : Nat} {z : Thread} {u : Target} {info : DumpInfo},
        m'.threads[j]? = some z → Enlists u info z →
        ∃ z', m.threads[j]? = some z' ∧ Enlists u info z' := by
      intro j z u info stood enlists
      rcases moved.cases stood with ⟨rfl, rfl⟩ | ⟨-, stood⟩
      · exact ⟨x, moved.stood, before enlists⟩
      · exact ⟨z, stood, enlists⟩
    intro j j' z z' u u' info info' hz hz' ez ez' key
    obtain ⟨w, hw, ew⟩ := back hz ez
    obtain ⟨w', hw', ew'⟩ := back hz' ez'
    exact h.once j j' w w' u u' info info' hw hw' ew ew' key
  · intro key there
    rw [same] at there
    obtain ⟨z, member, u, info, key, enlists⟩ := h.source key there
    rcases moved.eq_or_mem member with rfl | still
    · exact ⟨y, moved.mem', u, info, key, after enlists⟩
    · exact ⟨z, still, u, info, key, enlists⟩
  · intro z member u called done
    rw [same]
    rcases moved.mem_cases member with rfl | old
    · obtain rfl := only called
      obtain ⟨p, live⟩ := moved.turn.live
      obtain ⟨⟨q, rfl⟩, fits⟩ := trail.stands live
      have turn := moved.turn
      rw [done] at turn
      rcases turn.has_key live fits with there | ⟨info, stands⟩
      · exact there
      · exact h.has moved.mem ⟨trail.called.mpr rfl, .inl stands⟩
    · exact h.done z old u called done

/-- The turn in which a target is registered. -/
theorem Roll.enlist (h : m.Roll) (moved : Moved m i x effects y m')
    (stands : x.call = .ready (.register t (.enroll info)))
    (new : m.session.dispatch.enroll? t info = some m'.session.dispatch)
    (goes : y.call = .ready (.register t (.announce info))) : m'.Roll := by
  obtain ⟨u, trail⟩ := h.trails x moved.mem
  have trail' := trail.turn moved.turn
  rw [← moved.past, goes] at trail'
  obtain ⟨rfl, learned, found, -⟩ := trail'.of_announce
  obtain ⟨within, holds⟩ := Dispatch.within_enroll? new
  obtain ⟨fresh, grown⟩ := Dispatch.enroll?_eq_some found.fits new
  have only {u : Target} {info' : DumpInfo} (enlists : Enlists u info' y) :
      u = t ∧ info' = info := by
    obtain rfl := enrolling_inj (trail'.called.mp enlists.1)
    rcases enlists.2 with here | told
    · rw [goes] at here
      cases here
      exact ⟨rfl, rfl⟩
    · exact absurd told (trail'.not_told rfl _)
  have not_before {u : Target} {info' : DumpInfo} : ¬ Enlists u info' x := by
    rintro ⟨-, here | told⟩
    · rw [stands] at here
      cases here
    · exact trail.not_told (by rw [stands]; rfl) _ told
  have enlists : Enlists t info y := ⟨trail'.called.mpr rfl, .inl goes⟩
  constructor
  · exact moved.numbered h.numbered
  · intro z member
    rcases moved.mem_cases member with rfl | old
    · exact ⟨t, goes ▸ trail'⟩
    · exact h.trails z old
  · intro z member u info' ez
    rcases moved.mem_cases member with rfl | old
    · obtain ⟨rfl, rfl⟩ := only ez
      exact holds
    · exact (h.kept z old u info' ez).mono within
  · intro j j' z z' u u' info₁ info₂ hz hz' ez ez' key
    rcases moved.cases hz with ⟨rfl, rfl⟩ | ⟨other, hz⟩
    · rcases moved.cases hz' with ⟨rfl, rfl⟩ | ⟨other', hz'⟩
      · rfl
      · obtain ⟨rfl, rfl⟩ := only ez
        exact absurd (key ▸ h.has (List.mem_of_getElem? hz') ez') fresh
    · rcases moved.cases hz' with ⟨rfl, rfl⟩ | ⟨other', hz'⟩
      · obtain ⟨rfl, rfl⟩ := only ez'
        exact absurd (key ▸ h.has (List.mem_of_getElem? hz) ez) fresh
      · exact h.once j j' z z' u u' info₁ info₂ hz hz' ez ez' key
  · intro key there
    rcases (grown key).mp there with rfl | old
    · exact ⟨y, moved.mem', t, info, rfl, enlists⟩
    · obtain ⟨z, member, u, info', key, ez⟩ := h.source key old
      rcases moved.eq_or_mem member with rfl | still
      · exact absurd ez not_before
      · exact ⟨z, still, u, info', key, ez⟩
  · intro z member u called done
    rcases moved.mem_cases member with rfl | old
    · rw [goes] at done
      cases done
    · exact within.has (h.done z old u called done)

theorem Enlisting.roll (empty : s.dispatch = .standard output) (h : Enlisting (make s) m) :
    m.Roll := by
  refine h.keep (roll_make empty) (fun m t roll => roll.call t) ?_
  intro m i x effects y m' moved kept roll
  rcases moved.turn.enrols with ⟨same, other⟩ | ⟨t, info, stands, new, goes, -⟩
  · exact roll.quiet moved kept same other
  · exact roll.enlist moved stands new goes

/-! ### How often the monitor is told -/

theorem Roll.key?_eq (h : m.Roll) (stood : m.threads[i]? = some x)
    (called : .called (enrolling t) ∈ x.past) : m.key? i = some (keyOf t) := by
  have head := (h.trail (List.mem_of_getElem? stood) called).head
  rw [past_of_getElem? stood] at head
  obtain ⟨rest, same⟩ := List.head?_eq_some_iff.mp head
  simp only [key?, same, enrolling]

/-- Whoever tells of something has registered its target and is done. -/
theorem Roll.of_emitted (h : m.Roll) (told : ⟨i, .emitted event⟩ ∈ m.record) :
    ∃ x t info, m.threads[i]? = some x ∧ x.call = .done ∧ Enlists t info x ∧
      event = .info t.label info t.destination := by
  obtain ⟨x, stood, told⟩ := h.numbered.exists_thread (mem_past.mpr told)
  obtain ⟨t, trail⟩ := h.trails x (List.mem_of_getElem? stood)
  obtain ⟨info, learned, -, done, rfl, -⟩ := trail.of_emitted told
  exact ⟨x, t, info, stood, done, ⟨trail.called.mpr rfl, .inr told⟩, rfl⟩

theorem countP_past (m : Machine) (i : Nat) (q : Effect → Bool) :
    (m.past i).countP q = m.record.countP fun e => q e.effect && decide (e.call = i) := by
  rw [← List.countP_filter, ← map_past, List.countP_map]
  rfl

theorem Roll.told_eq_zero (h : m.Roll) {key : TargetKind × String}
    (missing : ¬ m.session.dispatch.Has key) : m.told key = 0 := by
  rw [told, List.countP_eq_zero]
  rintro ⟨i, effect⟩ member tells
  simp only [Bool.and_eq_true, decide_eq_true_eq] at tells
  obtain ⟨info, same⟩ := tells
  cases effect with
  | emitted event =>
      obtain ⟨x, t, info, stood, -, enlists, -⟩ := h.of_emitted member
      rw [h.key?_eq stood enlists.1] at same
      cases same
      exact missing (h.has (List.mem_of_getElem? stood) enlists)
  | _ => cases info

theorem Roll.told_eq_one (h : m.Roll) (stood : m.threads[i]? = some x) (enlists : Enlists t info x)
    (done : x.call = .done) : m.told (keyOf t) = 1 := by
  have only : m.told (keyOf t) =
      m.record.countP fun e => e.effect.isInfo && decide (e.call = i) := by
    refine List.countP_congr fun e member => ?_
    obtain ⟨j, effect⟩ := e
    simp only [Bool.and_eq_true, decide_eq_true_eq]
    refine and_congr_right fun tells => ⟨fun same => ?_, ?_⟩
    · cases effect with
      | emitted event =>
          obtain ⟨y, u, info', stood', -, enlists', -⟩ := h.of_emitted member
          rw [h.key?_eq stood' enlists'.1] at same
          exact h.once j i y x u t info' info stood' stood enlists' enlists (Option.some.inj same)
      | _ => cases tells
    · rintro rfl
      exact h.key?_eq stood enlists.1
  rw [only, ← countP_past, ← past_of_getElem? stood]
  obtain ⟨learned, found, ⟨announces, -⟩ | ⟨-, same⟩⟩ :=
    (h.trail (List.mem_of_getElem? stood) enlists.1).of_enlists enlists
  · rw [done] at announces
    cases announces
  · rw [same]
    cases found <;> rfl

/-! ### At rest -/

/-- What registrations have come to when no call is under way. -/
structure Settled (m : Machine) : Prop where
  told : ∀ key, m.session.dispatch.Has key → m.told key = 1
  untold : ∀ key, ¬ m.session.dispatch.Has key → m.told key = 0
  registered_iff : ∀ key, m.session.dispatch.Has key ↔ ∃ i t, keyOf t = key ∧
    ⟨i, .called (enrolling t)⟩ ∈ m.record ∧ m.outcome? i = some (.ok ())
  /-- What is kept of a target is what was learned, and told, by the call that registered it. -/
  source : ∀ key, m.session.dispatch.Has key → ∃ i t info learned, keyOf t = key ∧
    ⟨i, .called (enrolling t)⟩ ∈ m.record ∧ m.session.dispatch.Holds t info ∧
    ⟨i, .emitted (.info t.label info t.destination)⟩ ∈ m.record ∧
    Learned t info learned ∧ ∀ e ∈ learned, ⟨i, e⟩ ∈ m.record
  metadata : ∀ name metadata, m.session.dispatch.tables.find? name = some metadata →
    ∃ i t k, t.kind = .table ∧ t.subject = name ∧ ⟨i, .called (enrolling t)⟩ ∈ m.record ∧
      ⟨i, .emitted (.info t.label (.table metadata) t.destination)⟩ ∈ m.record ∧
      ⟨i, .issued k (.tableMetadata name)⟩ ∈ m.record ∧
      ⟨i, .answered k (.metadata metadata)⟩ ∈ m.record
  failed : ∀ i fault event, m.outcome? i = some (.error fault) →
    ⟨i, .emitted event⟩ ∉ m.record
  empty_iff : m.session.dispatch.isEmpty = true ↔ ∀ i, m.outcome? i ≠ some (.ok ())
  names : ∀ name, name ∈ m.session.dispatch.tableNames ↔ ∃ i t, t.kind = .table ∧
    t.subject = name ∧ ⟨i, .called (enrolling t)⟩ ∈ m.record ∧ m.outcome? i = some (.ok ())

theorem not_ready_of_isQuiet (quiet : m.isQuiet = true) (stood : m.threads[i]? = some x) :
    x.call ≠ .ready p := by
  intro ready
  have member := List.mem_of_getElem? (call_of_getElem? stood)
  have ended := List.all_eq_true.mp quiet x.call member
  rw [ready] at ended
  cases ended

theorem exists_thread_of_outcome {outcome : Outcome} (h : m.outcome? i = some outcome) :
    ∃ x, m.threads[i]? = some x ∧ x.call = .returned outcome := by
  refine ⟨⟨.returned outcome, m.past i⟩, ?_, rfl⟩
  rw [getElem?_threads, outcome?_eq_some.mp h]
  rfl

/-- At rest a registered key is that of a call that is done and has told of it. -/
theorem Roll.source_done (h : m.Roll) (quiet : m.isQuiet = true) {key : TargetKind × String}
    (there : m.session.dispatch.Has key) :
    ∃ (i : Nat) (x : Thread) (t : Target) (info : DumpInfo), m.threads[i]? = some x ∧
      keyOf t = key ∧ Enlists t info x ∧ x.call = .done := by
  obtain ⟨x, member, t, info, same, enlists⟩ := h.source key there
  obtain ⟨i, stood⟩ := List.getElem?_of_mem member
  obtain ⟨learned, -, ⟨announces, -⟩ | ⟨done, -⟩⟩ := (h.trail member enlists.1).of_enlists enlists
  · exact absurd announces (not_ready_of_isQuiet quiet stood)
  · exact ⟨i, x, t, info, stood, same, enlists, done⟩

theorem Roll.registered_iff (h : m.Roll) (quiet : m.isQuiet = true) (key : TargetKind × String) :
    m.session.dispatch.Has key ↔ ∃ i t, keyOf t = key ∧
      ⟨i, .called (enrolling t)⟩ ∈ m.record ∧ m.outcome? i = some (.ok ()) := by
  constructor
  · intro there
    obtain ⟨i, x, t, info, stood, same, enlists, done⟩ := h.source_done quiet there
    refine ⟨i, t, same, mem_past.mp (past_of_getElem? stood ▸ enlists.1), ?_⟩
    exact outcome?_eq_some.mpr ((call_of_getElem? stood).trans (congrArg some done))
  · rintro ⟨i, t, rfl, called, returned⟩
    obtain ⟨x, stood, done⟩ := exists_thread_of_outcome returned
    rw [← mem_past, ← past_of_getElem? stood] at called
    exact h.done x (List.mem_of_getElem? stood) t called done

theorem Roll.source_learned (h : m.Roll) (quiet : m.isQuiet = true) {key : TargetKind × String}
    (there : m.session.dispatch.Has key) : ∃ i t info learned, keyOf t = key ∧
      ⟨i, .called (enrolling t)⟩ ∈ m.record ∧ m.session.dispatch.Holds t info ∧
      ⟨i, .emitted (.info t.label info t.destination)⟩ ∈ m.record ∧
      Learned t info learned ∧ ∀ e ∈ learned, ⟨i, e⟩ ∈ m.record := by
  obtain ⟨i, x, t, info, stood, same, enlists, done⟩ := h.source_done quiet there
  have member := List.mem_of_getElem? stood
  have on_record {e : Effect} (here : e ∈ x.past) : ⟨i, e⟩ ∈ m.record :=
    mem_past.mp (past_of_getElem? stood ▸ here)
  obtain ⟨learned, found, ⟨announces, -⟩ | ⟨-, past⟩⟩ :=
    (h.trail member enlists.1).of_enlists enlists
  · exact absurd announces (not_ready_of_isQuiet quiet stood)
  · refine ⟨i, t, info, learned, same, on_record enlists.1, h.kept x member t info enlists, ?_,
      found, fun e here => ?_⟩
    · exact on_record (by simp [past])
    · exact on_record (by simp [past, here])

theorem Roll.settled (h : m.Roll) (quiet : m.isQuiet = true) : Settled m := by
  constructor
  · rintro key there
    obtain ⟨i, x, t, info, stood, rfl, enlists, done⟩ := h.source_done quiet there
    exact h.told_eq_one stood enlists done
  · exact fun key missing => h.told_eq_zero missing
  · exact h.registered_iff quiet
  · exact fun key there => h.source_learned quiet there
  · intro name metadata found
    have there : m.session.dispatch.Has (.table, name) := Dictionary.mem_keys_iff.mpr ⟨_, found⟩
    obtain ⟨i, t, info, learned, same, called, holds, told, found', on_record⟩ :=
      h.source_learned quiet there
    cases found' with
    | table k metadata' kind =>
        obtain rfl : t.subject = name := by simpa [keyOf, kind] using same
        obtain rfl : metadata = metadata' := Option.some.inj (found.symm.trans holds)
        exact ⟨i, t, k, kind, rfl, called, told, on_record _ (by simp), on_record _ (by simp)⟩
    | query k k' reply kind => simp [keyOf, kind] at same
  · intro i fault event returned told
    obtain ⟨x, stood, ended⟩ := exists_thread_of_outcome returned
    obtain ⟨y, t, info, stood', done, -⟩ := h.of_emitted told
    obtain rfl : x = y := Option.some.inj (stood.symm.trans stood')
    rw [ended] at done
    cases done
  · rw [Dispatch.isEmpty_iff]
    constructor
    · intro none_ i returned
      obtain ⟨x, stood, done⟩ := exists_thread_of_outcome returned
      obtain ⟨t, trail⟩ := h.trails x (List.mem_of_getElem? stood)
      exact none_ _ (h.done x (List.mem_of_getElem? stood) t (trail.called.mpr rfl) done)
    · intro none_ key there
      obtain ⟨i, t, -, -, returned⟩ := (h.registered_iff quiet key).mp there
      exact none_ i returned
  · intro name
    rw [Dispatch.mem_tableNames, h.registered_iff quiet]
    constructor
    · rintro ⟨i, t, same, called, returned⟩
      cases kind : t.kind with
      | table => exact ⟨i, t, kind, by simpa [keyOf, kind] using same, called, returned⟩
      | query => simp [keyOf, kind] at same
    · rintro ⟨i, t, kind, rfl, called, returned⟩
      exact ⟨i, t, by simp [keyOf, kind], called, returned⟩

/-! ### Later calls -/

/-- What happens to the targets that are registered in `m` until `m'`. -/
structure Lasting (m m' : Machine) : Prop where
  numbered : m'.Numbered
  within : m.session.dispatch.Within m'.session.dispatch
  untouched : ∀ (j : Nat) z t, (∀ c, m.calls[j]? = some c → c = .ready (enrolling t)) →
    m.session.dispatch.Has (keyOf t) → m'.threads[j]? = some z → .called (enrolling t) ∈ z.past →
    Untouched t z

theorem lasting_start (h : m.Roll) : Lasting m m := by
  refine ⟨h.numbered, .refl _, fun j z t fresh _ stood called => ?_⟩
  have unlooked := fresh z.call (call_of_getElem? stood)
  have trail := h.trail (List.mem_of_getElem? stood) called
  obtain ⟨c, past⟩ := z
  obtain rfl : c = .ready (enrolling t) := unlooked
  cases trail
  exact .unlooked

theorem Lasting.call (h : Lasting m m') (t : Target) : Lasting m (m'.call (enrolling t)) := by
  refine ⟨numbered_call h.numbered _, h.within, fun j z u fresh there stood called => ?_⟩
  rw [threads_call h.numbered, List.getElem?_append] at stood
  split at stood
  · exact h.untouched j z u fresh there stood called
  · obtain rfl := List.mem_singleton.mp (List.mem_of_getElem? stood)
    obtain rfl : u = t := enrolling_inj (Effect.called.inj (List.mem_singleton.mp called))
    exact .unlooked

theorem Lasting.moved {m'' : Machine} (h : Lasting m m') (moved : Moved m' i x effects y m'') :
    Lasting m m'' := by
  refine ⟨moved.numbered h.numbered, ?_, fun j z t fresh there stood called => ?_⟩
  · rcases moved.turn.enrols with ⟨same, -⟩ | ⟨t, info, -, new, -, -⟩
    · rw [same]
      exact h.within
    · exact h.within.trans (Dispatch.within_enroll? new).1
  · rcases moved.cases stood with ⟨rfl, rfl⟩ | ⟨-, stood⟩
    · rw [moved.past] at called
      have called := (List.mem_append.mp called).resolve_right moved.turn.not_called
      have before := h.untouched j x t fresh there moved.stood called
      have after := before.turn moved.turn (h.within.has there)
      rwa [← moved.past] at after
    · exact h.untouched j z t fresh there stood called

theorem Enlisting.lasting (h : m.Roll) (later : Enlisting m m') : Lasting m m' :=
  later.keep (lasting_start h) (fun _ t ih => ih.call t)
    fun _ _ _ _ _ _ moved _ ih => ih.moved moved

/-- What becomes of targets that are registered by calls that overlap. -/
structure RegisteredOnce (m m' : Machine) : Prop where
  handled : ∀ t, m.session.dispatch.refusal? t = none
  settled : m.isQuiet = true → Settled m
  /-- A registered key is never removed, and what is kept of it is never replaced. -/
  kept : m.session.dispatch.Within m'.session.dispatch
  /-- A call for a registered key that has not begun yet asks for nothing and tells of nothing, and
  if it returns, it returns well. -/
  later : ∀ (j : Nat) z t, (∀ c, m.calls[j]? = some c → c = .ready (enrolling t)) →
    m.session.dispatch.Has (keyOf t) → m'.threads[j]? = some z → .called (enrolling t) ∈ z.past →
    Untouched t z

theorem Enlisting.kinds (empty : s.dispatch = .standard output) (h : Enlisting (make s) m) :
    m.session.dispatch.kinds = TargetKind.all := by
  refine h.keep (P := fun m => m.session.dispatch.kinds = TargetKind.all) ?_ ?_ ?_
  · show s.dispatch.kinds = TargetKind.all
    rw [empty]
    rfl
  · exact fun _ _ ih => ih
  · exact fun _ _ _ _ _ _ moved _ ih => moved.turn.setup.kinds.trans ih

/-- Whatever the targets are, in whichever order their calls go on and however each of them is
answered. -/
theorem Enlisting.registered_once (empty : s.dispatch = .standard output)
    (h : Enlisting (make s) m) (later : Enlisting m m') : RegisteredOnce m m' where
  handled := Dispatch.refusal?_eq_none (h.kinds empty)
  settled := (h.roll empty).settled
  kept := (later.lasting (h.roll empty)).within
  later := (later.lasting (h.roll empty)).untouched

/-- A move of such users who give up no call. -/
def Enrols : Move → Prop
  | .call p => ∃ t, p = enrolling t
  | .act _ | .answer _ _ => True
  | .drop _ => False

theorem Enlisting.run {moves : List Move} (h : Enlisting m₀ m)
    (enrols : ∀ move ∈ moves, Enrols move) (run : m.run? moves = some m') : Enlisting m₀ m' := by
  induction moves generalizing m with
  | nil => exact Option.some.inj run ▸ h
  | cons move moves ih =>
      obtain ⟨next, first, rest⟩ := Option.bind_eq_some_iff.mp run
      obtain ⟨this, those⟩ := List.forall_mem_cons.mp enrols
      refine ih ?_ those rest
      cases move with
      | call p =>
          obtain ⟨t, rfl⟩ := this
          cases first
          exact h.call t
      | act i => exact h.act i first
      | answer i reply => exact h.answer i reply first
      | drop i => cases this

/-- Two calls for one table are answered differently, and the one that is answered first registers
it; a query is registered although its statement is not closed, and a table is not found. -/
def raced : Machine :=
  ((make (.make .standard (.standard ⟨.standard, false⟩))).run?
    [.call (enrolling (.table "a" ⟨"p/a"⟩)), .call (enrolling (.table "a" ⟨"p/b"⟩)), .act 0, .act 1,
      .act 0, .act 1, .answer 1 (.metadata (.named "second")), .act 1,
      .answer 0 (.metadata (.named "first")), .act 0, .act 1,
      .call (enrolling (.query "q" " SELECT 1 " ⟨"p/q"⟩)), .act 2, .act 2, .answer 2 .done, .act 2,
      .answer 2 (.failed (.server "busy")), .act 2, .act 2,
      .call (enrolling (.table "b" ⟨"p/c"⟩)), .act 3, .act 3,
      .answer 3 (.failed (.notFound "b"))]).get (by decide +kernel)

theorem enlisting_raced :
    Enlisting (make (.make .standard (.standard ⟨.standard, false⟩))) raced :=
  Enlisting.start.run (by simp [Enrols]) (Option.some_get _).symm

/-- A query that differs from a registered one in its blanks and its label is known already. -/
theorem registered_once_raced :
    ∃ m, Enlisting raced m ∧ raced.isQuiet = true ∧ m.calls.length = 5 ∧
      raced.session.dispatch.tables.find? "a" = some (.named "second") ∧
      RegisteredOnce raced m := by
  have run : (raced.run?
      [.call (enrolling (.query "again" "SELECT 1" ⟨"p/r"⟩)), .act 4]).isSome = true := by
    decide +kernel
  have later : Enlisting raced _ :=
    Enlisting.start.run (by simp [Enrols]) (Option.some_get run).symm
  exact ⟨_, later, rfl, rfl, rfl, enlisting_raced.registered_once rfl later⟩

end Machine

end DumpFlow.Session
