import DumpFlow.Proofs.Joint.Phases
import DumpFlow.Proofs.Session.Deeds

/-!
The outcome of a run on a database that never fails. It is the same for every order of the jobs:
which of two calls with the same key registers it is left open, and in which order calls of one
phase do what they do, but nothing else.
-/

namespace DumpFlow

open scoped List

open Session (Entry Effect Deed Granted Stored deedsIn duesIn emittedIn startMessage commitMessage)
open Engine (callsIn schedule phaseCalls registerMessage executeMessage)
open Dispatch (keyOf)

theorem Session.Machine.past_eq (m : Session.Machine) (n : Nat) :
    m.past n = (m.record.filter fun e => e.call = n).map Entry.effect := by
  rw [← m.map_past, List.map_map]
  exact (List.map_id _).symm

namespace Joint

variable {settings : TransactionSettings} {dispatch : Dispatch} {config : EngineConfig}
  {targets : List Target} {j : Joint} {n : Nat} {what : SessionCall}

/-- A call does all that it does in the block of its phase. -/
theorem Linked.past_eq (h : Linked settings dispatch config targets j)
    (issued : .issued n what ∈ j.engine.record) :
    j.machine.past n = ((j.block what.rank).filter fun e => e.call = n).map Entry.effect := by
  rw [j.machine.past_eq, block, List.filter_filter]
  refine congrArg _ (List.filter_congr fun e _ => ?_)
  by_cases own : e.call = n
  · simp [own, h.phase_eq issued]
  · simp [own]

theorem Linked.past_sublist (h : Linked settings dispatch config targets j)
    (issued : .issued n what ∈ j.engine.record) :
    j.machine.past n <+ (j.block what.rank).map Entry.effect := by
  rw [h.past_eq issued]
  exact List.filter_sublist.map _

def made (j : Joint) (r : Nat) : List (Nat × SessionCall) :=
  (callsIn j.engine.record).filter fun c => c.2.rank = r

theorem mem_made {c : Nat × SessionCall} {r : Nat} :
    c ∈ j.made r ↔ .issued c.1 c.2 ∈ j.engine.record ∧ c.2.rank = r := by
  rw [made, List.mem_filter, decide_eq_true_iff]
  exact and_congr_left' Engine.mem_callsIn

/-- A block is what the calls of its phase have done, in some order. -/
theorem Linked.block_perm (h : Linked settings dispatch config targets j) (r : Nat) :
    (j.block r).map Entry.effect ~ (j.made r).flatMap fun c => j.machine.past c.1 := by
  have distinct : ((j.made r).map Prod.fst).Nodup := by
    have all : ((callsIn j.engine.record).map Prod.fst).Nodup :=
      h.engine.booked.numbered ▸ List.nodup_range
    exact (List.filter_sublist.map _).nodup all
  have covered : ∀ e ∈ j.block r, e.call ∈ (j.made r).map Prod.fst := by
    intro e member
    obtain ⟨member, here⟩ := List.mem_filter.mp member
    obtain ⟨what, issued⟩ := h.exists_call member
    have rank : what.rank = r := (h.phase_eq issued).symm.trans (of_decide_eq_true here)
    have known : (e.call, what) ∈ j.made r := mem_made.mpr ⟨issued, rank⟩
    exact List.mem_map_of_mem (f := Prod.fst) known
  have grouped := (perm_flatMap_filter Entry.call distinct covered).map Entry.effect
  rw [List.map_flatMap, List.flatMap_map] at grouped
  refine grouped.trans (.of_eq (List.flatMap_congr fun c member => ?_))
  obtain ⟨issued, here⟩ := mem_made.mp member
  rw [h.past_eq issued, here]

end Joint

namespace Plan

/-- What a call brings about. -/
def deed (P : Plan) (transaction : Transaction) : SessionCall → Deed
  | .register t => .registered t
  | .begin => .created transaction.ticket P.option
  | .execute t => .dumped transaction (Dispatch.statementOf t) t.destination P.output.profile
  | .commit => .committed transaction P.settings.commitStatus

def infoEvent (P : Plan) (t : Target) : MonitorEvent :=
  .info t.label (P.client.info t) t.destination

/-- What the monitor is told of the dump of a target, in this order. -/
def dumpEvents (P : Plan) (t : Target) : List MonitorEvent :=
  Session.dumpEvents t (P.files t)

/-- What a call after the registrations tells the monitor, in this order. -/
def tells (P : Plan) : SessionCall → List MonitorEvent
  | .register _ => []
  | .begin => [.verbose (startMessage P.option)]
  | .execute t => P.dumpEvents t
  | .commit => [.verbose (commitMessage P.settings.commitStatus)]

variable {P : Plan} {j : Joint} {n : Nat} {what : SessionCall} {s : Session}
  {past : List Effect} {transaction : Transaction}

/-! ### One call -/

theorem Fares.returned_mem (h : P.Fares s what ⟨.done, past⟩) : .returned (.ok ()) ∈ past := by
  cases what with
  | register t =>
      have path : Session.RegisterPath P.client t .done past := h
      cases path <;> simp
  | begin =>
      obtain ⟨state, path⟩ := h
      cases path
      simp
  | execute t =>
      obtain ⟨transaction, -, path⟩ := h
      cases path
      simp
  | commit =>
      obtain ⟨transaction, state, -, path⟩ := h
      cases path
      simp

theorem Fares.closed (h : P.Fares s what ⟨.done, past⟩) : ∀ q ∈ duesIn past, Granted past q := by
  cases what with
  | register t => exact Session.RegisterPath.closed h
  | begin =>
      obtain ⟨state, path⟩ := h
      rw [path.closed]
      exact fun q member => absurd member List.not_mem_nil
  | execute t =>
      obtain ⟨transaction, -, path⟩ := h
      exact path.closed
  | commit =>
      obtain ⟨transaction, state, -, path⟩ := h
      rw [path.closed]
      exact fun q member => absurd member List.not_mem_nil

/-- A call brings about one thing, with the transaction of the session if it needs one. -/
theorem Fares.deeds (h : P.Fares s what ⟨.done, past⟩) (held : s.slot = some transaction) :
    deedsIn past = [P.deed transaction what] ∨
      what = .begin ∧ ∃ k, deedsIn past = [.created k P.option] := by
  cases what with
  | register t => exact .inl (Session.RegisterPath.deeds h)
  | begin =>
      obtain ⟨state, path⟩ := h
      exact .inr ⟨rfl, path.deeds⟩
  | execute t =>
      obtain ⟨own, held', path⟩ := h
      cases Option.some.inj (held.symm.trans held')
      exact .inl path.deeds
  | commit =>
      obtain ⟨own, state, held', path⟩ := h
      cases Option.some.inj (held.symm.trans held')
      exact .inl path.deeds

theorem Fares.emitted (h : P.Fares s what ⟨.done, past⟩) (later : 0 < what.rank) :
    emittedIn past = P.tells what := by
  cases what with
  | register t => cases later
  | begin =>
      obtain ⟨state, path⟩ := h
      exact path.emitted
  | execute t =>
      obtain ⟨transaction, -, path⟩ := h
      exact path.emitted
  | commit =>
      obtain ⟨transaction, state, -, path⟩ := h
      exact path.emitted

namespace Sound

/-- When the engine has returned, so have all its calls. -/
theorem stands_done (h : P.Sound j) (finished : j.engine.stage = .returned .success)
    (issued : .issued n what ∈ j.engine.record) :
    j.machine.threads[n]? = some ⟨.done, j.machine.past n⟩ := by
  have ended : ∃ ending, .ended n ending ∈ j.engine.record := by
    by_contra open_
    have awaits := h.flawless.awaits h.linked.engine issued fun ending ended =>
      open_ ⟨ending, ended⟩
    rw [finished] at awaits
    cases awaits
  obtain ⟨ending, ended⟩ := ended
  obtain ⟨outcome, -, returned⟩ := h.linked.ended n ending ended
  have stood : j.machine.threads[n]? = some ⟨.returned outcome, j.machine.past n⟩ := by
    simp [Session.Machine.getElem?_threads, returned]
  rwa [(h.fares n what _ issued stood).returned rfl] at stood

theorem fares_done (h : P.Sound j) (finished : j.engine.stage = .returned .success)
    (issued : .issued n what ∈ j.engine.record) :
    P.Fares j.machine.session what ⟨.done, j.machine.past n⟩ :=
  h.fares n what _ issued (h.stands_done finished issued)

theorem committed (h : P.Sound j) (finished : j.engine.stage = .returned .success) :
    j.machine.session.state = .committed := by
  have stands := h.stands
  rwa [finished] at stands

/-- The transaction that is asked for is the one that is used. -/
theorem deeds_eq (h : P.Sound j) (finished : j.engine.stage = .returned .success)
    (held : j.machine.session.slot = some transaction)
    (stored : Stored j.machine.record transaction)
    (issued : .issued n what ∈ j.engine.record) :
    deedsIn (j.machine.past n) = [P.deed transaction what] := by
  rcases (h.fares_done finished issued).deeds held with same | ⟨rfl, k, created⟩
  · exact same
  · obtain ⟨i, o, sublist⟩ := stored
    have member : ⟨i, .issued transaction.ticket (.createTransaction o)⟩ ∈ j.machine.record :=
      sublist.subset (List.mem_cons_self ..)
    have deed : .created transaction.ticket o ∈ deedsIn (j.machine.past i) :=
      Session.mem_deedsIn.mpr ⟨_, Session.Machine.mem_past.mpr member, rfl⟩
    obtain ⟨what, issued'⟩ := h.linked.exists_call member
    rcases (h.fares_done finished issued').deeds held with same | ⟨rfl, k', created'⟩
    · rw [same] at deed
      cases what with
      | begin =>
          rwa [h.linked.engine.staged.begin_unique issued issued']
      | register _ | execute _ | commit => cases List.mem_singleton.mp deed
    · obtain rfl := h.linked.engine.staged.begin_unique issued issued'
      rw [created'] at deed
      cases List.mem_singleton.mp deed
      exact created'

/-! ### One phase -/

/-- What each call of a phase tells of itself by a projection, the whole phase does. -/
theorem filterMap_block {β : Type} (h : P.Sound j) (finished : j.engine.stage = .returned .success)
    (r : Nat) (f : Effect → Option β) (g : SessionCall → List β)
    (each : ∀ n what, .issued n what ∈ j.engine.record → what.rank = r →
      (j.machine.past n).filterMap f = g what) :
    ((j.block r).map Entry.effect).filterMap f ~
      (phaseCalls P.targets r).flatMap g := by
  have every : (j.made r).flatMap (fun c => (j.machine.past c.1).filterMap f) =
      (j.made r).flatMap fun c => g c.2 := by
    refine List.flatMap_congr fun c member => ?_
    obtain ⟨issued, here⟩ := Joint.mem_made.mp member
    exact each c.1 c.2 issued here
  have complete : (j.made r).map Prod.snd ~ phaseCalls P.targets r := by
    have all := h.flawless.issued_perm h.linked.engine finished
    rw [Engine.issued_eq] at all
    have part := all.filter fun what => what.rank = r
    rwa [List.filter_map, Engine.filter_schedule] at part
  calc ((j.block r).map Entry.effect).filterMap f
    _ ~ ((j.made r).flatMap fun c => j.machine.past c.1).filterMap f :=
        (h.linked.block_perm r).filterMap f
    _ = (j.made r).flatMap fun c => g c.2 := by rw [List.filterMap_flatMap, every]
    _ = ((j.made r).map Prod.snd).flatMap g := (List.flatMap_map ..).symm
    _ ~ (phaseCalls P.targets r).flatMap g := complete.flatMap_right g

end Sound

/-- Calls of a run that do what they are made for in one part of its record: each brings about one
thing, closes what it opens, and returns. -/
structure Served (P : Plan) (transaction : Transaction) (calls : List SessionCall)
    (part : List Entry) : Prop where
  deeds : deedsIn (part.map Entry.effect) ~ calls.map (P.deed transaction)
  closed : ∀ q ∈ duesIn (part.map Entry.effect), Granted (part.map Entry.effect) q
  returned : ∀ e ∈ part, ⟨e.call, .returned (.ok ())⟩ ∈ part

theorem Sound.served (h : P.Sound j) (finished : j.engine.stage = .returned .success)
    (held : j.machine.session.slot = some transaction)
    (stored : Stored j.machine.record transaction)
    (r : Nat) :
    P.Served transaction (phaseCalls P.targets r) (j.block r) where
  deeds := by
    have each := h.filterMap_block finished r Effect.deed? (fun what => [P.deed transaction what])
      fun _ _ issued _ => h.deeds_eq finished held stored issued
    rwa [← List.map_eq_flatMap] at each
  closed q member := by
    obtain ⟨effect, member, due⟩ := List.mem_filterMap.mp member
    obtain ⟨c, made, done⟩ := List.mem_flatMap.mp ((h.linked.block_perm r).mem_iff.mp member)
    obtain ⟨issued, rfl⟩ := Joint.mem_made.mp made
    have opened : q ∈ duesIn (j.machine.past c.1) := List.mem_filterMap.mpr ⟨effect, done, due⟩
    have granted := (h.fares_done finished issued).closed q opened
    exact granted.mono (h.linked.past_sublist issued).subset
  returned e member := by
    obtain ⟨member, here⟩ := List.mem_filter.mp member
    obtain ⟨what, issued⟩ := h.linked.exists_call member
    exact List.mem_filter.mpr
      ⟨Session.Machine.mem_past.mp (h.fares_done finished issued).returned_mem, here⟩

theorem Sound.dues_committing (h : P.Sound j) (finished : j.engine.stage = .returned .success) :
    duesIn ((j.block 3).map Entry.effect) = [] := by
  refine List.perm_nil.mp (h.filterMap_block finished 3 Effect.due? (fun _ => []) ?_)
  intro n what issued here
  cases what with
  | commit =>
      obtain ⟨transaction, state, -, path⟩ := h.fares_done finished issued
      exact path.closed
  | register _ | begin | execute _ => cases here

/-! ### The monitor -/

/-- Targets of which each key has one. -/
structure Chosen (targets chosen : List Target) : Prop where
  among : chosen <+~ targets
  once : (chosen.map keyOf).Nodup
  each : ∀ t ∈ targets, ∃ u ∈ chosen, keyOf u = keyOf t

/-- The target whose registration a call has told, if it has told one. -/
def announced? (j : Joint) (c : Nat × SessionCall) : Option Target :=
  if (j.machine.past c.1).any Effect.isInfo = true then Engine.Phase.register.target? c.2 else none

def announced (j : Joint) : List Target :=
  (callsIn j.engine.record).filterMap (announced? j)

namespace Sound

theorem announced?_eq_some {c : Nat × SessionCall} {t : Target} :
    announced? j c = some t ↔
      (j.machine.past c.1).any Effect.isInfo = true ∧ c.2 = .register t := by
  rw [announced?, Option.ite_none_right_eq_some, Engine.Phase.target?_eq_some]
  rfl

theorem enrolled (h : P.Sound j) {t : Target} (issued : .issued n (.register t) ∈ j.engine.record)
    (told : (j.machine.past n).any Effect.isInfo = true) :
    ∃ x, j.machine.threads[n]? = some x ∧ Session.Enrolled t x := by
  obtain ⟨x, stood, called⟩ := h.linked.exists_thread issued
  rw [← Session.Machine.past_of_getElem? stood] at told
  exact ⟨x, stood, called, .inr told⟩

theorem announced_once (h : P.Sound j) : ((announced j).map keyOf).Nodup := by
  have distinct : ((callsIn j.engine.record).map Prod.fst).Nodup :=
    h.linked.engine.booked.numbered ▸ List.nodup_range
  rw [List.Nodup, List.pairwise_map, announced, List.pairwise_filterMap]
  refine (List.pairwise_map.mp distinct).imp_of_mem
    fun {c c'} member member' other t own t' own' same => other ?_
  obtain ⟨told, made⟩ := announced?_eq_some.mp own
  obtain ⟨told', made'⟩ := announced?_eq_some.mp own'
  obtain ⟨x, stood, enrolled⟩ := h.enrolled (made ▸ Engine.mem_callsIn.mp member) told
  obtain ⟨x', stood', enrolled'⟩ := h.enrolled (made' ▸ Engine.mem_callsIn.mp member') told'
  exact h.linked.machine.enrolment.once _ _ x x' t t' stood stood' enrolled enrolled' same

theorem announced_subperm (h : P.Sound j) : announced j <+~ P.targets := by
  have same : announced j = ((callsIn j.engine.record).filter
      fun c => (j.machine.past c.1).any Effect.isInfo).filterMap
        fun c => Engine.Phase.register.target? c.2 := by
    rw [List.filterMap_filter]
    rfl
  rw [same]
  exact (List.filter_sublist.filterMap _).subperm.trans (h.linked.engine.staged.once .register)

theorem chosen (h : P.Sound j) (finished : j.engine.stage = .returned .success) :
    Chosen P.targets (announced j) where
  among := h.announced_subperm
  once := h.announced_once
  each t member := by
    have goes_well := h.flawless.goes_well
    simp only [Engine.GoesWell, finished] at goes_well
    obtain ⟨-, -, ⟨c, commits⟩, -⟩ := goes_well
    obtain ⟨b, begun, -⟩ := h.linked.engine.staged.begun_of_rank commits (by decide)
    have there := (h.linked.has_iff begun).mpr ⟨t, member, rfl⟩
    rcases h.linked.machine.enrolment.source _ there with empty | ⟨x, here, u, key, called, found⟩
    · exact absurd empty Dispatch.not_has_standard
    · obtain ⟨n, stood⟩ := List.getElem?_of_mem here
      obtain ⟨what, issued, same⟩ := h.linked.issued_of_called stood called
      obtain rfl : .register u = what := Joint.entry_inj same
      obtain rfl := Option.some.inj (stood.symm.trans (h.stands_done finished issued))
      have told : (j.machine.past n).any Effect.isInfo = true := by
        rcases found with ⟨-, ⟨info, announces⟩ | told⟩ | gone
        · cases announces
        · exact told
        · cases gone
      exact ⟨u, List.mem_filterMap.mpr ⟨(n, .register u), Engine.mem_callsIn.mpr issued,
        announced?_eq_some.mpr ⟨told, rfl⟩⟩, key⟩

theorem emitted_registering (h : P.Sound j) (finished : j.engine.stage = .returned .success)
    {t : Target} (issued : .issued n (.register t) ∈ j.engine.record) :
    emittedIn (j.machine.past n) =
      ((announced? j (n, .register t)).map P.infoEvent).toList := by
  have path : Session.RegisterPath P.client t .done (j.machine.past n) :=
    h.fares_done finished issued
  rw [path.emitted]
  by_cases told : (j.machine.past n).any Effect.isInfo = true
  · rw [if_pos told, announced?_eq_some.mpr ⟨told, rfl⟩]
    rfl
  · rw [if_neg told, announced?, if_neg told]
    rfl

theorem told_registering (h : P.Sound j) (finished : j.engine.stage = .returned .success) :
    j.told 0 ~ (announced j).map P.infoEvent := by
  have each : (j.made 0).flatMap (fun c => emittedIn (j.machine.past c.1)) =
      (j.made 0).flatMap fun c => ((announced? j c).map P.infoEvent).toList := by
    refine List.flatMap_congr fun c member => ?_
    obtain ⟨issued, here⟩ := Joint.mem_made.mp member
    obtain ⟨n, what⟩ := c
    cases what with
    | register t => exact h.emitted_registering finished issued
    | begin | execute _ | commit => cases here
  have others : ∀ c, (if decide (c.2.rank = 0) = true then (announced? j c).map P.infoEvent
      else none) = (announced? j c).map P.infoEvent := by
    intro c
    cases found : announced? j c with
    | none => simp
    | some t => simp [(announced?_eq_some.mp found).2, SessionCall.rank]
  calc j.told 0
    _ = ((j.block 0).map Entry.effect).filterMap Effect.event? := rfl
    _ ~ ((j.made 0).flatMap fun c => j.machine.past c.1).filterMap Effect.event? :=
        (h.linked.block_perm 0).filterMap Effect.event?
    _ = (j.made 0).filterMap fun c => (announced? j c).map P.infoEvent := by
        rw [List.filterMap_flatMap, List.filterMap_eq_flatMap_toList]
        exact each
    _ = (announced j).map P.infoEvent := by
        rw [announced, List.map_filterMap, Joint.made, List.filterMap_filter]
        simp only [others]

theorem told_later (h : P.Sound j) (finished : j.engine.stage = .returned .success) {r : Nat}
    (later : 0 < r) : j.told r ~ (phaseCalls P.targets r).flatMap P.tells :=
  h.filterMap_block finished r Effect.event? P.tells fun _ _ issued here =>
    (h.fares_done finished issued).emitted (here ▸ later)

/-- What a dump tells the monitor comes in its order, whatever other dumps tell meanwhile. -/
theorem dumpEvents_sublist (h : P.Sound j) (finished : j.engine.stage = .returned .success)
    {t : Target} (member : t ∈ P.targets) : P.dumpEvents t <+ j.told 2 := by
  have planned : .execute t ∈ schedule P.targets := by simp [schedule, member]
  have made := (h.flawless.issued_perm h.linked.engine finished).mem_iff.mpr planned
  rw [Engine.issued_eq] at made
  obtain ⟨⟨n, _⟩, made, rfl⟩ := List.mem_map.mp made
  have issued := Engine.mem_callsIn.mp made
  have emitted : emittedIn (j.machine.past n) = P.dumpEvents t :=
    (h.fares_done finished issued).emitted (Nat.succ_pos 1)
  rw [← emitted]
  exact (h.linked.past_sublist issued).filterMap _

end Sound

/-- What a run has achieved when the engine has returned. -/
structure Achieved (P : Plan) (j : Joint) : Prop where
  returned : j.engine.stage = .returned .success
  committed : j.machine.session.state = .committed
  /-- All registrations come first, the begin after them, then all dumps, and the commit last. -/
  phases : ∃ transaction first second third fourth,
    j.machine.record = first ++ second ++ third ++ fourth ∧
    P.Served transaction (P.targets.map .register) first ∧
    P.Served transaction [.begin] second ∧
    P.Served transaction (P.targets.map .execute) third ∧
    P.Served transaction [.commit] fourth ∧ duesIn (fourth.map Entry.effect) = []
  heard : ∃ chosen infos dumps, Chosen P.targets chosen ∧
    infos ~ chosen.map P.infoEvent ∧ dumps ~ P.targets.flatMap P.dumpEvents ∧
    (∀ t ∈ P.targets, P.dumpEvents t <+ dumps) ∧
    j.events = [.verbose (registerMessage P.targets.length)] ++ infos ++
      [.verbose (startMessage P.option), .verbose (executeMessage P.targets.length)] ++ dumps ++
      [.verbose (commitMessage P.settings.commitStatus)]

theorem Sound.achieved (h : P.Sound j) (ascending : j.Ascending) (tune : P.InTune j)
    (finished : j.engine.stage = .returned .success) : P.Achieved j where
  returned := finished
  committed := h.committed finished
  phases := by
    have active : j.machine.session.state.isActive = true := by
      rw [h.committed finished]
      rfl
    obtain ⟨transaction, held, stored⟩ := h.linked.machine.slot_holds active
    have served := h.served finished held stored
    exact ⟨transaction, j.block 0, j.block 1, j.block 2, j.block 3, ascending.record_eq h.linked,
      served 0, served 1, served 2, served 3, h.dues_committing finished⟩
  heard := by
    have begin_told : j.told 1 = [.verbose (startMessage P.option)] :=
      List.perm_singleton.mp (h.told_later finished Nat.one_pos)
    have commit_told : j.told 3 = [.verbose (commitMessage P.settings.commitStatus)] :=
      List.perm_singleton.mp (h.told_later finished (Nat.succ_pos 2))
    have dumped : j.told 2 ~ P.targets.flatMap P.dumpEvents := by
      have each := h.told_later finished (Nat.succ_pos 1)
      rwa [phaseCalls, List.flatMap_map] at each
    refine ⟨announced j, j.told 0, j.told 2, h.chosen finished, h.told_registering finished, dumped,
      fun t => h.dumpEvents_sublist finished, ?_⟩
    rw [tune, begin_told, commit_told, finished]
    simp [interlude, Stage.rank]

/-- A run comes to its end, and has then achieved the same, whatever the order of its jobs, the
number of its workers and the delays of its client. -/
theorem Run.achieves {moves : List Joint.Move} (run : P.Run moves j) (accepted : P.Accepted) :
    moves.length ≤ P.bound ∧
      (P.Achieved j ∨ (∀ ending, j.engine.stage ≠ .returned ending) ∧ P.CanMove j) := by
  have sound := run.sound accepted
  refine ⟨Nat.le_trans (run.length_le_pace accepted) sound.pace_le, ?_⟩
  by_cases finished : j.engine.stage = .returned .success
  · exact .inl (sound.achieved (run.ascending accepted) (run.in_tune accepted) finished)
  · refine .inr ⟨fun ending returned => ?_, (sound.progress accepted).resolve_left finished⟩
    have goes_well := sound.flawless.goes_well
    simp only [Engine.GoesWell, returned] at goes_well
    exact finished (goes_well.1 ▸ returned)

/-- Two dumps of one table by two workers. -/
def twofold : Plan :=
  ⟨⟨.named, fun _ _ _ => ["a"]⟩, .standard, ⟨.standard, false⟩, ⟨2⟩,
    [.table "t" ⟨"p"⟩, .table "t" ⟨"q"⟩]⟩

theorem twofold_accepted : twofold.Accepted where
  valid := rfl
  some_target := nofun
  some_worker := by decide
  few_workers := by decide

/-- Both registrations find the table new, and one of them is too late. -/
theorem achieves_twofold :
    ∃ moves j, twofold.Run moves j ∧ twofold.Accepted ∧ moves.length ≤ twofold.bound ∧
      twofold.Achieved j := by
  have run : (twofold.run? twofold.start
      [.start 0, .start 1, .act 0, .act 1, .act 0, .act 1, .act 0, .act 1,
        .answer 0 (.metadata (.named "t")), .act 0, .act 0, .answer 1 (.metadata (.named "t")),
        .act 1, .finish 1, .finish 0, .join 1, .join 0, .proceed, .act 2, .act 2, .act 2, .act 2,
        .act 2, .answer 2 .done, .act 2, .act 2, .settle, .start 0, .start 1, .act 4, .act 3,
        .act 3, .act 3, .act 3, .act 4, .act 4, .act 4, .answer 3 .done, .act 3, .act 3,
        .answer 3 .done, .act 3, .answer 3 (.path (some "a")), .act 3, .act 3,
        .answer 3 (.path none), .act 3, .answer 3 .done, .act 3, .act 3, .answer 3 .done,
        .answer 4 .done, .act 4, .act 4, .answer 4 .done, .act 4, .answer 4 (.path (some "a")),
        .act 4, .act 4, .answer 4 (.path none), .act 4, .answer 4 .done, .act 4, .act 4,
        .answer 4 .done, .finish 1, .finish 0, .join 1, .join 0, .proceed, .act 5, .act 5, .act 5,
        .act 5, .answer 5 .done, .act 5, .settle]).isSome = true := by decide
  have ran := Run.start.more (Option.some_get run).symm
  obtain ⟨short, outcome⟩ := ran.achieves twofold_accepted
  exact ⟨_, _, ran, twofold_accepted, short,
    outcome.resolve_right fun going => going.1 .success rfl⟩

end Plan

end DumpFlow
