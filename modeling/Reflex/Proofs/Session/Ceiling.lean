import Reflex.Proofs.Session.Lockstep
import Reflex.Proofs.Session.Queue
import Reflex.Proofs.Session.Settings

/-!
# The ceiling on cycles

A dispatch that has not come to an end when it has run as many cycles as it may is cut there.
Where there are no listeners, the ceiling has no other effect: two sessions that differ in their
ceilings only go through the same cycles, until the lower ceiling is reached.
`Session.ceiling_cuts_dispatch` is the result.

* `Session.Alone` is about sessions without listeners in which no update is refused.
* `Session.withMaxCycles` puts another ceiling in place, which `Session.unseen_maxCycles` says that
  cycles do not see.
-/

namespace Reflex.Session

variable {react : Reaction} {rules : List CompiledRule} {rule : CompiledRule} {event event' : Event}
  {data data' : Fields} {s t u last : Session} {outermost : Bool} {done : Outcome} {patch : Patch}
  {limit left n : Nat} {result : Except EngineError Outcome}

/-! ## Sessions without listeners -/

/-- Nobody is registered, and an update is not refused. -/
structure Alone (s : Session) : Prop where
  unwatched : s.store.registrations = []
  admitted : s.store.depth < s.store.maxDepth

namespace Alone

lemma of_store_eq (alone : s.Alone) (same : t.store = s.store) : t.Alone where
  unwatched := same ▸ alone.unwatched
  admitted := same ▸ alone.admitted

lemma close_commit (alone : s.Alone) : (s.commit patch).close.Alone where
  unwatched := alone.unwatched
  admitted := alone.admitted

/-- An update that is not refused and of which nobody is told. -/
lemma update (alone : s.Alone) :
    s.update react patch = (.ok (s.store.changesOf patch), (s.commit patch).close) := by
  rw [update_of_alone alone.unwatched, if_neg (Nat.not_le.2 alone.admitted)]

lemma of_cycle {ended : Except EngineError Cycle} (alone : s.Alone)
    (concluded : cycle react rules event data s = (ended, t)) : t.Alone := by
  rcases store_of_cycle alone.unwatched concluded with same | ⟨patch, patched⟩
  · exact alone.of_store_eq same
  · have committed : (s.commit patch).close.Alone := alone.close_commit
    exact committed.of_store_eq patched

/-- Only an update fails. -/
lemma error_eq_update {e : EngineError} (alone : s.Alone)
    (failed : cycle react rules event data s = (.error e, t)) :
    ∃ rule name cause, e = .update rule name cause := by
  cases concludes_of_cycle_eq failed with
  | fails selected failure => exact ⟨_, _, _, rfl⟩
  | refused selected computed full => exact absurd alone.admitted (Nat.not_lt.2 full)

lemma answered (alone : s.Alone)
    (answered : Answered react rules outermost event data s done event' data' u) : u.Alone :=
  answered.preserves of_store_eq of_cycle alone

/-- Where there are no listeners it does not matter what listeners would do. -/
lemma lockstep (react react' : Reaction) (rules : List CompiledRule) :
    Lockstep react react' rules fun s t => s = t ∧ s.Alone where
  engine h := congrArg Session.engine h.1
  select h origin data := by rw [h.1]
  patch h rule _ data := by rw [h.1]
  queue h event := ⟨congrArg (Session.queue event) h.1, h.2.of_store_eq rfl⟩
  selected h rule := ⟨congrArg (Session.record (.selected rule)) h.1, h.2.of_store_eq rfl⟩
  recordFired h outermost fired? :=
    ⟨congrArg (Session.recordFired outermost fired?) h.1, h.2.of_store_eq store_recordFired⟩
  take h event engine _ := ⟨congrArg (Session.take event engine) h.1, h.2.of_store_eq rfl⟩
  update h _ _ _ patch _ := by
    obtain ⟨rfl, alone⟩ := h
    rw [alone.update, alone.update]
    exact ⟨rfl, rfl, alone.close_commit⟩

lemma dispatch (alone : s.Alone) : s.dispatch react event data = s.dispatchAlone event data := by
  unfold dispatchAlone Session.dispatch
  split
  · rfl
  · have begun : (s.enter event data).Alone := alone.of_store_eq rfl
    obtain ⟨same, rest, -⟩ := (lockstep react (fun _ t => t) s.engine.program.rules).drain
      ⟨rfl, begun⟩ s.engine.isIdle s.engine.maxCycles event data
    simp only [same, rest]

end Alone

/-! ## Another ceiling -/

/-- The session with another ceiling on the cycles of a dispatch. -/
def withMaxCycles (limit : Nat) (s : Session) : Session :=
  { s with engine := { s.engine with maxCycles := limit } }

/-- Cycles do not see their ceiling. -/
lemma unseen_maxCycles (limit : Nat) :
    Engine.Unseen fun engine => { engine with maxCycles := limit } where
  library _ := rfl
  frames _ := rfl
  staged _ := rfl
  last _ := rfl
  withFrames _ _ := rfl
  withStaged _ _ := rfl
  withLast _ _ := rfl

lemma enter_withMaxCycles : (s.withMaxCycles limit).enter event data =
    (s.enter event data).withMaxCycles limit :=
  enter_mapEngine (unseen_maxCycles limit)

lemma Answered.withMaxCycles (alone : s.Alone)
    (answered : Answered react rules outermost event data s done event' data' u) :
    Answered react rules outermost event data (s.withMaxCycles limit) done event' data'
      (u.withMaxCycles limit) :=
  answered.mapEngine (unseen_maxCycles limit) alone.unwatched

lemma Ends.withMaxCycles (alone : s.Alone)
    (ends : Ends react rules outermost event data s n result last) :
    Ends react rules outermost event data (s.withMaxCycles limit) n result
      (last.withMaxCycles limit) :=
  ends.mapEngine (unseen_maxCycles limit) alone.unwatched

/-- Cycles without listeners end with a success or with an update that fails. -/
lemma Ends.result_eq (alone : s.Alone)
    (ends : Ends react rules outermost event data s n result last) :
    (∃ outcome, result = .ok outcome ∧ outcome.length = n) ∨
      ∃ rule name cause, result = .error (.update rule name cause) := by
  cases ends with
  | exhausted before succeeds empty => exact .inl ⟨_, rfl, List.length_append⟩
  | fails before failed =>
    obtain ⟨rule, name, cause, rfl⟩ := (alone.answered before).error_eq_update failed
    exact .inr ⟨rule, name, cause, rfl⟩

/-- **The ceiling cuts a dispatch at exactly the right place.**  In a session without listeners, in
which no dispatch and no update is under way that would stand in the way of another, an event is
dispatched under two ceilings on cycles.  If the dispatch under the higher one comes to an end of
itself within as many cycles as the lower one allows, with a success or with an update that fails,
then the dispatch under the lower one has the same result and leaves the same session behind, but
for the ceiling.  Otherwise the dispatch under the higher ceiling goes through as many cycles as the
lower one allows and has an event left, with which it goes on; the dispatch under the lower ceiling
fails and names that event, the document is as those cycles left it, and no event waits. -/
theorem ceiling_cuts_dispatch (alone : s.Alone) (idle : s.engine.frames = [])
    (nests : 0 < s.engine.maxNesting) (limit limit' : Nat) (lower : limit ≤ limit')
    (react : Reaction) (event : Event) (data : Fields) :
    let rules := s.engine.program.rules
    let low := s.withMaxCycles limit
    let high := s.withMaxCycles limit'
    (∀ n result last, n ≤ limit →
      Ends react rules true event data (high.enter event data) n result last →
        ((∃ outcome, result = .ok outcome ∧ outcome.length = n) ∨
          ∃ rule name cause, result = .error (.update rule name cause)) ∧
        high.dispatch react event data = (result, last.leave) ∧
        low.dispatch react event data = (result, last.leave.withMaxCycles limit)) ∧
    ((¬∃ n result last, n ≤ limit ∧
      Ends react rules true event data (high.enter event data) n result last) →
        ∃ done event' data' u, done.length = limit ∧
          Answered react rules true event data (high.enter event data) done event' data' u ∧
          (high.dispatch react event data).1 =
            (drain react rules true (limit' - limit) event' data' u).1.map (done ++ ·) ∧
          (low.dispatch react event data).1 = .error (.unboundedCycle limit event') ∧
          (low.dispatch react event data).2.store.document = u.store.document ∧
          (low.dispatch react event data).2.engine.pending = 0) := by
  intro rules low high
  have begun : (high.enter event data).Alone := alone.of_store_eq rfl
  have lowered : low.enter event data = (high.enter event data).withMaxCycles limit := by
    rw [enter_withMaxCycles, enter_withMaxCycles]
    rfl
  have idle_iff : s.engine.isIdle = true := List.isEmpty_iff.2 idle
  have nests_low : low.engine.frames.length < low.engine.maxNesting := by
    simpa [low, withMaxCycles, idle] using nests
  -- Under either ceiling the dispatch is not refused, and it is not nested in another.
  have dispatch_low : low.dispatch react event data =
      let cycles := drain react rules true limit event data (low.enter event data)
      (cycles.1, cycles.2.leave) := by
    rw [dispatch_eq nests_low, ← idle_iff]
    rfl
  have dispatch_high : high.dispatch react event data =
      let cycles := drain react rules true limit' event data (high.enter event data)
      (cycles.1, cycles.2.leave) := by
    rw [dispatch_eq (by simpa [high, withMaxCycles, idle] using nests), ← idle_iff]
    rfl
  constructor
  · intro n result last within ends
    have ends_low : Ends react rules true event data (low.enter event data) n result
        (last.withMaxCycles limit) := lowered ▸ ends.withMaxCycles begun
    refine ⟨ends.result_eq begun, ?_, ?_⟩
    · rw [dispatch_high, ends.drain (within.trans lower)]
    · rw [dispatch_low, ends_low.drain within]
      rfl
  · intro goes_on
    obtain ends | ⟨done, event', data', u, length, answered⟩ :=
      ends_or_answered react rules true limit event data (high.enter event data)
    · exact absurd ends goes_on
    · have answered_low : Answered react rules true event data (low.enter event data) done event'
          data' (u.withMaxCycles limit) := lowered ▸ answered.withMaxCycles begun
      have cut : drain react rules true limit event data (low.enter event data) =
          (.error (.unboundedCycle limit event'), u.withMaxCycles limit) := by
        have reached := drain_of_answered answered_low 0
        rwa [length] at reached
      have continued := drain_of_answered answered (limit' - limit)
      rw [length, Nat.add_sub_cancel' lower] at continued
      refine ⟨done, event', data', u, length, answered, ?_, ?_, ?_, ?_⟩
      · rw [dispatch_high, continued]
      · rw [dispatch_low, cut]
      · rw [dispatch_low, cut]
        rfl
      · have alone_low : low.Alone := alone.of_store_eq rfl
        rw [alone_low.dispatch]
        exact pending_dispatch (fun _ => .refl) idle_iff nests_low

/-- The dispatch that rings a chime runs three cycles: a ceiling of three leaves it alone, and a
ceiling of two cuts it before the staged event. -/
theorem ceiling_cuts_before_tick :
    let click : Event := ⟨"button", "click"⟩
    let cut := (chimeSession.withMaxCycles 2).dispatch (Session.react 1) click []
    ((chimeSession.withMaxCycles 3).dispatch (Session.react 1) click []).1 =
      .ok [⟨click, none, []⟩, ⟨⟨"chime", "ring"⟩, none, []⟩, ⟨⟨"clock", "tick"⟩, none, []⟩] ∧
    cut.1 = .error (.unboundedCycle 2 ⟨"clock", "tick"⟩) ∧ cut.2.engine.pending = 0 := by
  intro click cut
  have alone : chimeSession.Alone := ⟨rfl, by decide⟩
  let begun := (chimeSession.withMaxCycles 1000).enter click []
  have begun_alone : begun.Alone := alone.of_store_eq rfl
  have whole : (drain (Session.react 1) chime.rules true 3 click [] begun).1 =
      .ok [⟨click, none, []⟩, ⟨⟨"chime", "ring"⟩, none, []⟩, ⟨⟨"clock", "tick"⟩, none, []⟩] := by
    decide +kernel
  have part : (drain (Session.react 1) chime.rules true 2 click [] begun).1 =
      .error (.unboundedCycle 1000 ⟨"clock", "tick"⟩) := by decide +kernel
  obtain ⟨ended, -⟩ := ceiling_cuts_dispatch alone rfl (by decide) 3 1000
    (by decide) (Session.react 1) click []
  obtain ⟨-, goes_on⟩ := ceiling_cuts_dispatch alone rfl (by decide) 2 1000
    (by decide) (Session.react 1) click []
  constructor
  · obtain ⟨n, result, last, within, ends⟩ | ⟨done, event', data', u, length, answered⟩ :=
      ends_or_answered (Session.react 1) chime.rules true 3 click [] begun
    · obtain ⟨-, -, low⟩ := ended n result last within ends
      rw [ends.drain within] at whole
      rw [low, ← whole]
    · have reached := drain_of_answered answered 0
      rw [length] at reached
      rw [reached] at whole
      cases whole
  · have open_ended : ¬∃ n result last, n ≤ 2 ∧
        Ends (Session.react 1) chime.rules true click [] begun n result last := by
      rintro ⟨n, result, last, within, ends⟩
      rw [ends.drain within] at part
      obtain ⟨outcome, rfl, -⟩ | ⟨rule, name, cause, rfl⟩ := ends.result_eq begun_alone
      · cases part
      · cases part
    obtain ⟨done, event', data', u, length, answered, -, fails, -, rests⟩ := goes_on open_ended
    have reached : drain (Session.react 1) chime.rules true 2 click [] begun = _ :=
      length ▸ drain_of_answered answered 0
    rw [reached] at part
    obtain ⟨-, rfl⟩ := EngineError.unboundedCycle.inj (Except.error.inj part)
    exact ⟨fails, rests⟩

end Reflex.Session
