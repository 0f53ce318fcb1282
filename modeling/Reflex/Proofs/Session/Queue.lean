import Reflex.Proofs.Session.Requests

/-!
# Queued events

Events that are queued wait in the frame of the innermost dispatch under way, and events that are
queued while there is none wait for the next one.  A dispatch takes them out latest first, until
none is left.  `Session.dispatch_answers_queued` says so of every dispatch, whatever listeners do
in the meantime.
-/

namespace Reflex.Session

variable {react : Reaction} {s t : Session} {event : Event} {data : Fields}

lemma pending_eq_zero (frames : s.engine.frames = []) (staged : s.engine.staged = []) :
    s.engine.pending = 0 := by
  rw [Engine.pending, frames, staged]
  rfl

/-- A dispatch that is not refused is a run of cycles between its beginning and its end. -/
lemma dispatch_eq (admitted : s.engine.frames.length < s.engine.maxNesting) :
    s.dispatch react event data =
      let cycles := drain react s.engine.program.rules s.engine.isIdle s.engine.maxCycles event data
        (s.enter event data)
      (cycles.1, cycles.2.leave) :=
  if_neg (Nat.not_le.2 admitted)

/-- A dispatch that is not nested in another leaves neither a frame nor a staged event behind. -/
lemma rests_dispatch (orderly : Orderly react) (idle : s.engine.isIdle)
    (admitted : s.engine.frames.length < s.engine.maxNesting) :
    (s.dispatch react event data).2.engine.frames = [] ∧
      (s.dispatch react event data).2.engine.staged = [] := by
  have none_under_way : s.engine.frames = [] := List.isEmpty_iff.1 idle
  obtain ⟨es, run, -⟩ := runs_drain orderly s.engine.program.rules s.engine.isIdle
    s.engine.maxCycles event data (s.enter event data)
  obtain ⟨frame', -, frames, staged, -⟩ := run.waiting.busy _ _ Runs.frames_enter
  rw [Runs.staged_enter, if_pos idle] at staged
  rw [dispatch_eq admitted]
  exact ⟨by simp [leave, Engine.leave, frames, none_under_way], staged⟩

/-- The events that waited for a dispatch are gone after it, and so are those queued during it. -/
lemma pending_dispatch (orderly : Orderly react) (idle : s.engine.isIdle)
    (admitted : s.engine.frames.length < s.engine.maxNesting) :
    (s.dispatch react event data).2.engine.pending = 0 :=
  (rests_dispatch orderly idle admitted).elim pending_eq_zero

lemma admitted_of_dispatch_eq_ok {outcome : Outcome}
    (h : s.dispatch react event data = (.ok outcome, t)) :
    s.engine.frames.length < s.engine.maxNesting := by
  rw [dispatch] at h
  split at h
  · cases h
  · rename_i admitted
    exact Nat.not_le.1 admitted

/-- **Queued events are answered once each, the latest first.**  The entries that a dispatch writes
are those of its cycles.  The first cycle answers the dispatched event.  The events of the others
are drawn from a stack: at first it holds what the dispatch takes over, which is what was staged if
it is not nested in another; every event queued during the dispatch, and not during one nested in
it, is put on the stack, by evaluated conditions and updates (`Session.Cycled`) or by listeners; and
in the end the stack is empty.  So the events answered are, up to their order, the events taken over
and the events queued.  After a dispatch that is not nested in another and that is not refused, no
event waits. -/
theorem dispatch_answers_queued (orderly : Orderly react) :
    (∀ (s t : Session) (event : Event) (data : Fields) (outcome : Outcome),
      s.dispatch react event data = (.ok outcome, t) →
      ∃ es answered last, t = last.leave ∧
        t.journal = .ended :: (es.reverse ++ .began event data :: s.journal) ∧
        Cycled s.engine.program.rules event data (s.enter event data) outcome es last ∧
        outcome.map Cycle.event = event :: answered ∧
        Draws s.engine.inherited (Entry.own es) answered [] ∧
        answered.Perm (s.engine.inherited ++ (Entry.own es).filterMap Entry.queued?)) ∧
    ∀ (s : Session) (event : Event) (data : Fields), s.engine.isIdle →
      s.engine.frames.length < s.engine.maxNesting →
      (s.dispatch react event data).2.engine.pending = 0 := by
  refine ⟨fun s t event data outcome h => ?_, fun s event data => pending_dispatch orderly⟩
  obtain ⟨es, run, whole⟩ := runs_drain orderly s.engine.program.rules s.engine.isIdle
    s.engine.maxCycles event data (s.enter event data)
  rw [dispatch_eq (admitted_of_dispatch_eq_ok h)] at h
  obtain ⟨ended, rfl⟩ := Prod.mk.inj h
  have cycled := whole outcome ended
  obtain ⟨frame', taken, frames, -, draws⟩ := run.waiting.busy _ _ Runs.frames_enter
  -- Were the frame not empty, the cycles would have gone on with its topmost event.
  have empty : frame' = [] := by
    have exhausted := cycled.exhausted
    cases frame' with
    | nil => rfl
    | cons top frame => simp [Engine.next, frames] at exhausted
  subst empty
  refine ⟨es, taken, _, rfl, ?_, cycled, ?_, draws, ?_⟩
  · exact congrArg (Entry.ended :: ·) run.journal
  · rw [cycled.events, draws.taken_eq]
  · simpa using draws.perm

/-- Rules that ring a chime in a condition that does not hold. -/
def chime : Program where
  source := [.ofParts "button" ["queue('chime', 'ring') and false"] []]
  rules := [Rule.compile 0 (.ofParts "button" ["queue('chime', 'ring') and false"] [])]
  compiled := if_pos (by decide +kernel)

/-- A session under the rules that ring a chime, in which one event is staged. -/
def chimeSession : Session :=
  (Session.ofParts ⟨[], [], [], 0, 64, "4.state", .holding none⟩
    (.ofProgram chime .standard 1000 32)).queue ⟨"clock", "tick"⟩

/-- The chime, which is queued last, is answered before the staged event. -/
theorem dispatch_answers_chime :
    let result := chimeSession.dispatch (Session.react 1) ⟨"button", "click"⟩ []
    result.1 = .ok [⟨⟨"button", "click"⟩, none, []⟩, ⟨⟨"chime", "ring"⟩, none, []⟩,
      ⟨⟨"clock", "tick"⟩, none, []⟩] ∧
    (∃ es, Draws [⟨"clock", "tick"⟩] (Entry.own es) [⟨"chime", "ring"⟩, ⟨"clock", "tick"⟩] []) ∧
    result.2.engine.pending = 0 := by
  intro result
  have answered : result.1 = .ok [⟨⟨"button", "click"⟩, none, []⟩, ⟨⟨"chime", "ring"⟩, none, []⟩,
      ⟨⟨"clock", "tick"⟩, none, []⟩] := by decide +kernel
  obtain ⟨ended, rested⟩ := dispatch_answers_queued (orderly_react 1)
  obtain ⟨es, taken, last, -, -, -, events, draws, -⟩ :=
    ended chimeSession result.2 _ _ _ (Prod.ext answered rfl)
  obtain rfl := (List.cons.inj events).2
  exact ⟨answered, ⟨es, draws⟩, rested chimeSession _ _ rfl (by decide)⟩

end Reflex.Session
