import Reflex.Proofs.Session.Cycles

/-!
# Two sessions side by side

Two sessions go through the cycles of a dispatch side by side, with the same results, if they are
related in a way that the rules cannot tell apart and that every step of a cycle preserves.
`Session.Lockstep` gathers what is to be known of such a relation, and `Session.Lockstep.drain`
draws the conclusion.  What listeners do in the two sessions may differ, as long as an update
preserves the relation.
-/

namespace Reflex.Session

/-- Two steps come to the same result and leave related sessions behind. -/
def Steps {α : Type} (L : Session → Session → Prop) (x y : α × Session) : Prop :=
  x.1 = y.1 ∧ L x.2 y.2

/-- A relation between sessions that rules cannot tell apart and that the steps of their cycles
preserve. -/
structure Lockstep (react react' : Reaction) (rules : List CompiledRule)
    (L : Session → Session → Prop) : Prop where
  engine {s t : Session} : L s t → s.engine = t.engine
  select {s t : Session} : L s t → ∀ (origin : String) (data : Fields),
    CompiledRule.select (s.scope data) origin rules = CompiledRule.select (t.scope data) origin rules
  patch {s t : Session} : L s t → ∀ rule ∈ rules, ∀ data : Fields,
    rule.patch (s.scope data) = rule.patch (t.scope data)
  queue {s t : Session} : L s t → ∀ event : Event, L (s.queue event) (t.queue event)
  selected {s t : Session} : L s t → ∀ rule : Nat,
    L (s.record (.selected rule)) (t.record (.selected rule))
  recordFired {s t : Session} : L s t → ∀ (outermost : Bool) (fired? : Option Nat),
    L (s.recordFired outermost fired?) (t.recordFired outermost fired?)
  take {s t : Session} : L s t → ∀ {event : Event} {engine : Engine},
    s.engine.next = some (event, engine) → L (s.take event engine) (t.take event engine)
  update {s t : Session} : L s t → ∀ rule ∈ rules, ∀ (scope : Scope) (patch : Patch),
    (rule.patch scope).1 = .ok patch → Steps L (s.update react patch) (t.update react' patch)

namespace Lockstep

variable {react react' : Reaction} {rules : List CompiledRule} {L : Session → Session → Prop}
  {s t : Session} {event : Event} {data : Fields} {rule : CompiledRule}

lemma queueAll (h : Lockstep react react' rules L) (related : L s t) (events : List Event) :
    L (s.queueAll events) (t.queueAll events) := by
  induction events generalizing s t with
  | nil => exact related
  | cons event events ih => exact ih (h.queue related event)

lemma considering (h : Lockstep react react' rules L) (related : L s t) :
    L (s.considering rules event data) (t.considering rules event data) := by
  rw [Session.considering, Session.considering, h.select related]
  exact h.queueAll related _

lemma firing (h : Lockstep react react' rules L) (related : L s t) (mem : rule ∈ rules) :
    L (s.firing rules event data rule) (t.firing rules event data rule) := by
  rw [Session.firing, Session.firing, h.patch related rule mem]
  exact h.queueAll (h.selected (h.considering related) rule.index) _

/-- A cycle has the same result in both sessions. -/
lemma cycle (h : Lockstep react react' rules L) (related : L s t) :
    Steps L (cycle react rules event data s) (cycle react' rules event data t) := by
  rw [cycle_eq, cycle_eq, ← h.select related]
  cases selected : (CompiledRule.select (s.scope data) event.origin rules).1 with
  | none => exact ⟨rfl, h.considering related⟩
  | some rule =>
    have mem : rule ∈ rules := CompiledRule.mem_of_select selected
    simp only [fire_considering, ← h.patch related rule mem]
    cases computed : (rule.patch (s.scope data)).1 with
    | error failure => exact ⟨rfl, h.firing related mem⟩
    | ok patch =>
      obtain ⟨same, after⟩ : Steps L ((s.firing rules event data rule).update react patch)
          ((t.firing rules event data rule).update react' patch) :=
        h.update (h.firing related mem) rule mem _ patch computed
      simp only [same]
      split
      · exact ⟨rfl, after⟩
      · exact ⟨rfl, after⟩

/-- A run of cycles has the same result in both sessions. -/
theorem drain (h : Lockstep react react' rules L) (related : L s t) (outermost : Bool) (left : Nat)
    (event : Event) (data : Fields) :
    Steps L (drain react rules outermost left event data s)
      (drain react' rules outermost left event data t) := by
  induction left generalizing event data s t with
  | zero =>
    rw [Session.drain, Session.drain, h.engine related]
    exact ⟨rfl, related⟩
  | succ left ih =>
    rw [Session.drain, Session.drain]
    obtain ⟨same, after⟩ := h.cycle related
    cases first : Session.cycle react rules event data s with
    | mk result u =>
      cases second : Session.cycle react' rules event data t with
      | mk result' v =>
        rw [first, second] at same after
        obtain rfl : result = result' := same
        cases result with
        | error failure => exact ⟨rfl, after⟩
        | ok done =>
          -- The engines are the same again, so that both go on with the same event or both end.
          have recorded := h.recordFired after outermost done.fired?
          simp only [← h.engine recorded]
          cases next : (u.recordFired outermost done.fired?).engine.next with
          | none => exact ⟨rfl, recorded⟩
          | some taken =>
            obtain ⟨event', engine⟩ := taken
            obtain ⟨same', after'⟩ := ih (h.take recorded next) event' []
            exact ⟨congrArg (Except.map (done :: ·)) same', after'⟩

end Lockstep

end Reflex.Session
