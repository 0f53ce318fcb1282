import Reflex.Proofs.Session.Closure
import Reflex.Proofs.Session.Cycles

/-!
# The calls under way at each moment

While an update or a dispatch is under way a session passes through moments at which others are
under way inside of it, each called by a listener that the one before it has told.  A `Moment` is a
session together with these calls, the innermost first, and an `Advance` is a step from one moment
to the next.  Updates and dispatches put a call on the others where they are admitted, and each call
goes through what it has still to do before it is taken away.

* `Session.Course` is any number of steps, and `Session.Within` any number of steps during which the
  calls of a `base` stay under way and a condition on moments holds.
* `Session.Stable` says that nothing but what is registered can put an end to a condition on
  moments.
* `Session.Lawful` is what is asked of listeners: wherever the condition holds and a listener is
  invoked, what it does is such steps inside of its invocation.
* `Session.within_perform` says that requests are answered by such steps, and `Session.lawful_react`
  that the scripts of listeners are lawful.
-/

namespace Reflex.Session

/-- A call that is under way. -/
inductive Call where
  /-- An update, with the registrations whose turn is still to come. -/
  | update (waiting : List Registration)
  /-- The invocation of a listener. -/
  | invocation (listener : String)
  | dispatch

/-- A session together with the calls that are under way, the innermost first. -/
structure Moment where
  calls : List Call
  session : Session

/-- The registrations that are told when a patch is applied. -/
def watchers (patch : Patch) (s : Session) : List Registration :=
  s.store.registrations.filter fun r => (s.store.changesOf patch).meets r.names

/-- From one moment to the next. -/
inductive Advance : Moment → Moment → Prop
  /-- Something that neither calls nor writes. -/
  | quiet {s t : Session} (calls : List Call) (step : Quiet s t) : Advance ⟨calls, s⟩ ⟨calls, t⟩
  | selected (calls : List Call) (s : Session) (rule : Nat) :
      Advance ⟨calls, s⟩ ⟨calls, s.record (.selected rule)⟩
  | answered (calls : List Call) (s : Session) (name : String) (answer : Answer) :
      Advance ⟨calls, s⟩ ⟨calls, s.record (.answered name answer)⟩
  | queue (calls : List Call) (s : Session) (event : Event) :
      Advance ⟨calls, s⟩ ⟨calls, s.queue event⟩
  /-- A dispatch takes an event out of its queue. -/
  | take {s : Session} {event : Event} {engine : Engine} (calls : List Call)
      (next : s.engine.next = some (event, engine)) :
      Advance ⟨.dispatch :: calls, s⟩ ⟨.dispatch :: calls, s.take event engine⟩
  /-- An update begins. -/
  | commit {s : Session} (calls : List Call) (patch : Patch)
      (admitted : s.store.depth < s.store.maxDepth) :
      Advance ⟨calls, s⟩ ⟨.update (s.watchers patch) :: calls, s.commit patch⟩
  /-- An update tells a callback. -/
  | callback {s : Session} {r : Registration} {l : Listener} (rs : List Registration)
      (calls : List Call) (found : s.listener? r.listener = some l) (kind : l.kind = .callback) :
      Advance ⟨.update (r :: rs) :: calls, s⟩
        ⟨.invocation r.listener :: .update rs :: calls,
          s.record (.notified r.listener (r.names.map s.store.get))⟩
  /-- An update tells a widget. -/
  | widget {s : Session} {r : Registration} {l : Listener} (rs : List Registration)
      (calls : List Call) (found : s.listener? r.listener = some l) (kind : l.kind ≠ .callback)
      (connected : l.isConnected) :
      Advance ⟨.update (r :: rs) :: calls, s⟩
        ⟨.invocation r.listener :: .update rs :: calls, s.record (.rendered r.listener)⟩
  /-- An update passes over a listener that is not connected. -/
  | passOver {s : Session} {r : Registration} (rs : List Registration) (calls : List Call)
      (absent : ∀ l, s.listener? r.listener = some l → l.isConnected = false) :
      Advance ⟨.update (r :: rs) :: calls, s⟩ ⟨.update rs :: calls, s⟩
  /-- An update has told everybody and ends. -/
  | close (calls : List Call) (s : Session) : Advance ⟨.update [] :: calls, s⟩ ⟨calls, s.close⟩
  /-- A widget is told to render itself by a request to render all. -/
  | render {s : Session} {name : String} {l : Listener} (calls : List Call)
      (found : s.listener? name = some l) (kind : l.kind ≠ .callback) (connected : l.isConnected) :
      Advance ⟨calls, s⟩ ⟨.invocation name :: calls, s.record (.rendered name)⟩
  | returned (calls : List Call) (s : Session) (name : String) :
      Advance ⟨.invocation name :: calls, s⟩ ⟨calls, s.record (.returned name)⟩
  /-- A dispatch begins. -/
  | enter {s : Session} (calls : List Call) (event : Event) (data : Fields)
      (admitted : s.engine.frames.length < s.engine.maxNesting) :
      Advance ⟨calls, s⟩ ⟨.dispatch :: calls, s.enter event data⟩
  | leave (calls : List Call) (s : Session) : Advance ⟨.dispatch :: calls, s⟩ ⟨calls, s.leave⟩

/-- Any number of steps. -/
abbrev Course : Moment → Moment → Prop :=
  Relation.ReflTransGen Advance

/-- Any number of steps during which the calls of a base stay under way, to moments of which a
condition holds. -/
def Within (P : Moment → Prop) (base : List Call) : Moment → Moment → Prop :=
  Relation.ReflTransGen fun m n => Advance m n ∧ base <:+ n.calls ∧ P n

/-- A widget is told to render itself while no update tells anybody. -/
def Renders (m n : Moment) : Prop :=
  ∃ name, n.calls = .invocation name :: m.calls

/-- A condition on moments to which only registrations and requests to render all can put an end,
and none that is admitted. -/
structure Stable (admits : Request → Prop) (P : Moment → Prop) : Prop where
  step {m n : Moment} (before : P m) (step : Advance m n)
    (calm : ¬ Renders m n ∨ admits .renderAll)
    (registrations : n.session.store.registrations = m.session.store.registrations)
    (listeners : n.session.listeners = m.session.listeners) : P n
  adjust {calls : List Call} {s : Session} (before : P ⟨calls, s⟩) (name : String)
    (f : Listener → Listener) (kind : ∀ l, (f l).kind = l.kind)
    (script : ∀ l, (f l).script = l.script) : P ⟨calls, s.adjustListener name f⟩
  observe {calls : List Call} {s : Session} {name : String} {paths : List String}
    {kind : ListenerKind} {script : List Request} {runs : Nat} (before : P ⟨calls, s⟩)
    (admitted : admits (.observe name paths kind script runs)) :
    P ⟨calls, s.observe name paths kind script runs⟩
  unobserve {calls : List Call} {s : Session} {name : String} (before : P ⟨calls, s⟩)
    (admitted : admits (.unobserve name)) :
    P ⟨calls, { s with store := s.store.unobserve name }⟩

/-- Whatever is registered, a moment that a course comes to is one. -/
lemma stable_course (o : Moment) : Stable (fun _ => True) (Course o) where
  step before step _ _ _ := before.tail step
  adjust before name f kind _ := before.tail (.quiet _ (.adjust _ name f kind))
  observe before _ := before.tail (.quiet _ (.observe _ _ _ _ _ _))
  unobserve before _ := before.tail (.quiet _ (.unobserve _ _))

variable {P : Moment → Prop} {admits : Request → Prop} {base base' calls : List Call}
  {m n o : Moment} {s t : Session}

/-- A step that puts no call on the others renders nothing. -/
lemma not_renders_of_length_le (le : n.calls.length ≤ m.calls.length) : ¬ Renders m n := by
  rintro ⟨name, same⟩
  rw [same, List.length_cons] at le
  omega

namespace Within

lemma refl (m : Moment) : Within P base m m :=
  Relation.ReflTransGen.refl

lemma trans (h : Within P base m n) (h' : Within P base n o) : Within P base m o :=
  Relation.ReflTransGen.trans h h'

lemma of_step (step : Advance m n) (inside : base <:+ n.calls) (after : P n) : Within P base m n :=
  .single ⟨step, inside, after⟩

/-- A step that ends with the calls of the base, and no others. -/
lemma of_step_self (step : Advance m ⟨calls, s⟩) (after : P ⟨calls, s⟩) :
    Within P calls m ⟨calls, s⟩ :=
  of_step step (List.suffix_refl calls) after

lemma mono (shorter : base' <:+ base) (h : Within P base m n) : Within P base' m n :=
  Relation.ReflTransGen.mono (fun _ _ step => ⟨step.1, shorter.trans step.2.1, step.2.2⟩) _ _ h

lemma course (h : Within P base m n) : Course m n :=
  Relation.ReflTransGen.mono (fun _ _ step => step.1) _ _ h

lemma after (h : Within P base m n) (before : P m) : P n := by
  cases h with
  | refl => exact before
  | tail _ last => exact last.2.2

end Within

/-- From one session to another by steps that leave the calls that are under way as they are, if the
condition holds at that moment. -/
def Passes (P : Moment → Prop) (calls : List Call) (s t : Session) : Prop :=
  P ⟨calls, s⟩ → Within P calls ⟨calls, s⟩ ⟨calls, t⟩

/-- Wherever the condition holds and a listener is invoked, what it does stays inside of its
invocation. -/
def Lawful (P : Moment → Prop) (react : Reaction) : Prop :=
  ∀ name calls s, Passes P (.invocation name :: calls) s (react name s)

variable {react : Reaction} {event : Event} {data : Fields} {rules : List CompiledRule}

namespace Passes

lemma refl (P : Moment → Prop) (calls : List Call) (s : Session) : Passes P calls s s :=
  fun _ => .refl _

lemma trans {u : Session} (h : Passes P calls s t) (h' : Passes P calls t u) :
    Passes P calls s u :=
  fun before => (h before).trans (h' ((h before).after before))

variable (stable : Stable admits P)
include stable

/-- A step that registers nothing. -/
lemma of_step (step : Advance ⟨calls, s⟩ ⟨calls, t⟩)
    (registrations : t.store.registrations = s.store.registrations)
    (listeners : t.listeners = s.listeners) : Passes P calls s t :=
  fun before => .of_step_self step
    (stable.step before step (.inl (not_renders_of_length_le (Nat.le_refl _))) registrations
      listeners)

lemma queueAll (events : List Event) (s : Session) : Passes P calls s (s.queueAll events) :=
  List.foldlRecOn _ _ (.refl P calls s) fun t before event _ =>
    before.trans (.of_step stable (.queue calls t event) rfl rfl)

lemma considering (s : Session) : Passes P calls s (s.considering rules event data) :=
  queueAll stable _ s

lemma firing {rule : CompiledRule} (s : Session) :
    Passes P calls s (s.firing rules event data rule) := by
  have considered : Passes P calls s (s.considering rules event data) := considering stable s
  have selected := considered.trans (.of_step stable (.selected calls _ rule.index) rfl rfl)
  exact selected.trans (queueAll stable _ _)

lemma recordFired (s : Session) (outermost : Bool) (fired? : Option Nat) :
    Passes P calls s (s.recordFired outermost fired?) := by
  refine of_step stable (.quiet calls (.recordFired s outermost fired?)) ?_ ?_
  · rw [store_recordFired]
  · cases outermost <;> rfl

end Passes

section

variable (stable : Stable admits P) (lawful : Lawful P react)
include stable lawful

/-! ## Updates -/

/-- A step to the invocation of a listener, and the invocation. -/
lemma within_invoke {name : String} {entry : Entry} (before : P m)
    (step : Advance m ⟨.invocation name :: calls, s.record entry⟩)
    (calm : ¬ Renders m ⟨.invocation name :: calls, s.record entry⟩ ∨ admits .renderAll)
    (registrations : s.store.registrations = m.session.store.registrations)
    (listeners : s.listeners = m.session.listeners) :
    Within P calls m ⟨calls, invoke react name entry s⟩ := by
  have invoked := stable.step before step calm registrations listeners
  have during := lawful name calls _ invoked
  have returns : Advance ⟨.invocation name :: calls, react name (s.record entry)⟩
      ⟨calls, invoke react name entry s⟩ := .returned calls _ name
  have returned := stable.step (during.after invoked) returns
    (.inl (not_renders_of_length_le (Nat.le_succ _))) rfl rfl
  exact ((Within.of_step step (List.suffix_cons _ calls) invoked).trans
    (during.mono (List.suffix_cons _ calls))).trans (.of_step_self returns returned)

/-- A turn of an update. -/
lemma within_tell {r : Registration} {rs : List Registration}
    (before : P ⟨.update (r :: rs) :: calls, s⟩) :
    Within P (.update rs :: calls) ⟨.update (r :: rs) :: calls, s⟩
      ⟨.update rs :: calls, tell react r s⟩ := by
  -- The step that passes over the listener.
  have skips (absent : ∀ l, s.listener? r.listener = some l → l.isConnected = false) :
      Within P (.update rs :: calls) ⟨.update (r :: rs) :: calls, s⟩ ⟨.update rs :: calls, s⟩ :=
    .of_step_self (.passOver rs calls absent) (stable.step before (.passOver rs calls absent)
      (.inl (not_renders_of_length_le (Nat.le_refl _))) rfl rfl)
  -- An update that tells a listener goes on to the next one.
  have told (entry : Entry) : ¬ Renders ⟨.update (r :: rs) :: calls, s⟩
      ⟨.invocation r.listener :: .update rs :: calls, s.record entry⟩ := by
    rintro ⟨name, same⟩
    simp at same
  cases found : s.listener? r.listener with
  | none =>
    simp only [tell, found]
    exact skips fun l other => by cases found.symm.trans other
  | some l =>
    simp only [tell, found]
    cases kind : l.kind with
    | callback =>
      exact within_invoke stable lawful before (.callback rs calls found kind) (.inl (told _)) rfl
        rfl
    | widget | plainWidget =>
      by_cases connected : l.isConnected
      · rw [if_pos connected, render]
        exact within_invoke stable lawful before
          (.widget rs calls found (by simp [kind]) connected) (.inl (told _)) rfl rfl
      · rw [if_neg connected]
        refine skips fun l' other => ?_
        cases found.symm.trans other
        exact Bool.eq_false_iff.2 connected

/-- The turns of an update, one after the other. -/
lemma within_turns (rs : List Registration) (before : P ⟨.update rs :: calls, s⟩) :
    Within P calls ⟨.update rs :: calls, s⟩
      ⟨.update [] :: calls, rs.foldl (fun t r => tell react r t) s⟩ := by
  induction rs generalizing s with
  | nil => exact .refl _
  | cons r rs ih =>
    have turn := within_tell stable lawful before
    exact (turn.mono (List.suffix_cons _ calls)).trans (ih (turn.after before))

lemma passes_update (patch : Patch) (s : Session) :
    Passes P calls s (s.update react patch).2 := by
  rcases Nat.lt_or_ge s.store.depth s.store.maxDepth with admitted | full
  · intro before
    have begins : Advance ⟨calls, s⟩ ⟨.update (s.watchers patch) :: calls, s.commit patch⟩ :=
      .commit calls patch admitted
    have begun := stable.step before begins (.inl fun ⟨_, same⟩ => by cases same) rfl rfl
    rw [update_of_admitted admitted]
    have turns := within_turns stable lawful (s.watchers patch) begun
    have ended := stable.step (turns.after begun) (.close calls _)
      (.inl (not_renders_of_length_le (Nat.le_succ _))) rfl rfl
    exact ((Within.of_step begins (List.suffix_cons _ calls) begun).trans turns).trans
      (.of_step_self (.close calls _) ended)
  · rw [update_of_full full]
    exact .refl P calls s

lemma passes_renderAll (admitted : admits .renderAll) (s : Session) :
    Passes P calls s (s.renderAll react) := by
  refine List.foldlRecOn _ _ (.refl P calls s) fun t passed r _ => passed.trans ?_
  split
  · exact .refl P calls t
  · rename_i l found
    split
    · rename_i told
      obtain ⟨kind, connected⟩ : l.kind ≠ .callback ∧ l.isConnected := by simpa using told
      exact fun before =>
        within_invoke stable lawful before (.render calls found kind connected) (.inr admitted) rfl
          rfl
    · exact .refl P calls t

/-! ## Dispatches -/

lemma passes_cycle (s : Session) : Passes P calls s (cycle react rules event data s).2 := by
  cases ending : cycle react rules event data s with
  | mk result t =>
    cases concludes_of_cycle_eq ending with
    | unanswered _ => exact .considering stable s
    | fails _ _ => exact .firing stable s
    | refused _ _ _ => exact .firing stable s
    | fires _ _ _ => exact (Passes.firing stable s).trans (passes_update stable lawful _ _)

/-- The cycles of a dispatch run inside of it. -/
lemma passes_drain (rules : List CompiledRule) (outermost : Bool) (left : Nat) (event : Event)
    (data : Fields) (s : Session) :
    Passes P (.dispatch :: calls) s (drain react rules outermost left event data s).2 := by
  induction left generalizing event data s with
  | zero => exact .refl P _ s
  | succ left ih =>
    have first : Passes P (.dispatch :: calls) s (cycle react rules event data s).2 :=
      passes_cycle stable lawful s
    rw [drain]
    cases ending : cycle react rules event data s with
    | mk result t =>
      rw [ending] at first
      cases result with
      | error failure => exact first
      | ok done =>
        have recorded := first.trans (.recordFired stable t outermost done.fired?)
        cases next : (t.recordFired outermost done.fired?).engine.next with
        | none => simpa only [next] using recorded
        | some taken =>
          simp only [next]
          exact (recorded.trans (.of_step stable (.take calls next) rfl rfl)).trans (ih _ _ _)

lemma passes_dispatch (event : Event) (data : Fields) (s : Session) :
    Passes P calls s (s.dispatch react event data).2 := by
  rw [dispatch]
  split
  · exact .refl P calls s
  · rename_i admitted
    intro before
    have begins : Advance ⟨calls, s⟩ ⟨.dispatch :: calls, s.enter event data⟩ :=
      .enter calls event data (Nat.not_le.1 admitted)
    have begun := stable.step before begins (.inl fun ⟨_, same⟩ => by cases same) rfl rfl
    have cycles := passes_drain stable lawful s.engine.program.rules s.engine.isIdle
      s.engine.maxCycles event data (s.enter event data) begun
    have ended := stable.step (cycles.after begun) (.leave calls _)
      (.inl (not_renders_of_length_le (Nat.le_succ _))) rfl rfl
    exact ((Within.of_step begins (List.suffix_cons _ calls) begun).trans
      (cycles.mono (List.suffix_cons _ calls))).trans (.of_step_self (.leave calls _) ended)

/-! ## Requests -/

lemma closed_passes (calls : List Call) : Closed react admits (Passes P calls) where
  refl := .refl P calls
  trans := .trans
  quiet step := .of_step stable (.quiet calls step)
  adjust s name f kind script before :=
    .of_step_self (.quiet calls (.adjust s name f kind)) (stable.adjust before name f kind script)
  observe s _ _ _ _ _ admitted before :=
    .of_step_self (.quiet calls (.observe s _ _ _ _ _)) (stable.observe before admitted)
  unobserve s _ admitted before :=
    .of_step_self (.quiet calls (.unobserve s _)) (stable.unobserve before admitted)
  answered s name answer := .of_step stable (.answered calls s name answer) rfl rfl
  queue s event := .of_step stable (.queue calls s event) rfl rfl
  update s patch := passes_update stable lawful patch s
  renderAll s admitted := passes_renderAll stable lawful admitted s
  dispatch s event data := passes_dispatch stable lawful event data s

/-- An admitted request is answered by steps that leave the calls that are under way as they are. -/
theorem within_perform (before : P ⟨calls, s⟩) {request : Request} (admitted : admits request) :
    Within P calls ⟨calls, s⟩ ⟨calls, (s.perform react request).2⟩ :=
  (closed_passes stable lawful calls).perform s request admitted before

end

/-- The scripts of listeners are lawful, to whatever depth they are nested, if their requests are
admitted. -/
theorem lawful_react (stable : Stable admits P)
    (admitted : ∀ calls s name l, P ⟨calls, s⟩ → s.listener? name = some l →
      ∀ request ∈ l.script, admits request) (depth : Nat) : Lawful P (Session.react depth) := by
  induction depth with
  | zero => exact fun name calls s => .refl P _ s
  | succ depth ih =>
    intro name calls s before
    exact (closed_passes stable ih _).react_succ (fun l => admitted _ s name l before) before

end Reflex.Session
