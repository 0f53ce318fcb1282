import Reflex.Proofs.Session.Runs

/-!
# What requests bring about

Whatever a request is, it does one of a few things to a session.  A relation between sessions that
is `Session.Closed` under these holds between a session and the one that the request leaves behind,
and so it does of the scripts of listeners, which are made of requests.  Where a relation does not
allow everything to be registered, it is enough that the requests are among those that it admits.

* `Session.Closed.perform` is about requests, `Session.Closed.react_succ` about the script of a
  listener, and `Session.Closed.runWith` about requests one after the other.
* `Session.Scripts` is what holds of the scripts of all listeners.
-/

namespace Reflex.Session

/-- A relation that is reflexive and transitive and holds between a session and what the operations
make of it, where listeners react in the given way and the requests that change the registrations
or render all are admitted ones. -/
structure Closed (react : Reaction) (admits : Request → Prop) (R : Session → Session → Prop) :
    Prop where
  refl (s : Session) : R s s
  trans {s t u : Session} (first : R s t) (second : R t u) : R s u
  quiet {s t : Session} (step : Quiet s t)
    (registrations : t.store.registrations = s.store.registrations)
    (listeners : t.listeners = s.listeners) : R s t
  adjust (s : Session) (name : String) (f : Listener → Listener)
    (kind : ∀ l, (f l).kind = l.kind) (script : ∀ l, (f l).script = l.script) :
    R s (s.adjustListener name f)
  observe (s : Session) {name : String} {paths : List String} {kind : ListenerKind}
    {script : List Request} {runs : Nat} (admitted : admits (.observe name paths kind script runs)) :
    R s (s.observe name paths kind script runs)
  unobserve (s : Session) {name : String} (admitted : admits (.unobserve name)) :
    R s { s with store := s.store.unobserve name }
  answered (s : Session) (name : String) (answer : Answer) : R s (s.record (.answered name answer))
  queue (s : Session) (event : Event) : R s (s.queue event)
  update (s : Session) (patch : Patch) : R s (s.update react patch).2
  renderAll (s : Session) (admitted : admits .renderAll) : R s (s.renderAll react)
  dispatch (s : Session) (event : Event) (data : Fields) : R s (s.dispatch react event data).2

namespace Closed

variable {react : Reaction} {admits : Request → Prop} {R : Session → Session → Prop}
  {requests : List Request}

lemma replaceRules (h : Closed react admits R) (rules : RuleSet) (s : Session) :
    R s (s.replaceRules rules).2 := by
  rw [Session.replaceRules]
  split
  · exact h.refl s
  · exact h.quiet (.replace s _) rfl rfl

/-- The relation holds between a session and what a request makes of it. -/
theorem perform (h : Closed react admits R) (s : Session) (request : Request)
    (admitted : admits request) : R s (s.perform react request).2 := by
  cases request with
  | update v =>
    rw [Session.perform]
    split
    · exact h.update s _
    · exact h.refl s
  | apply patch => exact h.update s patch
  | define name default => exact h.update s _
  | assign text data commit =>
    cases commit with
    | false => exact h.refl s
    | true => exact h.update s _
  | renderAll => exact h.renderAll s admitted
  | observe name paths kind script runs => exact h.observe s admitted
  | unobserve name => exact h.unobserve s admitted
  | connect name on =>
    exact h.adjust s name (fun l => { l with connected := on }) (fun _ => rfl) fun _ => rfl
  | failWrites on => exact h.quiet (.failWrites s on) rfl rfl
  | dispatch event data => exact h.dispatch s event data
  | init => exact h.dispatch s _ _
  | queue event => exact h.queue s event
  | replaceRules rules => exact h.replaceRules rules s
  | replaceDocument document =>
    rw [Session.perform]
    split
    · exact h.replaceRules _ s
    · exact h.refl s
  | _ => exact h.refl s

lemma runScript (h : Closed react admits R) (name : String)
    (admitted : ∀ request ∈ requests, admits request) (s : Session) :
    R s (runScript react name requests s) := by
  induction requests generalizing s with
  | nil => exact h.refl s
  | cons request requests ih =>
    obtain ⟨here, there⟩ := List.forall_mem_cons.1 admitted
    rw [Session.runScript]
    exact h.trans (h.trans (h.perform s request here) (h.answered _ name _)) (ih there _)

/-- The relation holds between a session and what the script of a listener makes of it. -/
theorem react_succ {depth : Nat} {name : String} {s : Session}
    (h : Closed (Session.react depth) admits R)
    (admitted : ∀ l, s.listener? name = some l → ∀ request ∈ l.script, admits request) :
    R s (Session.react (depth + 1) name s) := by
  rw [Session.react]
  split
  · exact h.refl s
  · rename_i l found
    split
    · exact h.refl s
    · have spent : R s (s.adjustListener name fun l => { l with runs := l.runs - 1 }) :=
        h.adjust s name _ (fun _ => rfl) fun _ => rfl
      exact h.trans spent (h.runScript name (admitted l found) _)

/-- The relation holds between a session and every session that requests leave behind. -/
theorem runWith (h : Closed react admits R) (admitted : ∀ request ∈ requests, admits request)
    (s : Session) : ∀ step ∈ runWith react requests s, R s step.2 := by
  induction requests generalizing s with
  | nil => exact fun step mem => absurd mem List.not_mem_nil
  | cons request requests ih =>
    obtain ⟨here, there⟩ := List.forall_mem_cons.1 admitted
    intro step mem
    rw [Session.runWith] at mem
    rcases List.mem_cons.1 mem with rfl | mem
    · exact h.perform s request here
    · exact h.trans (h.perform s request here) (ih there _ step mem)

end Closed

/-! ## The scripts of all listeners -/

/-- What holds of the script of every listener. -/
def Scripts (C : List Request → Prop) (s : Session) : Prop :=
  ∀ entry ∈ s.listeners, C entry.2.script

namespace Scripts

variable {C : List Request → Prop} {s : Session} {name : String}

lemma script {l : Listener} (h : s.Scripts C) (found : s.listener? name = some l) : C l.script := by
  obtain ⟨before, after, listeners, -⟩ := List.lookup_eq_some_iff.1 found
  exact h (name, l) (by simp [listeners])

lemma observe {paths : List String} {kind : ListenerKind} {script : List Request} {runs : Nat}
    (h : s.Scripts C) (holds : C script) : (s.observe name paths kind script runs).Scripts C := by
  intro entry mem
  rw [Session.observe] at mem
  cases found : s.listener? name with
  | some l => exact h entry (by simpa only [found] using mem)
  | none =>
    simp only [found, List.mem_append, List.mem_singleton] at mem
    rcases mem with mem | rfl
    · exact h entry mem
    · exact holds

lemma adjust {f : Listener → Listener} (h : s.Scripts C)
    (script : ∀ l, (f l).script = l.script) : (s.adjustListener name f).Scripts C := by
  intro entry mem
  obtain ⟨⟨n, l⟩, listed, rfl⟩ := List.mem_map.1 mem
  have holds : C l.script := h (n, l) listed
  dsimp only
  split
  · rwa [script]
  · exact holds

end Scripts

end Reflex.Session
