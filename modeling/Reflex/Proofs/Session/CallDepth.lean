import Mathlib.Data.List.Infix
import Reflex.Proofs.Session.Accounting

/-!
# How many listeners are at work at once

An update invokes the listeners that it tells one after the other, so that of the listeners at work
at most one was invoked by each update under way, and the limit on updates bounds them.  A request
to render all invokes widgets too, but no count is kept of these requests.

* `Entry.atWork` counts the listeners at work at the end of a journal, and `Session.Call.invocations`
  those among the calls under way at a moment.
* `Session.Call.invocations_le` bounds them by the updates under way and the listeners that were not
  invoked by an update.
* `Session.exists_moment` says that each point of a journal is that of a moment.
* `Session.listeners_at_work_are_bounded` is the result.
-/

namespace Reflex

mutual

/-- The request neither renders all nor registers a listener that would. -/
def Request.RendersNone : Request → Prop
  | .renderAll => False
  | .observe _ _ _ script _ => Request.AllRenderNone script
  | _ => True

/-- None of the requests renders all. -/
def Request.AllRenderNone : List Request → Prop
  | [] => True
  | request :: requests => request.RendersNone ∧ Request.AllRenderNone requests

end

lemma Request.allRenderNone_iff {requests : List Request} :
    Request.AllRenderNone requests ↔ ∀ request ∈ requests, request.RendersNone := by
  induction requests with
  | nil => simp [AllRenderNone]
  | cons request requests ih => rw [AllRenderNone, ih, List.forall_mem_cons]

namespace Entry

/-- Whether an entry is that of a listener that is invoked. -/
def isInvocation : Entry → Bool
  | .notified _ _ | .rendered _ => true
  | _ => false

/-- Whether an entry is that of a listener that is done. -/
def isReturn : Entry → Bool
  | .returned _ => true
  | _ => false

/-- How many listeners were invoked and are not done yet at the end of a journal, whose latest entry
is the first. -/
def atWork (journal : List Entry) : Nat :=
  journal.countP isInvocation - journal.countP isReturn

end Entry

namespace Session

namespace Call

/-- Whether a call is the invocation of a listener. -/
def isInvocation : Call → Bool
  | .invocation _ => true
  | _ => false

/-- How many of the calls are invocations of listeners. -/
def invocations (calls : List Call) : Nat :=
  calls.countP isInvocation

/-- How many of the calls are invocations of listeners that do not stand on an update: no update
has told these listeners, and so they are widgets that a request to render all has told. -/
def renders : List Call → Nat
  | [] => 0
  | call :: calls =>
    renders calls + if call.isInvocation && !calls.head?.any isUpdate then 1 else 0

variable {calls : List Call}

@[simp] lemma invocations_cons {call : Call} :
    invocations (call :: calls) = invocations calls + if call.isInvocation then 1 else 0 :=
  List.countP_cons

@[simp] lemma updates_cons {call : Call} :
    updates (call :: calls) = updates calls + if call.isUpdate then 1 else 0 :=
  List.countP_cons

/-- Of the listeners at work each was told by an update of its own, or by none. -/
lemma invocations_le (calls : List Call) : invocations calls ≤ updates calls + renders calls := by
  -- The innermost update may still have to tell somebody.
  suffices spare : invocations calls + (if calls.head?.any isUpdate then 1 else 0) ≤
      updates calls + renders calls by omega
  induction calls with
  | nil => exact Nat.le_refl 0
  | cons call calls ih =>
    cases told : calls.head?.any isUpdate <;> cases call <;>
      simp [renders, isInvocation, isUpdate, told] at ih ⊢ <;> omega

end Call

variable {options : SessionOptions} {library : Library} {rules : RuleSet} {text? : Option String}
  {first s : Session} {m n : Moment} {calls : List Call}

/-- A step that renders nothing adds none to the listeners that no update has told. -/
lemma renders_le_of_step (step : Advance m n) (calm : ¬ Renders m n) :
    Call.renders n.calls ≤ Call.renders m.calls := by
  cases step with
  | render calls found kind connected => exact absurd ⟨_, rfl⟩ calm
  | _ => simp [Call.renders, Call.isInvocation, Call.isUpdate]

/-- Where no script renders all, no listener is at work that no update has told, unless a request
renders all. -/
lemma stable_renderless (o : Moment) : Stable Request.RendersNone fun m =>
    Course o m ∧ Call.renders m.calls = 0 ∧ m.session.Scripts Request.AllRenderNone where
  step before step calm _ listeners := by
    obtain ⟨course, none, scripts⟩ := before
    have fewer := renders_le_of_step step (calm.resolve_right id)
    refine ⟨course.tail step, by omega, ?_⟩
    rwa [Scripts, listeners]
  adjust before name f kind script :=
    ⟨before.1.tail (.quiet _ (.adjust _ name f kind)), before.2.1, before.2.2.adjust script⟩
  observe before admitted :=
    ⟨before.1.tail (.quiet _ (.observe _ _ _ _ _ _)), before.2.1, before.2.2.observe admitted⟩
  unobserve before _ :=
    ⟨before.1.tail (.quiet _ (.unobserve _ _)), before.2⟩

/-! ## The journal -/

/-- A step writes at most one entry. -/
lemma journal_of_step (step : Advance m n) : n.session.journal = m.session.journal ∨
    ∃ entry, n.session.journal = entry :: m.session.journal := by
  cases step with
  | quiet calls step => exact .inl (Runs.journal_of_quiet step)
  | passOver => exact .inl rfl
  | _ => exact .inr ⟨_, rfl⟩

/-- As many listeners were invoked as are done or at work. -/
structure Tallied (m : Moment) : Prop where
  count : m.session.journal.countP Entry.isInvocation =
    m.session.journal.countP Entry.isReturn + Call.invocations m.calls

/-- What neither invokes a listener nor returns from one keeps the tally. -/
lemma Tallied.step (h : Tallied m) (step : Advance m n) : Tallied n := by
  obtain ⟨count⟩ := h
  constructor
  cases step with
  | quiet calls step => rwa [Runs.journal_of_quiet step]
  | _ =>
    simp [List.countP_cons, Entry.isInvocation, Entry.isReturn, Call.isInvocation, commit, close,
      enter, leave, take, queue] at count ⊢
    omega

lemma Tallied.atWork (h : Tallied m) : Entry.atWork m.session.journal = Call.invocations m.calls := by
  rw [Entry.atWork, h.count, Nat.add_sub_cancel_left]

lemma Tallied.course (h : Tallied m) (course : Course m n) : Tallied n := by
  induction course with
  | refl => exact h
  | tail _ last ih => exact ih.step last

/-- When a session has been started nobody is at work. -/
lemma tallied_of_start (started : start options library rules text? = .ok first) :
    Tallied ⟨[], first⟩ := by
  obtain ⟨document, program, -, -, rfl⟩ := start_eq_ok_iff.1 started
  exact ⟨rfl⟩

/-- The journal goes through every point between two moments. -/
lemma exists_moment {P : Moment → Prop} {base : List Call} {es : List Entry}
    (within : Within P base m n) (before : P m) (later : m.session.journal <:+ es)
    (earlier : es <:+ n.session.journal) : ∃ o, P o ∧ o.session.journal = es := by
  induction within with
  | refl =>
    have same : m.session.journal = es := later.eq_of_length_le earlier.length_le
    exact ⟨m, before, same⟩
  | tail _ last ih =>
    rcases journal_of_step last.1 with same | ⟨entry, longer⟩
    · rw [same] at earlier
      exact ih earlier
    · rw [longer] at earlier
      rcases List.suffix_cons_iff.1 earlier with whole | shorter
      · exact ⟨_, last.2.2, longer.trans whole.symm⟩
      · exact ih shorter

/-! ## The bound -/

/-- At every moment the listeners at work are at most as many as updates may be under way, and those
that no update has told. -/
lemma invocations_le_of_course (started : start options library rules text? = .ok first)
    (course : Course ⟨[], first⟩ m) :
    Call.invocations m.calls ≤ options.maxUpdateDepth + Call.renders m.calls := by
  have updates := ((accounted_of_start started).course course).updates_le
  have told := Call.invocations_le m.calls
  omega

/-- **How many listeners are at work at once.**  A session is started, and requests are answered one
after the other, whatever the scripts of listeners do.  At each point of the journal there is a
moment at which the listeners that were invoked and are not done are those among the calls under
way.  They are at most as many as updates may be under way, and those that a request to render all
has told.  So as long as neither a request nor a script renders all, they are within the limit. -/
theorem listeners_at_work_are_bounded (started : start options library rules text? = .ok first)
    (requests : List Request) :
    ∀ step ∈ first.run requests, ∀ es, es <:+ step.2.journal →
      (∃ m, Course ⟨[], first⟩ m ∧ m.session.journal = es ∧
        Entry.atWork es = Call.invocations m.calls ∧
        Call.invocations m.calls ≤ options.maxUpdateDepth + Call.renders m.calls) ∧
      (Request.AllRenderNone requests → Entry.atWork es ≤ options.maxUpdateDepth) := by
  intro step mem es earlier
  have begun : first.journal <:+ es ∧ first.Scripts Request.AllRenderNone := by
    obtain ⟨document, program, -, -, rfl⟩ := start_eq_ok_iff.1 started
    exact ⟨List.nil_suffix, fun _ mem => absurd mem List.not_mem_nil⟩
  have tallied : ∀ m, Course ⟨[], first⟩ m → Entry.atWork m.session.journal =
      Call.invocations m.calls :=
    fun m course => ((tallied_of_start started).course course).atWork
  refine ⟨?_, fun renderless => ?_⟩
  · have stable := stable_course ⟨[], first⟩
    have lawful : Lawful (Course ⟨[], first⟩) (Session.react (Request.totalRuns requests)) :=
      lawful_react stable (fun _ _ _ _ _ _ _ _ => trivial) _
    have passes := (closed_passes stable lawful []).runWith (fun _ _ => trivial) first step mem
    obtain ⟨m, course, rfl⟩ := exists_moment (passes .refl) .refl begun.1 earlier
    exact ⟨m, course, rfl, tallied m course, invocations_le_of_course started course⟩
  · have stable := stable_renderless ⟨[], first⟩
    have lawful := lawful_react stable (fun _ _ _ _ before found =>
      Request.allRenderNone_iff.1 (before.2.2.script found)) (Request.totalRuns requests)
    have passes := (closed_passes stable lawful []).runWith
      (Request.allRenderNone_iff.1 renderless) first step mem
    obtain ⟨m, ⟨course, unrendered, -⟩, rfl⟩ :=
      exists_moment (passes ⟨.refl, rfl, begun.2⟩) ⟨.refl, rfl, begun.2⟩ begun.1 earlier
    have bound := invocations_le_of_course started course
    rw [tallied m course]
    omega

/-- A session in which one update may be under way. -/
def narrowSession : Session :=
  .ofParts ⟨[], [], [], 0, 1, "4.state", .holding none⟩
    (.ofProgram freshSession.engine.program .standard 1000 32)

/-- A listener that updates `a` when it is told of a change of `x`, a view of `a`, and a change of
`x`. -/
def updatingCallback : List Request := [
  .observe "relay" ["x"] .callback [.apply [("a", .set .null)]] 1, .observe "view" ["a"] .callback
    [] 0, .apply [("x", .set .null)]]

/-- The update that the listener asks for is refused, so that nobody else is at work with it. -/
theorem relay_works_alone :
    start ⟨1000, 32, 1, "4.state"⟩ .standard [] none = .ok narrowSession ∧
      Request.AllRenderNone updatingCallback ∧
      ∀ step ∈ narrowSession.run updatingCallback, ∀ es, es <:+ step.2.journal →
        Entry.atWork es ≤ 1 := by
  have started : start ⟨1000, 32, 1, "4.state"⟩ .standard [] none = .ok narrowSession := rfl
  have renderless : Request.AllRenderNone updatingCallback := by
    simp [updatingCallback, Request.AllRenderNone, Request.RendersNone]
  exact ⟨started, renderless, fun step mem es earlier =>
    (listeners_at_work_are_bounded started updatingCallback step mem es earlier).2 renderless⟩

/-- A widget that updates `a` when it is rendered, a view of `a`, and a request to render all. -/
def updatingWidget : List Request := [
  .observe "widget" ["x"] .widget [.apply [("a", .set .null)]] 1, .observe "view" ["a"] .callback
    [] 0, .renderAll]

/-- A widget that was told to render itself is at work beside the listener that its update tells,
where only one update may be under way. -/
theorem widget_and_view_at_work : ¬ ∀ (options : SessionOptions) (library : Library)
    (rules : RuleSet) (text? : Option String) (first : Session),
    start options library rules text? = .ok first → 1 ≤ options.maxUpdateDepth →
    ∀ requests, ∀ step ∈ first.run requests, ∀ es, es <:+ step.2.journal →
      Entry.atWork es ≤ options.maxUpdateDepth := by
  intro bounded
  have started : start ⟨1000, 32, 1, "4.state"⟩ .standard [] none = .ok narrowSession := rfl
  have exceeds : (narrowSession.run updatingWidget).any fun step =>
      step.2.journal.tails.any fun es => 1 < Entry.atWork es := by
    decide +kernel
  obtain ⟨step, mem, more⟩ := List.any_eq_true.1 exceeds
  obtain ⟨es, earlier, more⟩ := List.any_eq_true.1 more
  have bound := bounded _ _ _ _ _ started (Nat.le_refl 1) updatingWidget step mem es
    ((List.mem_tails _ _).1 earlier)
  exact absurd (of_decide_eq_true more) (Nat.not_lt.2 bound)

end Session

end Reflex
