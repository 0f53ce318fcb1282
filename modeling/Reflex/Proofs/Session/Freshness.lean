import Reflex.Proofs.Session.Moments
import Reflex.Proofs.Session.Notification
import Reflex.Proofs.State.Variables

/-!
# Callbacks are told the present values

A callback that watches state variables is given their values whenever an update has changed one of
them.  Listeners update the document themselves, so that an update inside of another may change it
again and tell a callback before the outer update comes to it.  `Session.callback_never_stale` says
that in the end this makes no difference: when no update is under way, a callback has last been
given the values that are there.

* `Session.Telling` is what a step has to do with what callbacks are given.
* `Session.Watching` is what every step preserves while a callback is registered: it was given the
  present values, or its turn is still to come.
* `Session.Spares` says that the scripts of listeners leave a registration alone.
-/

namespace Reflex

/-- The values that an entry gives to a callback. -/
def Entry.shown? (name : String) : Entry → Option (List Value)
  | .notified listener values => if listener = name then some values else none
  | _ => none

mutual

/-- The request neither registers the listener of a name nor drops it, nor does any script that it
registers. -/
def Request.Spares (name : String) : Request → Prop
  | .observe listener _ _ script _ => listener ≠ name ∧ Request.AllSpare name script
  | .unobserve listener => listener ≠ name
  | _ => True

/-- None of the requests registers the listener of a name or drops it. -/
def Request.AllSpare (name : String) : List Request → Prop
  | [] => True
  | request :: requests => request.Spares name ∧ Request.AllSpare name requests

end

lemma Request.allSpare_iff {name : String} {requests : List Request} :
    Request.AllSpare name requests ↔ ∀ request ∈ requests, request.Spares name := by
  induction requests with
  | nil => simp [AllSpare]
  | cons request requests ih => rw [AllSpare, ih, List.forall_mem_cons]

/-- The values that a registration watches. -/
def Registration.values (r : Registration) (store : Store) : List Value :=
  r.names.map store.get

/-- The values depend on the document alone. -/
lemma Registration.values_congr (r : Registration) {store store' : Store}
    (document : store.document = store'.document) : r.values store = r.values store' := by
  refine List.map_congr_left fun name _ => ?_
  rw [Store.get, Store.get, Store.getOr, Store.getOr, document]

namespace Session

/-- The values that were given to the invocation of a callback that started last. -/
def lastShown? (name : String) (s : Session) : Option (List Value) :=
  s.journal.findSome? (Entry.shown? name)

/-- The registrations whose turn is still to come in some update under way. -/
def Call.waiting (calls : List Call) : List Registration :=
  calls.flatMap fun
    | .update rs => rs
    | _ => []

/-- Any number of steps, after each of which a registration is there. -/
def WhileRegistered (r : Registration) : Moment → Moment → Prop :=
  Relation.ReflTransGen fun m n => Advance m n ∧ r ∈ n.session.store.registrations

variable {options : SessionOptions} {library : Library} {rules : RuleSet} {text? : Option String}
  {first s : Session} {m n : Moment} {calls : List Call} {rs : List Registration}
  {r : Registration} {name : String} {patch : Patch} {initial : List Value}

/-! ## What a step has to do with callbacks -/

@[simp] lemma Call.waiting_update :
    Call.waiting (.update rs :: calls) = rs ++ Call.waiting calls :=
  List.flatMap_cons

lemma lastShown?_record {entry : Entry} (h : entry.shown? name = none) :
    (s.record entry).lastShown? name = s.lastShown? name := by
  rw [lastShown?, journal_record, List.findSome?_cons, h]
  rfl

lemma lastShown?_notified_of_ne {name' : String} {values : List Value} (other : name' ≠ name) :
    (s.record (.notified name' values)).lastShown? name = s.lastShown? name :=
  lastShown?_record (if_neg other)

lemma lastShown?_notified {values : List Value} :
    (s.record (.notified name values)).lastShown? name = some values := by
  rw [lastShown?, journal_record, List.findSome?_cons, Entry.shown?, if_pos rfl]

/-- A step that changes no value and shows none, and takes no turn away from a callback. -/
structure Silent (m n : Moment) : Prop where
  document : n.session.store.document = m.session.store.document
  shown : ∀ name, n.session.lastShown? name = m.session.lastShown? name
  waiting : Call.waiting n.calls ⊆ Call.waiting m.calls
  callbacks : ∀ r ∈ Call.waiting m.calls, ∀ l, m.session.listener? r.listener = some l →
    l.kind = .callback → r ∈ Call.waiting n.calls

/-- What a step has to do with what callbacks are given. -/
inductive Telling : Moment → Moment → Prop
  /-- The document changes, and those who watch what has changed are to be told. -/
  | commits (calls : List Call) (s : Session) (patch : Patch) :
      Telling ⟨calls, s⟩ ⟨.update (s.watchers patch) :: calls, s.commit patch⟩
  /-- A callback is given the present values. -/
  | shows (r : Registration) (rs : List Registration) (calls : List Call) (s : Session) :
      Telling ⟨.update (r :: rs) :: calls, s⟩
        ⟨.invocation r.listener :: .update rs :: calls,
          s.record (.notified r.listener (r.values s.store))⟩
  | silent {m n : Moment} (h : Silent m n) : Telling m n

/-- The turn of a listener that is not a callback is none that a callback waits for. -/
lemma mem_waiting_of_callback {r' : Registration} {l : Listener}
    (other : ∀ l, s.listener? r.listener = some l → l.kind ≠ .callback)
    (mem : r' ∈ Call.waiting (.update (r :: rs) :: calls))
    (found : s.listener? r'.listener = some l) (kind : l.kind = .callback) :
    r' ∈ Call.waiting (.update rs :: calls) := by
  rw [Call.waiting_update, List.cons_append] at mem
  rcases List.mem_cons.1 mem with rfl | mem
  · exact absurd kind (other l found)
  · exact mem

lemma Advance.telling (step : Advance m n) : Telling m n := by
  cases step with
  | commit calls patch admitted => exact .commits calls _ patch
  | callback rs calls found kind => exact .shows _ rs calls _
  | quiet calls step =>
    have document := Runs.document_of_quiet step
    have journal := Runs.journal_of_quiet step
    exact .silent ⟨document, fun name => congrArg (List.findSome? _) journal, List.Subset.refl _,
      fun r mem l _ _ => mem⟩
  | @widget s r l rs calls found kind connected =>
    refine .silent ⟨rfl, fun name => lastShown?_record rfl, List.subset_cons_self r _,
      fun r' mem l' found' callback => ?_⟩
    exact mem_waiting_of_callback (fun l' same => by cases found.symm.trans same; exact kind) mem
      found' callback
  | @passOver s r rs calls absent =>
    refine .silent ⟨rfl, fun name => rfl, List.subset_cons_self r _,
      fun r' mem l' found' callback => ?_⟩
    -- A callback is always connected.
    exact mem_waiting_of_callback (fun l' same kind => by
      have connected := absent l' same
      simp [Listener.isConnected, kind] at connected) mem found' callback
  | _ => exact .silent ⟨rfl, fun name => lastShown?_record rfl, List.Subset.refl _,
      fun r mem l _ _ => mem⟩

lemma Advance.moves (step : Advance m n) : Moves m.session n.session := by
  cases step with
  | quiet calls step => exact .single (.quiet step)
  | queue calls s event => exact .single (.queue s event)
  | take calls next => exact .single (.take _ next)
  | commit calls patch admitted => exact .single (.commit _ patch)
  | close calls s => exact .single (.close s)
  | enter calls event data admitted => exact .single (.enter _ event data)
  | leave calls s => exact .single (.leave s)
  | passOver rs calls absent => exact .refl
  | _ => exact .single (.record _ _)

lemma Course.moves (course : Course m n) : Moves m.session n.session := by
  induction course with
  | refl => exact .refl
  | tail _ step ih => exact ih.trans step.moves

/-! ## Who is told is a listener -/

/-- Everybody whose turn is still to come and everybody who was given values is a listener. -/
structure Known (m : Moment) : Prop where
  waiting : ∀ r ∈ Call.waiting m.calls, (m.session.listener? r.listener).isSome
  shown : ∀ name, (m.session.lastShown? name).isSome → (m.session.listener? name).isSome

lemma Known.step (h : Known m) (registered : Registered m.session) (step : Advance m n) :
    Known n := by
  have stays : ∀ name, (m.session.listener? name).isSome → (n.session.listener? name).isSome :=
    fun name known => step.moves.isSome_listener? known
  cases step.telling with
  | commits calls s patch =>
    refine ⟨fun r mem => ?_, h.shown⟩
    rw [Call.waiting_update, List.mem_append] at mem
    rcases mem with mem | mem
    · exact registered.known _ (List.mem_map.2 ⟨r, (List.mem_filter.1 mem).1, rfl⟩)
    · exact h.waiting r mem
  | shows r rs calls s =>
    refine ⟨fun r' mem => h.waiting r' (List.mem_cons_of_mem r mem), fun name shown => ?_⟩
    by_cases own : r.listener = name
    · exact own ▸ h.waiting r List.mem_cons_self
    · rw [lastShown?_notified_of_ne own] at shown
      exact h.shown name shown
  | silent silent =>
    exact ⟨fun r mem => stays _ (h.waiting r (silent.waiting mem)),
      fun name shown => stays _ (h.shown name (silent.shown name ▸ shown))⟩

lemma reachable_of_course (started : start options library rules text? = .ok first)
    (course : Course ⟨[], first⟩ m) : Reachable m.session :=
  ⟨options, library, rules, text?, first, started, Course.moves course⟩

lemma known_of_course (started : start options library rules text? = .ok first)
    (course : Course ⟨[], first⟩ m) : Known m := by
  induction course with
  | refl =>
    obtain ⟨document, program, -, -, rfl⟩ := start_eq_ok_iff.1 started
    exact ⟨fun r mem => absurd mem List.not_mem_nil, fun name shown => by cases shown⟩
  | tail before step ih => exact ih.step (reachable_of_course started before).registered step

/-! ## What a callback was given -/

/-- A registered callback was given values that agree with the present ones, or its turn is still to
come.  Where it has never been given any, the values of its registration count. -/
structure Watching (r : Registration) (initial : List Value) (m : Moment) : Prop where
  callback : ∃ l, m.session.listener? r.listener = some l ∧ l.kind = .callback
  own : ∀ r' ∈ Call.waiting m.calls, r'.listener = r.listener → r' = r
  current : r ∈ Call.waiting m.calls ∨ List.Forall₂ Value.Agrees
    ((m.session.lastShown? r.listener).getD initial) (r.values m.session.store)

lemma forall₂_agrees_trans {us vs ws : List Value} (h : List.Forall₂ Value.Agrees us vs)
    (h' : List.Forall₂ Value.Agrees vs ws) : List.Forall₂ Value.Agrees us ws := by
  induction h generalizing ws with
  | nil => exact h'
  | cons agrees _ ih =>
    cases h' with
    | cons agrees' rest => exact .cons (agrees.trans agrees') (ih rest)

/-- An update keeps the values that it does not tell of. -/
lemma agrees_of_notMem_watchers (topLevel : ∀ name ∈ r.names, ∃ path, name = Path.topLevel path)
    (mem : r ∈ s.store.registrations) (untold : r ∉ s.watchers patch) :
    List.Forall₂ Value.Agrees (r.values s.store) (r.values (s.commit patch).store) := by
  rw [Registration.values, Registration.values, List.forall₂_map_left_iff,
    List.forall₂_map_right_iff, List.forall₂_same]
  intro name watched
  obtain ⟨path, rfl⟩ := topLevel name watched
  refine Store.agrees_of_notMem_changesOf fun changed => untold ?_
  exact List.mem_filter.2 ⟨mem, List.any_eq_true.2 ⟨_, watched, List.contains_iff_mem.2 changed⟩⟩

/-- Every step keeps a callback watching while it is registered. -/
lemma Watching.step (h : Watching r initial m)
    (topLevel : ∀ name ∈ r.names, ∃ path, name = Path.topLevel path)
    (registered : Registered m.session) (step : Advance m n)
    (mem : r ∈ n.session.store.registrations) : Watching r initial n := by
  obtain ⟨l, found, kind⟩ := h.callback
  have callback : ∃ l, n.session.listener? r.listener = some l ∧ l.kind = .callback := by
    obtain ⟨l', found', kind'⟩ := step.moves.exists_listener? found
    exact ⟨l', found', kind'.trans kind⟩
  cases step.telling with
  | commits calls s patch =>
    have watcher : ∀ r' ∈ s.watchers patch, r'.listener = r.listener → r' = r :=
      fun r' mem' same =>
        List.inj_on_of_nodup_map registered.nodup (List.mem_filter.1 mem').1 mem same
    refine ⟨callback, fun r' mem' same => ?_, ?_⟩
    · rw [Call.waiting_update, List.mem_append] at mem'
      exact mem'.elim (fun mem' => watcher r' mem' same) fun mem' => h.own r' mem' same
    · rw [Call.waiting_update, List.mem_append]
      by_cases told : r ∈ s.watchers patch
      · exact .inl (.inl told)
      · exact h.current.imp .inr fun agrees =>
          forall₂_agrees_trans agrees (agrees_of_notMem_watchers topLevel mem told)
  | shows r' rs calls s =>
    refine ⟨callback, fun r'' mem' => h.own r'' (List.mem_cons_of_mem r' mem'), ?_⟩
    by_cases own : r'.listener = r.listener
    · obtain rfl := h.own r' List.mem_cons_self own
      rw [lastShown?_notified]
      exact .inr (List.forall₂_same.2 fun v _ => .refl v)
    · rw [lastShown?_notified_of_ne own]
      refine h.current.imp_left fun waits => ?_
      exact (List.mem_cons.1 waits).resolve_left fun same => own (same ▸ rfl)
  | silent silent =>
    refine ⟨callback, fun r' mem' => h.own r' (silent.waiting mem'), ?_⟩
    rw [silent.shown, r.values_congr silent.document]
    exact h.current.imp_left fun waits => silent.callbacks r waits l found kind

lemma WhileRegistered.course (h : WhileRegistered r m n) : Course m n :=
  Relation.ReflTransGen.mono (fun _ _ step => step.1) _ _ h

/-- A callback that has just been registered for the first time is watching. -/
lemma watching_observe {paths : List String} {script : List Request} {runs : Nat}
    (known : Known ⟨calls, s⟩) (new : s.listener? name = none) :
    Watching ⟨name, paths.map Path.topLevel⟩
      (Registration.values ⟨name, paths.map Path.topLevel⟩ s.store)
      ⟨calls, s.observe name paths .callback script runs⟩ where
  callback := by
    have unlisted : s.listeners.lookup name = none := new
    refine ⟨⟨.callback, true, script, runs⟩, ?_, rfl⟩
    simp [observe, listener?, List.lookup_append, unlisted]
  own r mem same := by
    have listed := known.waiting r mem
    simp only [same, new] at listed
    cases listed
  current := by
    have unshown : s.lastShown? name = none :=
      Option.not_isSome_iff_eq_none.1 fun shown => by
        have listed := known.shown name shown
        simp only [new] at listed
        cases listed
    have unshown' : (s.observe name paths .callback script runs).lastShown? name = none := unshown
    rw [unshown']
    exact .inr (List.forall₂_same.2 fun v _ => .refl v)

/-- A callback watches as long as its registration stays. -/
lemma Watching.whileRegistered (h : Watching r initial m)
    (topLevel : ∀ name ∈ r.names, ∃ path, name = Path.topLevel path)
    (reachable : Reachable m.session) (stays : WhileRegistered r m n) : Watching r initial n := by
  induction stays with
  | refl => exact h
  | tail before last ih =>
    have moves := Course.moves (WhileRegistered.course before)
    exact ih.step topLevel (reachable.moves moves).registered last.1 last.2

/-- When no update is under way no turn is still to come. -/
lemma notMem_waiting (settled : ∀ waiting, .update waiting ∉ calls) : r ∉ Call.waiting calls := by
  intro waits
  obtain ⟨call, mem, turn⟩ := List.mem_flatMap.1 waits
  cases call with
  | update waiting => exact settled waiting mem
  | _ => cases turn

/-- Without repeated names, values that agree with those of a document are structurally equal to
them. -/
lemma forall₂_same_of_agrees {vs ws : List Value} (h : List.Forall₂ Value.Agrees vs ws)
    (wellFormed : ∀ w ∈ ws, w.WellFormed) :
    List.Forall₂ (fun v w => v.same w = true) vs ws := by
  induction h with
  | nil => exact .nil
  | cons agrees _ ih =>
    obtain ⟨here, there⟩ := List.forall_mem_cons.1 wellFormed
    exact .cons (agrees.same here) (ih there)

lemma wellFormed_of_mem_values (topLevel : ∀ name ∈ r.names, ∃ path, name = Path.topLevel path)
    (wellFormed : s.store.document.WellFormed) : ∀ v ∈ r.values s.store, v.WellFormed := by
  intro v mem
  obtain ⟨name, watched, rfl⟩ := List.mem_map.1 mem
  obtain ⟨path, rfl⟩ := topLevel name watched
  rw [Store.get_topLevel]
  cases found : s.store.document.get? (Path.topLevel path) with
  | none => exact trivial
  | some v => exact wellFormed.get? found

/-! ## Listeners that leave a registration alone -/

/-- No listener has a script that registers the listener of a name or drops it. -/
def Spares (name : String) (s : Session) : Prop :=
  ∀ entry ∈ s.listeners, Request.AllSpare name entry.2.script

lemma Spares.script {l : Listener} (h : s.Spares name) {name' : String}
    (found : s.listener? name' = some l) : ∀ request ∈ l.script, request.Spares name :=
  Request.allSpare_iff.1 (Scripts.script h found)

lemma Spares.observe {name' : String} {paths : List String} {kind : ListenerKind}
    {script : List Request} {runs : Nat} (h : s.Spares name)
    (spares : Request.AllSpare name script) :
    (s.observe name' paths kind script runs).Spares name :=
  Scripts.observe h spares

lemma Spares.adjust {name' : String} {f : Listener → Listener} (h : s.Spares name)
    (script : ∀ l, (f l).script = l.script) : (s.adjustListener name' f).Spares name :=
  Scripts.adjust h script

lemma mem_registrations_observe_self (store : Store) (name : String) (paths : List String) :
    ⟨name, paths.map Path.topLevel⟩ ∈ (store.observe name paths).registrations := by
  rw [Store.observe]
  dsimp only
  split
  · rename_i registered
    obtain ⟨r, mem, own⟩ := List.any_eq_true.1 registered
    refine List.mem_map.2 ⟨r, mem, ?_⟩
    rw [if_pos own, beq_iff_eq.1 own]
  · exact List.mem_append_right _ (List.mem_singleton.2 rfl)

/-- A registration stays when another listener is registered. -/
lemma mem_registrations_observe {store : Store} {paths : List String}
    (mem : r ∈ store.registrations) (other : name ≠ r.listener) :
    r ∈ (store.observe name paths).registrations := by
  rw [Store.observe]
  dsimp only
  split
  · exact List.mem_map.2 ⟨r, mem, if_neg fun own => other (beq_iff_eq.1 own).symm⟩
  · exact List.mem_append_left _ mem

lemma WhileRegistered.mem (h : WhileRegistered r m n) (mem : r ∈ m.session.store.registrations) :
    r ∈ n.session.store.registrations := by
  cases h with
  | refl => exact mem
  | tail _ last => exact last.2

/-- A registration that is there and that the scripts of listeners leave alone stays there. -/
lemma stable_whileRegistered (o : Moment) (mem : r ∈ o.session.store.registrations) :
    Stable (Request.Spares r.listener)
      fun m => WhileRegistered r o m ∧ m.session.Spares r.listener where
  step before step _ registrations listeners := by
    refine ⟨.tail before.1 ⟨step, registrations ▸ before.1.mem mem⟩, ?_⟩
    rw [Spares, listeners]
    exact before.2
  adjust before name f kind script :=
    ⟨.tail before.1 ⟨.quiet _ (.adjust _ name f kind), before.1.mem mem⟩,
      before.2.adjust script⟩
  observe before admitted :=
    ⟨.tail before.1 ⟨.quiet _ (.observe _ _ _ _ _ _),
      mem_registrations_observe (before.1.mem mem) admitted.1⟩, before.2.observe admitted.2⟩
  unobserve before admitted :=
    ⟨.tail before.1 ⟨.quiet _ (.unobserve _ _),
      List.mem_filter.2 ⟨before.1.mem mem, bne_iff_ne.2 (Ne.symm admitted)⟩⟩, before.2⟩

/-- **No callback is left with stale values.**  At any moment of a session that has been started, be
it in the middle of an update, a listener that never was one is registered as a callback, and from
then on its registration stays: it is neither dropped nor changed.  At every later moment at which
no update is under way, the values given to the invocation of the callback that started last are
structurally equal to the values that it watches, as they are at that moment.  If it was never
invoked, so are the values at its registration.  Structural equality is that of documents in which
no object repeats a name.  The moments are those of the session as it runs: where neither a request
nor any script of a listener registers this listener or drops it, the registration stays at every
moment from the request to its answer. -/
theorem callback_never_stale (started : start options library rules text? = .ok first)
    (reached : Course ⟨[], first⟩ ⟨calls, s⟩) (new : s.listener? name = none)
    (paths : List String) (script : List Request) (runs : Nat) :
    let r : Registration := ⟨name, paths.map Path.topLevel⟩
    let o : Moment := ⟨calls, s.observe name paths .callback script runs⟩
    (∀ m, WhileRegistered r o m → (∀ waiting, .update waiting ∉ m.calls) →
      m.session.store.document.WellFormed →
      List.Forall₂ (fun shown present => shown.same present = true)
        ((m.session.lastShown? name).getD (r.values s.store)) (r.values m.session.store)) ∧
    ∀ m, WhileRegistered r o m → m.session.Spares name → ∀ depth request, request.Spares name →
      WhileRegistered r o ⟨m.calls, (m.session.perform (Session.react depth) request).2⟩ ∧
        (m.session.perform (Session.react depth) request).2.Spares name := by
  intro r o
  have topLevel : ∀ name ∈ r.names, ∃ path, name = Path.topLevel path := fun name mem => by
    obtain ⟨path, -, named⟩ := List.mem_map.1 mem
    exact ⟨path, named.symm⟩
  have begun : Course ⟨[], first⟩ o :=
    reached.tail (.quiet calls (.observe s name paths .callback script runs))
  refine ⟨fun m stays settled wellFormed => ?_, fun m stays spares depth request spared => ?_⟩
  · have watching : Watching r (r.values s.store) m :=
      (watching_observe (known_of_course started reached) new).whileRegistered topLevel
        (reachable_of_course started begun) stays
    have agrees := watching.current.resolve_left (notMem_waiting settled)
    exact forall₂_same_of_agrees agrees (wellFormed_of_mem_values topLevel wellFormed)
  · have mem : r ∈ o.session.store.registrations :=
      mem_registrations_observe_self s.store name paths
    have stable := stable_whileRegistered o mem
    have lawful : Lawful _ (Session.react depth) :=
      lawful_react stable (fun _ _ _ _ before found => before.2.script found) depth
    exact (within_perform stable lawful ⟨stays, spares⟩ spared).after ⟨stays, spares⟩

/-- A listener that takes back what is set, told before a view of `a`. -/
def resetSession : Session :=
  freshSession.observe "reset" ["a"] .callback [.apply [("a", .set .null)]] 1

/-- The view is told of the inner update before the outer one comes to it, and is not left with the
value that the outer update has set. -/
theorem view_sees_reset :
    let s := resetSession.observe "view" ["a"] .callback [] 0
    let t := (s.perform (Session.react 2) (.apply [("a", .set (.bool true))])).2
    t.lastShown? "view" = some [.null] ∧
      List.Forall₂ (fun shown present : Value => shown.same present = true) [.null]
        (Registration.values ⟨"view", ["a"].map Path.topLevel⟩ t.store) := by
  intro s t
  have started : start .default .standard [] none = .ok freshSession := rfl
  have reached : Course ⟨[], freshSession⟩ ⟨[], resetSession⟩ :=
    .single (.quiet [] (.observe freshSession "reset" ["a"] .callback _ 1))
  have new : resetSession.listener? "view" = none := rfl
  obtain ⟨fresh, stays⟩ := callback_never_stale started reached new ["a"] [] 0
  have untouched : freshSession.Spares "view" := fun _ mem => absurd mem List.not_mem_nil
  have resets : Request.AllSpare "view" [.apply [("a", .set .null)]] := ⟨trivial, trivial⟩
  have spares : s.Spares "view" := (untouched.observe resets).observe trivial
  obtain ⟨registered, -⟩ := stays _ .refl spares 2 (.apply [("a", .set (.bool true))]) trivial
  have shown : t.lastShown? "view" = some [.null] := rfl
  have document : t.store.document = [("a", .null)] := rfl
  have wellFormed : t.store.document.WellFormed :=
    document ▸ ⟨List.nodup_singleton "a", trivial, trivial⟩
  have present := fresh _ registered (fun _ => List.not_mem_nil) wellFormed
  refine ⟨shown, ?_⟩
  rwa [shown] at present

end Session

end Reflex
