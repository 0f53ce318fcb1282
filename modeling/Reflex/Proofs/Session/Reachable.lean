import Reflex.Proofs.Session.Requests

/-!
# What holds at every moment of a session

A session passes through moments at which updates, invocations and dispatches are still under way.
All of them are `Reachable`: a `Move` is a single step of a session, and whatever moves preserve
holds at every moment.  A run is a sequence of moves (`Session.Runs.moves`), and so is all that
answers a request.

* `Session.Reachable.perform` and `Session.Reachable.run` say that requests lead from reachable
  moments to reachable ones.
* `Session.Registered` says that nobody is registered twice, nor without being a listener, which is
  so at every reachable moment.
-/

namespace Reflex

/-- A listener that is registered keeps its place, and one that is not comes last. -/
lemma Store.listeners_observe (store : Store) (name : String) (paths : List String) :
    (store.observe name paths).registrations.map Registration.listener =
      if store.isRegistered name then store.registrations.map Registration.listener
      else store.registrations.map Registration.listener ++ [name] := by
  rw [Store.observe, Store.isRegistered]
  split
  · simp only [List.map_map]
    refine List.map_congr_left fun r _ => ?_
    rw [Function.comp_apply]
    split <;> rfl
  · simp

namespace Session

/-- A single step of a session. -/
inductive Move : Session → Session → Prop
  | quiet {s t : Session} (step : Quiet s t) : Move s t
  | record (s : Session) (entry : Entry) : Move s (s.record entry)
  | queue (s : Session) (event : Event) : Move s (s.queue event)
  | take (s : Session) {event : Event} {engine : Engine}
      (next : s.engine.next = some (event, engine)) : Move s (s.take event engine)
  | commit (s : Session) (patch : Patch) : Move s (s.commit patch)
  | close (s : Session) : Move s s.close
  | enter (s : Session) (event : Event) (data : Fields) : Move s (s.enter event data)
  | leave (s : Session) : Move s s.leave

/-- Any number of steps. -/
abbrev Moves : Session → Session → Prop :=
  Relation.ReflTransGen Move

variable {s t : Session} {react : Reaction}

lemma Runs.moves {taking : Bool} {es : List Entry} (h : Runs taking s es t) : Moves s t := by
  induction h with
  | done => exact .refl
  | andThen _ _ ih ih' => exact ih.trans ih'
  | quiet _ step => exact .single (.quiet step)
  | selected _ s rule => exact .single (.record s _)
  | answered _ s name answer => exact .single (.record s _)
  | queue _ s event => exact .single (.queue s event)
  | take next => exact .single (.take _ next)
  | update _ patch _ ih => exact .head (.commit _ patch) (ih.tail (.close _))
  | invocation _ _ _ ih => exact .head (.record _ _) (ih.tail (.record _ _))
  | dispatch _ event data _ ih => exact .head (.enter _ event data) (ih.tail (.leave _))

lemma Leads.moves (h : Leads s t) : Moves s t := by
  obtain ⟨es, run⟩ := h
  exact run.moves

/-- A moment that a session comes to, however it was started. -/
def Reachable (s : Session) : Prop :=
  ∃ options library rules text? first,
    start options library rules text? = .ok first ∧ Moves first s

namespace Reachable

lemma moves (h : Reachable s) (moves : Moves s t) : Reachable t := by
  obtain ⟨options, library, rules, text?, first, started, before⟩ := h
  exact ⟨options, library, rules, text?, first, started, before.trans moves⟩

/-- A request leads from a reachable moment to a reachable one. -/
theorem perform (h : Reachable s) (orderly : Orderly react) (request : Request) :
    Reachable (s.perform react request).2 :=
  h.moves (leads_perform orderly s request).moves

/-- A session that answers requests is left at reachable moments only. -/
theorem run (h : Reachable s) (requests : List Request) :
    ∀ step ∈ s.run requests, Reachable step.2 := by
  intro step mem
  have leads : Leads s step.2 :=
    (closed_leads (orderly_react _)).runWith (fun _ _ => trivial) s step mem
  exact h.moves leads.moves

/-- What holds at the start and is preserved by every step holds at every reachable moment. -/
lemma induct {P : Session → Prop}
    (first : ∀ options library rules text? s, start options library rules text? = .ok s → P s)
    (step : ∀ s t, P s → Move s t → P t) (h : Reachable s) : P s := by
  obtain ⟨options, library, rules, text?, s₀, started, moves⟩ := h
  induction moves with
  | refl => exact first options library rules text? s₀ started
  | tail _ move ih => exact step _ _ ih move

end Reachable

/-! ## Registrations -/

/-- Everybody who is registered is registered once and is a listener. -/
structure Registered (s : Session) : Prop where
  nodup : (s.store.registrations.map Registration.listener).Nodup
  known : ∀ name ∈ s.store.registrations.map Registration.listener, (s.listener? name).isSome

lemma registered_of_start {options : SessionOptions} {library : Library} {rules : RuleSet}
    {text? : Option String} (started : start options library rules text? = .ok s) :
    Registered s := by
  obtain ⟨document, program, -, -, rfl⟩ := start_eq_ok_iff.1 started
  exact ⟨by simp [opened, ofParts], by simp [opened, ofParts]⟩

lemma listener?_adjustListener (s : Session) (name name' : String) (f : Listener → Listener) :
    (s.adjustListener name f).listener? name' =
      (s.listener? name').map fun l => if name' = name then f l else l := by
  rw [listener?, listener?, adjustListener]
  induction s.listeners with
  | nil => rfl
  | cons entry listeners ih =>
    obtain ⟨n, l⟩ := entry
    by_cases adjusted : n = name
    · subst adjusted
      by_cases same : name' = n
      · simp [same]
      · simpa [same, beq_false_of_ne same, List.lookup_cons] using ih
    · by_cases same : name' = n
      · simp [same, adjusted]
      · simpa [adjusted, beq_false_of_ne same, List.lookup_cons] using ih

/-- A listener stays a listener of its kind. -/
lemma Move.exists_listener? (move : Move s t) {name : String} {l : Listener}
    (found : s.listener? name = some l) :
    ∃ l', t.listener? name = some l' ∧ l'.kind = l.kind := by
  cases move with
  | quiet step =>
    cases step with
    | observe name' paths kind script runs =>
      rw [listener?, observe]
      cases s.listener? name' with
      | some _ => exact ⟨l, found, rfl⟩
      | none =>
        exact ⟨l, by simp [List.lookup_append, show s.listeners.lookup name = some l from found],
          rfl⟩
    | adjust name' f kind =>
      rw [listener?_adjustListener, found]
      refine ⟨_, rfl, ?_⟩
      split
      · exact kind l
      · rfl
    | recordFired outermost fired? => cases outermost <;> exact ⟨l, found, rfl⟩
    | _ => exact ⟨l, found, rfl⟩
  | _ => exact ⟨l, found, rfl⟩

/-- Nobody ceases to be a listener. -/
lemma Move.isSome_listener? (move : Move s t) {name : String} (known : (s.listener? name).isSome) :
    (t.listener? name).isSome := by
  obtain ⟨l, found⟩ := Option.isSome_iff_exists.1 known
  obtain ⟨l', found', -⟩ := move.exists_listener? found
  exact Option.isSome_iff_exists.2 ⟨l', found'⟩

lemma isSome_listener?_observe (s : Session) (name : String) (paths : List String)
    (kind : ListenerKind) (script : List Request) (runs : Nat) :
    ((s.observe name paths kind script runs).listener? name).isSome := by
  rw [listener?, observe]
  cases found : s.listener? name with
  | some l => exact Option.isSome_iff_exists.2 ⟨l, found⟩
  | none => simp [List.lookup_append, show s.listeners.lookup name = none from found]

/-- Every step keeps registrations as they ought to be. -/
lemma Registered.move (h : Registered s) (move : Move s t) : Registered t := by
  have known : ∀ name ∈ s.store.registrations.map Registration.listener,
      (t.listener? name).isSome := fun name mem => move.isSome_listener? (h.known name mem)
  cases move with
  | quiet step =>
    cases step with
    | observe name paths kind script runs =>
      have listeners := s.store.listeners_observe name paths
      by_cases registered : s.store.isRegistered name
      · rw [if_pos registered] at listeners
        exact ⟨listeners ▸ h.nodup, listeners ▸ known⟩
      · have new : name ∉ s.store.registrations.map Registration.listener := by
          simpa [Store.isRegistered] using registered
        rw [if_neg registered] at listeners
        refine ⟨?_, fun name' mem => ?_⟩
        · rw [observe, listeners, ← List.concat_eq_append]
          exact h.nodup.concat new
        · rw [observe, listeners, List.mem_append, List.mem_singleton] at mem
          rcases mem with mem | rfl
          · exact known name' mem
          · exact isSome_listener?_observe s name' paths kind script runs
    | unobserve name =>
      have fewer : (s.store.unobserve name).registrations.Sublist s.store.registrations :=
        List.filter_sublist
      exact ⟨h.nodup.sublist (fewer.map _), fun name' mem => known name' ((fewer.map _).subset mem)⟩
    | recordFired outermost fired? => cases outermost <;> exact ⟨h.nodup, known⟩
    | _ => exact ⟨h.nodup, known⟩
  | _ => exact ⟨h.nodup, known⟩

/-- Registrations are as they ought to be at every reachable moment. -/
theorem Reachable.registered (h : Reachable s) : Registered s :=
  h.induct (fun _ _ _ _ _ started => registered_of_start started) fun _ _ h move => h.move move

end Session

end Reflex
