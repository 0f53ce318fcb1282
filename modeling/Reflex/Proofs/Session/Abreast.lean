import Reflex.Proofs.Session.Akin
import Reflex.Proofs.Session.Cycles

/-!
# Side by side until a limit is reached

Two sessions that are akin answer requests alike and remain akin, whatever listeners do, unless they
differ in their limits and the first reaches one of them.  Everything a session does is gone through
here once, for both of the respects in which they may differ.

* `Session.Reached` says that some request of a listener was refused because of a limit.
* `Session.Concur` says that two operations come to the same result, unless a limit was reached.
* `Session.concur_perform` is about requests, `Session.follows_react` about the scripts of
  listeners, and `Session.akin_runWith` about requests one after the other.
-/

namespace Reflex

/-- Whether the store refuses because of a limit. -/
def StoreError.isCeiling : StoreError → Bool
  | .reentrancyLimit _ => true
  | _ => false

/-- Whether a dispatch fails because of a limit, be it in an update. -/
def EngineError.isCeiling : EngineError → Bool
  | .unboundedCycle _ _ => true
  | .nestingTooDeep _ => true
  | .store e => e.isCeiling
  | .update _ _ _ => false

/-- Whether a request was refused because of a limit. -/
def Answer.isCeiling : Answer → Bool
  | .storeRefused e => e.isCeiling
  | .assigned _ _ (some (.error e)) => e.isCeiling
  | .dispatchFailed e => e.isCeiling
  | _ => false

/-- Whether a request of a listener was refused because of a limit. -/
def Entry.isCeiling : Entry → Bool
  | .answered _ answer => answer.isCeiling
  | _ => false

namespace Session

/-- The limits make the difference, and one of them was reached by a request of a listener. -/
def Reached (d : Difference) (s : Session) : Prop :=
  d = .limits ∧ ∃ entry ∈ s.journal, entry.isCeiling

/-- Two sessions are akin, unless a limit was reached in the first. -/
def Abreast (d : Difference) (s t : Session) : Prop :=
  Reached d s ∨ s.Akin d t

/-- Two operations come to the same result and leave sessions behind that are akin, unless a limit
was reached in the first; `ceiling` tells of its result whether one was. -/
def Concur {α : Type} (d : Difference) (ceiling : α → Prop) (same : α → α → Prop)
    (x y : α × Session) : Prop :=
  (d = .limits ∧ ceiling x.1) ∨ Reached d x.2 ∨ (same x.1 y.1 ∧ x.2.Akin d y.2)

/-- A result is an error because of a limit. -/
def Refused {ε α : Type} (ceiling : ε → Bool) (result : Except ε α) : Prop :=
  ∃ e, result = .error e ∧ ceiling e

/-- What listeners do keeps sessions akin, unless it reaches a limit in the first. -/
def Follows (d : Difference) (react react' : Reaction) : Prop :=
  ∀ name s t, s.Akin d t → Abreast d (react name s) (react' name t)

variable {d : Difference} {react react' : Reaction} {s s' t t' : Session} {event : Event}
  {data : Fields} {rules : List CompiledRule} {rule : CompiledRule} {patch : Patch}

lemma journal_suffix_of_leads (leads : Leads s t) : s.journal <:+ t.journal := by
  obtain ⟨es, run⟩ := leads
  rw [run.journal]
  exact List.suffix_append _ _

/-- What was reached stays so. -/
lemma Reached.later (h : Reached d s) (later : s.journal <:+ s'.journal) : Reached d s' := by
  obtain ⟨limits, entry, mem, ceiling⟩ := h
  exact ⟨limits, entry, later.subset mem, ceiling⟩

/-- Operations need only be looked at where the sessions are akin. -/
lemma Abreast.after (h : Abreast d s t) (later : s.journal <:+ s'.journal)
    (akin : s.Akin d t → Abreast d s' t') : Abreast d s' t' :=
  h.elim (fun reached => .inl (reached.later later)) akin

/-! ## Updates -/

lemma abreast_invoke (follows : Follows d react react') (h : s.Akin d t) (name : String)
    (entry : Entry) : Abreast d (invoke react name entry s) (invoke react' name entry t) := by
  have done := follows name _ _ (h.recordSame entry)
  exact done.after (List.suffix_cons _ _) fun after => .inr (after.recordSame _)

lemma abreast_tell (follows : Follows d react react') (h : s.Akin d t) (r : Registration) :
    Abreast d (tell react r s) (tell react' r t) := by
  have found := h.listener? r.listener
  rw [tell, tell, ← h.store.get]
  generalize s.listener? r.listener = l? at found ⊢
  generalize t.listener? r.listener = l?' at found ⊢
  cases found with
  | none => exact .inr h
  | @some l l' like =>
    have connected : l.isConnected = l'.isConnected := by
      rw [Listener.isConnected, Listener.isConnected, like.kind, like.connected]
    simp only [← like.kind, ← connected]
    split
    · exact abreast_invoke follows h _ _
    · split
      · exact abreast_invoke follows h _ _
      · exact .inr h

/-- The turns of an update, one after the other. -/
lemma abreast_turns (orderly : Orderly react) (follows : Follows d react react')
    (rs : List Registration) (h : Abreast d s t) :
    Abreast d (rs.foldl (fun u r => tell react r u) s)
      (rs.foldl (fun u r => tell react' r u) t) := by
  induction rs generalizing s t with
  | nil => exact h
  | cons r rs ih =>
    have later := journal_suffix_of_leads (leads_tell orderly r s)
    exact ih (h.after later fun akin => abreast_tell follows akin r)

lemma abreast_notify (orderly : Orderly react) (follows : Follows d react react')
    (h : s.Akin d t) (changes : NameSet) :
    Abreast d (s.notify react changes) (t.notify react' changes) := by
  rw [notify, notify, ← h.store.registrations]
  exact abreast_turns orderly follows _ (.inr h)

lemma concur_update (orderly : Orderly react) (follows : Follows d react react')
    (h : s.Akin d t) (patch : Patch) :
    Concur d (Refused StoreError.isCeiling) Eq (s.update react patch) (t.update react' patch) := by
  have smaller : s.store.maxDepth ≤ t.store.maxDepth := h.store.maxDepth.le
  rcases Nat.lt_or_ge s.store.depth s.store.maxDepth with admitted | full
  · have admitted' : t.store.depth < t.store.maxDepth :=
      h.store.depth ▸ Nat.lt_of_lt_of_le admitted smaller
    rw [update_of_admitted admitted, update_of_admitted admitted', ← h.store.changesOf]
    have told := abreast_notify orderly follows (h.commit patch) (s.store.changesOf patch)
    rcases told with reached | akin
    · exact .inr (.inl (reached.later (List.suffix_cons _ _)))
    · exact .inr (.inr ⟨rfl, akin.close⟩)
  · rw [update_of_full full]
    cases d with
    | limits => exact .inl ⟨rfl, _, rfl, rfl⟩
    | outcomes =>
      have same : s.store.maxDepth = t.store.maxDepth := h.store.maxDepth
      have full' : t.store.maxDepth ≤ t.store.depth := by rwa [← same, ← h.store.depth]
      rw [update_of_full full', same]
      exact .inr (.inr ⟨rfl, h⟩)

lemma abreast_renderAll (orderly : Orderly react) (follows : Follows d react react')
    (h : s.Akin d t) : Abreast d (s.renderAll react) (t.renderAll react') := by
  rw [renderAll, renderAll, ← h.store.registrations]
  generalize s.store.registrations = rs
  have start : Abreast d s t := .inr h
  clear h
  induction rs generalizing s t with
  | nil => exact start
  | cons r rs ih =>
    refine ih (start.after ?_ fun h => ?_)
    · dsimp only
      split
      · exact List.suffix_refl _
      · split
        · exact journal_suffix_of_leads (leads_render orderly _ s)
        · exact List.suffix_refl _
    · have found := h.listener? r.listener
      dsimp only
      generalize s.listener? r.listener = l? at found ⊢
      generalize t.listener? r.listener = l?' at found ⊢
      cases found with
      | none => exact .inr h
      | @some l l' like =>
        have connected : l.isConnected = l'.isConnected := by
          rw [Listener.isConnected, Listener.isConnected, like.kind, like.connected]
        simp only [← like.kind, ← connected]
        split
        · exact abreast_invoke follows h _ _
        · exact .inr h

/-! ## Dispatches -/

lemma Akin.considering (h : s.Akin d t) :
    (s.considering rules event data).Akin d (t.considering rules event data) := by
  rw [Session.considering, Session.considering, h.scope]
  exact h.queueAll _

lemma Akin.firing (h : s.Akin d t) :
    (s.firing rules event data rule).Akin d (t.firing rules event data rule) := by
  rw [Session.firing, Session.firing, h.scope]
  exact (h.considering.recordSame (.selected rule.index)).queueAll _

lemma concur_cycle (orderly : Orderly react) (follows : Follows d react react')
    (h : s.Akin d t) (rules : List CompiledRule) (event : Event) (data : Fields) :
    Concur d (Refused EngineError.isCeiling) Eq (cycle react rules event data s)
      (cycle react' rules event data t) := by
  rw [cycle_eq, cycle_eq, ← h.scope]
  cases (CompiledRule.select (s.scope data) event.origin rules).1 with
  | none => exact .inr (.inr ⟨rfl, h.considering⟩)
  | some rule =>
    simp only [fire_considering, ← h.scope]
    cases (rule.patch (s.scope data)).1 with
    | error failure => exact .inr (.inr ⟨rfl, h.firing⟩)
    | ok patch =>
      have fired : (s.firing rules event data rule).Akin d (t.firing rules event data rule) :=
        h.firing
      have updated := concur_update orderly follows fired patch
      dsimp only
      generalize (s.firing rules event data rule).update react patch = x at updated ⊢
      generalize (t.firing rules event data rule).update react' patch = y at updated ⊢
      obtain ⟨result, u⟩ := x
      obtain ⟨result', v⟩ := y
      rcases updated with ⟨limits, e, rfl, ceiling⟩ | reached | ⟨same, akin⟩
      · exact .inl ⟨limits, .store e, rfl, ceiling⟩
      · cases result <;> exact .inr (.inl reached)
      · obtain rfl : result = result' := same
        cases result <;> exact .inr (.inr ⟨rfl, akin⟩)

/-- What a cycle wrote stays written in the cycles after it. -/
lemma journal_suffix_drain (orderly : Orderly react) (rules : List CompiledRule) (outermost : Bool)
    (left : Nat) (event : Event) (data : Fields) (s : Session) :
    (cycle react rules event data s).2.journal <:+
      (drain react rules outermost (left + 1) event data s).2.journal := by
  rw [drain]
  generalize cycle react rules event data s = x
  obtain ⟨result, u⟩ := x
  cases result with
  | error e => exact List.suffix_refl _
  | ok done =>
    have recorded : (u.recordFired outermost done.fired?).journal = u.journal :=
      Runs.journal_of_quiet (.recordFired u outermost done.fired?)
    dsimp only
    split
    · exact recorded ▸ List.suffix_refl _
    · rename_i event' engine next
      obtain ⟨es, rest, -⟩ := runs_drain orderly rules outermost left event' []
        ((u.recordFired outermost done.fired?).take event' engine)
      generalize drain react rules outermost left event' [] _ = y at rest ⊢
      have later : u.journal <:+ es.reverse ++ .taken event' :: u.journal :=
        (List.suffix_cons _ _).trans (List.suffix_append _ _)
      have written := rest.journal
      rw [Session.take, journal_record, recorded] at written
      rw [← written] at later
      exact later

lemma Concur.map {α β ε : Type} {ceiling : ε → Bool} {x y : Except ε α × Session}
    (h : Concur d (Refused ceiling) Eq x y) (f : α → β) :
    Concur d (Refused ceiling) Eq (x.1.map f, x.2) (y.1.map f, y.2) := by
  rcases h with ⟨limits, e, refused, hit⟩ | reached | ⟨same, akin⟩
  · exact .inl ⟨limits, e, congrArg (Except.map f) refused, hit⟩
  · exact .inr (.inl reached)
  · exact .inr (.inr ⟨congrArg (Except.map f) same, akin⟩)

/-- A run of cycles, of which more may be left in the second session. -/
lemma concur_drain (orderly : Orderly react) (follows : Follows d react react')
    (h : s.Akin d t) (rules : List CompiledRule) (outermost : Bool) {left left' : Nat}
    (bounds : d.Bounds left left') (event : Event) (data : Fields) :
    Concur d (Refused EngineError.isCeiling) Eq (drain react rules outermost left event data s)
      (drain react' rules outermost left' event data t) := by
  induction left generalizing left' event data s t with
  | zero =>
    cases d with
    | limits => exact .inl ⟨rfl, _, rfl, rfl⟩
    | outcomes =>
      obtain rfl : 0 = left' := bounds
      have same : s.engine.maxCycles = t.engine.maxCycles := h.engine.maxCycles
      rw [drain, drain, same]
      exact .inr (.inr ⟨rfl, h⟩)
  | succ left ih =>
    -- At least one cycle is left in the second session, too.
    obtain ⟨left', rfl, less⟩ : ∃ k, left' = k + 1 ∧ d.Bounds left k := by
      cases d with
      | outcomes => exact ⟨left, bounds.symm, rfl⟩
      | limits =>
        obtain ⟨k, rfl⟩ := Nat.exists_eq_add_one_of_ne_zero (Nat.ne_zero_of_lt bounds)
        exact ⟨k, rfl, Nat.le_of_succ_le_succ bounds⟩
    have first := concur_cycle orderly follows h rules event data
    have later := journal_suffix_drain orderly rules outermost left event data s
    rw [drain] at later ⊢
    rw [drain]
    generalize cycle react rules event data s = x at first later ⊢
    generalize cycle react' rules event data t = y at first ⊢
    obtain ⟨result, u⟩ := x
    obtain ⟨result', v⟩ := y
    rcases first with ⟨limits, e, refused, ceiling⟩ | reached | ⟨same, akin⟩
    · obtain rfl : result = .error e := refused
      exact .inl ⟨limits, e, rfl, ceiling⟩
    · exact .inr (.inl (reached.later later))
    · obtain rfl : result = result' := same
      cases result with
      | error e => exact .inr (.inr ⟨rfl, akin⟩)
      | ok done =>
        have recorded := akin.recordFired outermost done.fired?
        dsimp only
        rcases recorded.engine.next with ⟨none, none'⟩ | ⟨event', taken, taken', next, next', like⟩
        · rw [none, none']
          exact .inr (.inr ⟨rfl, recorded⟩)
        · rw [next, next']
          have rest := ih (recorded.take like event') less event' []
          exact rest.map (done :: ·)

lemma concur_dispatch (orderly : Orderly react) (follows : Follows d react react')
    (h : s.Akin d t) (event : Event) (data : Fields) :
    Concur d (Refused EngineError.isCeiling) Eq (s.dispatch react event data)
      (t.dispatch react' event data) := by
  have smaller : s.engine.maxNesting ≤ t.engine.maxNesting := h.engine.maxNesting.le
  rcases Nat.lt_or_ge s.engine.frames.length s.engine.maxNesting with admitted | full
  · have admitted' : t.engine.frames.length < t.engine.maxNesting :=
      h.engine.frames ▸ Nat.lt_of_lt_of_le admitted smaller
    rw [dispatch, dispatch, if_neg (Nat.not_le.2 admitted), if_neg (Nat.not_le.2 admitted'),
      ← h.engine.program, ← h.engine.isIdle]
    have drained := concur_drain orderly follows (h.enter event data) s.engine.program.rules
      s.engine.isIdle h.engine.maxCycles event data
    dsimp only
    rcases drained with hit | reached | ⟨same, akin⟩
    · exact .inl hit
    · exact .inr (.inl (reached.later (List.suffix_cons _ _)))
    · exact .inr (.inr ⟨same, akin.leave⟩)
  · rw [dispatch, if_pos full]
    cases d with
    | limits => exact .inl ⟨rfl, _, rfl, rfl⟩
    | outcomes =>
      have same : s.engine.maxNesting = t.engine.maxNesting := h.engine.maxNesting
      have full' : t.engine.maxNesting ≤ t.engine.frames.length := by
        rwa [← same, ← h.engine.frames]
      rw [dispatch, if_pos full', same]
      exact .inr (.inr ⟨rfl, h⟩)

/-! ## Requests -/

/-- What answers are made of is the same where they are. -/
lemma Concur.answered {α ε : Type} {ceiling : ε → Bool} {x y : Except ε α × Session}
    (h : Concur d (Refused ceiling) Eq x y) (answer : Except ε α → Answer)
    (hits : ∀ e, ceiling e → (answer (.error e)).isCeiling) :
    Concur d (Answer.isCeiling ·) (Answer.Akin d) (answer x.1, x.2) (answer y.1, y.2) := by
  rcases h with ⟨limits, e, refused, hit⟩ | reached | ⟨same, akin⟩
  · refine .inl ⟨limits, ?_⟩
    rw [refused]
    exact hits e hit
  · exact .inr (.inl reached)
  · exact .inr (.inr ⟨.inl (congrArg answer same), akin⟩)

lemma concur_answerUpdate (orderly : Orderly react) (follows : Follows d react react')
    (h : s.Akin d t) (patch : Patch) :
    Concur d (Answer.isCeiling ·) (Answer.Akin d) (s.answerUpdate react patch)
      (t.answerUpdate react' patch) :=
  (concur_update orderly follows h patch).answered _ fun _ hit => hit

lemma concur_answerDispatch (orderly : Orderly react) (follows : Follows d react react')
    (h : s.Akin d t) (event : Event) (data : Fields) :
    Concur d (Answer.isCeiling ·) (Answer.Akin d) (s.answerDispatch react event data)
      (t.answerDispatch react' event data) :=
  (concur_dispatch orderly follows h event data).answered _ fun _ hit => hit

lemma concur_assign (orderly : Orderly react) (follows : Follows d react react')
    (h : s.Akin d t) (text : String) (data : Fields) (commit : Bool) :
    Concur d (Answer.isCeiling ·) (Answer.Akin d) (s.assign react text data commit)
      (t.assign react' text data commit) := by
  rw [assign, assign, ← h.store.patchOf, ← h.store.document]
  cases commit with
  | false => exact .inr (.inr ⟨.inl rfl, h⟩)
  | true =>
    have updated := concur_update orderly follows h (s.store.patchOf text data)
    exact updated.answered (fun changes => .assigned _ _ (some changes)) fun _ hit => hit

/-- Where neither session does more than to look, the answers decide. -/
lemma Concur.of_akin {answer answer' : Answer} (same : answer.Akin d answer')
    (h : s.Akin d t) :
    Concur d (Answer.isCeiling ·) (Answer.Akin d) (answer, s) (answer', t) :=
  .inr (.inr ⟨same, h⟩)

lemma concur_replaceRules (h : s.Akin d t) (rules : RuleSet) :
    Concur d (Answer.isCeiling ·) (Answer.Akin d) (s.replaceRules rules)
      (t.replaceRules rules) := by
  rw [replaceRules, replaceRules]
  split
  · exact .of_akin (.inl rfl) h
  · exact .of_akin (.inl rfl) (h.withEngine (h.engine.replace _))

lemma concur_answerObserve (h : s.Akin d t) (name : String) (paths : List String)
    (kind : ListenerKind) {script script' : List Request} (like : Request.AllAkin d script script')
    (runs : Nat) : Concur d (Answer.isCeiling ·) (Answer.Akin d)
      (s.answerObserve name paths kind script runs)
      (t.answerObserve name paths kind script' runs) := by
  have observed := h.observe name paths kind like runs
  have found := observed.listener? name
  refine .of_akin (.inl (congrArg Answer.observed ?_)) observed
  generalize (s.observe name paths kind script runs).listener? name = l? at found ⊢
  generalize (t.observe name paths kind script' runs).listener? name = l?' at found ⊢
  cases found with
  | none => rfl
  | some akin => exact akin.kind

lemma limits_akin (h : s.Akin d t) :
    (Answer.limits s.engine.maxCycles s.engine.maxNesting).Akin d
      (.limits t.engine.maxCycles t.engine.maxNesting) := by
  cases d with
  | limits => exact .inr ⟨trivial, trivial⟩
  | outcomes =>
    have cycles : s.engine.maxCycles = t.engine.maxCycles := h.engine.maxCycles
    have nesting : s.engine.maxNesting = t.engine.maxNesting := h.engine.maxNesting
    rw [cycles, nesting]
    exact .inl rfl

lemma slot_akin (h : s.Akin d t) : (Answer.slot s.store.slot.text? s.store.slot.writes).Akin d
    (.slot t.store.slot.text? t.store.slot.writes) := by
  cases d with
  | outcomes => exact .inr ⟨trivial, trivial⟩
  | limits =>
    have slot : s.store.slot = t.store.slot := h.store.slot
    rw [slot]
    exact .inl rfl

/-- A request is answered alike in both sessions, unless a limit was reached in the first. -/
theorem concur_perform (orderly : Orderly react) (follows : Follows d react react')
    (h : s.Akin d t) {request request' : Request} (like : request.Akin d request') :
    Concur d (Answer.isCeiling ·) (Answer.Akin d) (s.perform react request)
      (t.perform react' request') := by
  cases like with
  | failWrites differ on on' =>
    obtain rfl : d = .outcomes := differ
    exact .of_akin (.inl rfl) (h.withStore { h.store with slot := trivial })
  | observe name paths kind runs like => exact concur_answerObserve h name paths kind like runs
  | same =>
    cases request with
    | get path => exact .of_akin (.inl (by rw [h.store.get])) h
    | getOr path default => exact .of_akin (.inl (by rw [h.store.getOr])) h
    | snapshot => exact .of_akin (.inl (by rw [h.store.document])) h
    | key => exact .of_akin (.inl (by rw [h.store.key])) h
    | update v =>
      rw [perform, perform]
      split
      · exact concur_answerUpdate orderly follows h _
      · exact .of_akin (.inl rfl) h
    | apply patch => exact concur_answerUpdate orderly follows h patch
    | define name default => exact concur_answerUpdate orderly follows h _
    | preview patch => exact .of_akin (.inl (by rw [h.store.document])) h
    | assign text data commit => exact concur_assign orderly follows h text data commit
    | interpolate template => exact .of_akin (.inl (by rw [h.store.interpolate])) h
    | hasBeenUpdated path => exact .of_akin (.inl (by rw [h.store.hasBeenUpdated])) h
    | renderAll =>
      rcases abreast_renderAll orderly follows h with reached | akin
      · exact .inr (.inl reached)
      · exact .of_akin (.inl rfl) akin
    | observe name paths kind script runs =>
      exact concur_answerObserve h name paths kind (.same d script) runs
    | unobserve name =>
      exact .of_akin (.inl (by rw [h.store.isRegistered])) (h.withStore (h.store.unobserve name))
    | connect name on =>
      exact .of_akin (.inl rfl) (h.adjust name fun like => { like with connected := rfl })
    | failWrites on => exact .of_akin (.inl rfl) (h.withStore (h.store.switch on))
    | slot => exact .of_akin (slot_akin h) h
    | dispatch event data => exact concur_answerDispatch orderly follows h event data
    | init => exact concur_answerDispatch orderly follows h _ _
    | queue event =>
      have queued := h.queue event
      exact .of_akin (.inl (by rw [queued.engine.pending])) queued
    | pending => exact .of_akin (.inl (by rw [h.engine.pending])) h
    | lastDispatch => exact .of_akin (.inl (by rw [h.engine.last])) h
    | references => exact .of_akin (.inl (by rw [h.engine.references])) h
    | limits => exact .of_akin (limits_akin h) h
    | replaceRules rules => exact concur_replaceRules h rules
    | replaceDocument document =>
      rw [perform, perform]
      split
      · exact concur_replaceRules h _
      · exact .of_akin (.inl rfl) h

/-! ## Scripts -/

/-- The answers to a listener's requests are put on record, so that a limit that one of them reaches
is known of from then on. -/
lemma abreast_runScript (orderly : Orderly react) (follows : Follows d react react') (name : String)
    {script script' : List Request} (like : Request.AllAkin d script script') (h : s.Akin d t) :
    Abreast d (runScript react name script s) (runScript react' name script' t) := by
  induction script generalizing script' s t with
  | nil =>
    cases like
    exact .inr h
  | cons request script ih =>
    cases like with
    | cons here there =>
      rw [runScript, runScript]
      have performed := concur_perform orderly follows h here
      have later : ∀ u, u.journal <:+ (runScript react name script u).journal := fun u =>
        journal_suffix_of_leads ((closed_leads orderly).runScript name (fun _ _ => trivial) u)
      rcases performed with ⟨limits, hit⟩ | reached | ⟨same, akin⟩
      · have reached : Reached d ((s.perform react request).2.record
            (.answered name (s.perform react request).1)) :=
          ⟨limits, _, List.mem_cons_self, hit⟩
        exact .inl (reached.later (later _))
      · exact .inl ((reached.later (List.suffix_cons _ _)).later (later _))
      · exact ih there (akin.record (.answered name same))

/-- Scripts keep sessions akin, to whatever depth they are nested. -/
theorem follows_react (d : Difference) (depth : Nat) :
    Follows d (Session.react depth) (Session.react depth) := by
  induction depth with
  | zero => exact fun _ _ _ h => .inr h
  | succ depth ih =>
    intro name s t h
    have found := h.listener? name
    rw [Session.react, Session.react]
    generalize s.listener? name = l? at found ⊢
    generalize t.listener? name = l?' at found ⊢
    cases found with
    | none => exact .inr h
    | @some l l' like =>
      have spent := h.adjust name (f := fun l => { l with runs := l.runs - 1 }) fun like =>
        { like with runs := congrArg (· - 1) like.runs }
      simp only [← like.runs, ← like.script.isEmpty]
      split
      · exact .inr h
      · exact abreast_runScript (orderly_react depth) ih name like.script spent

/-! ## Requests one after the other -/

lemma runWith_cons (request : Request) (requests : List Request) :
    runWith react (request :: requests) s =
      s.perform react request :: runWith react requests (s.perform react request).2 :=
  rfl

/-- What a session answers, or does, is the same in both; the sessions that are left behind are
akin. -/
theorem akin_runWith (orderly : Orderly react) (follows : Follows d react react')
    {requests requests' : List Request} (like : Request.AllAkin d requests requests')
    (h : s.Akin d t)
    (free : d = .limits → ∀ step ∈ runWith react requests s, step.1.isCeiling = false ∧
      ∀ entry ∈ step.2.journal, entry.isCeiling = false) :
    List.Forall₂ (fun a b => a.1.Akin d b.1 ∧ a.2.Akin d b.2) (runWith react requests s)
      (runWith react' requests' t) := by
  induction requests generalizing requests' s t with
  | nil =>
    cases like
    exact .nil
  | cons request requests ih =>
    cases like with
    | cons here there =>
      rw [runWith_cons] at free ⊢
      rw [runWith_cons]
      have performed := concur_perform orderly follows h here
      rcases performed with ⟨limits, hit⟩ | ⟨limits, entry, mem, hit⟩ | ⟨same, akin⟩
      · obtain ⟨unhit, -⟩ := free limits _ List.mem_cons_self
        rw [hit] at unhit
        cases unhit
      · obtain ⟨-, unhit⟩ := free limits _ List.mem_cons_self
        rw [unhit entry mem] at hit
        cases hit
      · refine .cons ⟨same, akin⟩ (ih there akin fun limits step mem => ?_)
        exact free limits step (List.mem_cons_of_mem _ mem)

end Session

end Reflex
