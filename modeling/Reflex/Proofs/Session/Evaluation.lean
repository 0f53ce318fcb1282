import Reflex.Proofs.Session.Moments

/-!
# Sessions under the rules in force

Rules can be replaced at any moment, also by listeners in the middle of a dispatch.
`Session.Serves` is what a session does, told anew with the set of rules in force beside the
session.  Each piece of work begins under one set of rules and ends under one, and only a
replacement that is accepted makes a difference between the two.  A dispatch takes the rules under
which it begins and goes through all of its cycles with these, whatever the engine has stored in the
meantime.

* `Engine.InForce` says that an engine has stored the rules of a set and its references.
* `Request.demand` is what a request asks for, and `Session.perform_eq` answers it by that.
* `Session.Work` are the pieces of work, and `Session.Serves` relates a set of rules and a session
  before a piece of work to those after it.
* `Session.Serves.inForce` says that the engine has always stored the rules in force, and
  `Session.serves_iff_does` that sessions do what is served, and nothing else.
-/

namespace Reflex

/-! ## The rules in force -/

/-- An engine has stored the compiled rules of a set, and the references of the same set. -/
structure Engine.InForce (engine : Engine) (source : RuleSet) : Prop where
  compiled : source.compile = .ok engine.program.rules
  references : engine.references = source.references

namespace Engine

variable {engine engine' : Engine} {source : RuleSet} {event : Event} {data : Fields}

lemma InForce.congr (h : engine.InForce source) (program : engine'.program = engine.program)
    (references : engine'.references = engine.references) : engine'.InForce source :=
  ⟨program ▸ h.compiled, references.trans h.references⟩

lemma inForce_ofProgram {program : Program} {library : Library} {maxCycles maxNesting : Nat}
    (compiles : Program.ofRules source = .ok program) :
    (Engine.ofProgram program library maxCycles maxNesting).InForce source := by
  obtain rfl := Program.source_of_ofRules compiles
  exact ⟨program.compiled, rfl⟩

lemma inForce_replace {program : Program} (compiles : Program.ofRules source = .ok program) :
    (engine.replace program).InForce source := by
  obtain rfl := Program.source_of_ofRules compiles
  exact ⟨program.compiled, rfl⟩

lemma InForce.queue (h : engine.InForce source) (event : Event) :
    (engine.queue event).InForce source := by
  rw [Engine.queue]
  split <;> exact h.congr rfl rfl

lemma InForce.enter (h : engine.InForce source) (event : Event) (data : Fields) :
    (engine.enter event data).InForce source := by
  rw [Engine.enter]
  split <;> exact h.congr rfl rfl

lemma InForce.leave (h : engine.InForce source) : engine.leave.InForce source :=
  h.congr rfl rfl

lemma InForce.recordFired (h : engine.InForce source) (fired? : Option Nat) :
    (engine.recordFired fired?).InForce source := by
  rw [Engine.recordFired]
  split
  · exact h.congr rfl rfl
  · exact h

lemma InForce.next (h : engine.InForce source) (next : engine.next = some (event, engine')) :
    engine'.InForce source := by
  rw [Engine.next] at next
  split at next <;> cases next
  exact h.congr rfl rfl

end Engine

/-! ## What requests ask for -/

/-- What a request asks for. -/
inductive Demand where
  /-- Something that no listener is told of, and that leaves the rules alone. -/
  | plain
  | update (patch : Patch)
  | dispatch (event : Event) (data : Fields)
  | render
  /-- Other rules, which may be those of a document that has none. -/
  | replace (rules? : Except LoadError RuleSet)

namespace Request

/-- What a request asks for in a session. -/
def demand (s : Session) : Request → Demand
  | .update v =>
    match Patch.ofValue? v with
    | some patch => .update patch
    | none => .plain
  | .apply patch => .update patch
  | .define name default => .update (Patch.put [] name (.default default))
  | .assign text data true => .update (s.store.patchOf text data)
  | .renderAll => .render
  | .dispatch event data => .dispatch event data
  | .init => .dispatch ⟨initEvent, initEvent⟩ []
  | .replaceRules rules => .replace (.ok rules)
  | .replaceDocument document => .replace (RuleSet.ofDocument document)
  | _ => .plain

/-- The answer to a request that asks for an update. -/
def answerOfUpdate (s : Session) (changes : Except StoreError NameSet) : Request → Answer
  | .assign text data _ =>
    let patch := s.store.patchOf text data
    .assigned patch.keys (Patch.apply s.store.document patch) (some changes)
  | _ => .ofUpdate changes

end Request

namespace Session

/-- A request is answered by what it asks for.  Where that is something plain it makes no difference
how listeners react. -/
lemma perform_eq (react react' : Reaction) (s : Session) (request : Request) :
    s.perform react request =
      match request.demand s with
      | .plain => s.perform react' request
      | .update patch =>
        (request.answerOfUpdate s (s.update react patch).1, (s.update react patch).2)
      | .dispatch event data =>
        (.ofDispatch (s.dispatch react event data).1, (s.dispatch react event data).2)
      | .render => (.nothing, s.renderAll react)
      | .replace (.ok rules) => s.replaceRules rules
      | .replace (.error e) => (.rulesRefused e, s) := by
  cases request with
  | update v =>
    rw [perform, Request.demand]
    cases read : Patch.ofValue? v with
    | none => simp only [perform, read]
    | some patch => rfl
  | assign text data commit => cases commit <;> rfl
  | replaceDocument document =>
    rw [perform, Request.demand]
    cases RuleSet.ofDocument document <;> rfl
  | _ => rfl

section

variable {react react' : Reaction} {s : Session} {request : Request}

lemma perform_of_plain (demand : request.demand s = .plain) :
    s.perform react request = s.perform react' request := by
  rw [perform_eq react react', demand]

/-- Something plain is an event to queue, or it leaves the engine alone and writes nothing. -/
lemma queue_or_eq_of_plain (react : Reaction) (demand : request.demand s = .plain) :
    (∃ event, (s.perform react request).2 = s.queue event) ∨
      (s.perform react request).2.engine = s.engine ∧
        (s.perform react request).2.journal = s.journal := by
  cases request with
  | update v =>
    rw [perform]
    cases read : Patch.ofValue? v with
    | none => exact .inr ⟨rfl, rfl⟩
    | some patch => simp [Request.demand, read] at demand
  | assign text data commit =>
    cases commit with
    | false => exact .inr ⟨rfl, rfl⟩
    | true => cases demand
  | queue event => exact .inl ⟨event, rfl⟩
  | apply | define | renderAll | dispatch | init | replaceRules | replaceDocument => cases demand
  | _ => exact .inr ⟨rfl, rfl⟩

lemma perform_of_update {patch : Patch} (demand : request.demand s = .update patch) :
    s.perform react request =
      (request.answerOfUpdate s (s.update react patch).1, (s.update react patch).2) := by
  rw [perform_eq react react, demand]

lemma perform_of_dispatch {event : Event} {data : Fields}
    (demand : request.demand s = .dispatch event data) : s.perform react request =
      (.ofDispatch (s.dispatch react event data).1, (s.dispatch react event data).2) := by
  rw [perform_eq react react, demand]

lemma perform_of_render (demand : request.demand s = .render) :
    s.perform react request = (.nothing, s.renderAll react) := by
  rw [perform_eq react react, demand]

lemma perform_of_replace {rules : RuleSet} (demand : request.demand s = .replace (.ok rules)) :
    s.perform react request = s.replaceRules rules := by
  rw [perform_eq react react, demand]

lemma perform_of_noRules {e : LoadError} (demand : request.demand s = .replace (.error e)) :
    s.perform react request = (.rulesRefused e, s) := by
  rw [perform_eq react react, demand]

end

/-- What a registered listener is told of an update, if it is told anything. -/
def message? (s : Session) (r : Registration) : Option Entry :=
  match s.listener? r.listener with
  | none => none
  | some l =>
    match l.kind with
    | .callback => some (.notified r.listener (r.names.map s.store.get))
    | _ => if l.isConnected then some (.rendered r.listener) else none

/-- What a registered listener is told by a request to render all, if it is told anything. -/
def rendering? (s : Session) (r : Registration) : Option Entry :=
  match s.listener? r.listener with
  | none => none
  | some l => if l.kind ≠ .callback && l.isConnected then some (.rendered r.listener) else none

/-- Tells a registered listener what there is to tell. -/
def turn (react : Reaction) (message : Session → Registration → Option Entry) (s : Session)
    (r : Registration) : Session :=
  match message s r with
  | none => s
  | some entry => invoke react r.listener entry s

lemma tell_eq_turn (react : Reaction) (s : Session) (r : Registration) :
    tell react r s = turn react message? s r := by
  unfold tell turn message?
  cases s.listener? r.listener with
  | none => rfl
  | some l =>
    cases kind : l.kind with
    | callback => simp only [kind]
    | widget | plainWidget => cases connected : l.isConnected <;> simp [kind, connected, render]

lemma notify_eq_turns {react : Reaction} {changes : NameSet} {s : Session} :
    s.notify react changes =
      (s.store.registrations.filter fun r => changes.meets r.names).foldl (turn react message?) s :=
  congrArg (fun f => List.foldl f s _) (funext₂ (tell_eq_turn react))

lemma renderAll_eq_turns (react : Reaction) (s : Session) :
    s.renderAll react = s.store.registrations.foldl (turn react rendering?) s := by
  have same : (fun (t : Session) (r : Registration) =>
      match t.listener? r.listener with
      | none => t
      | some l => if l.kind ≠ .callback && l.isConnected then render react r.listener t else t) =
      turn react rendering? := by
    funext t r
    unfold turn rendering?
    cases t.listener? r.listener with
    | none => rfl
    | some l =>
      simp only
      by_cases told : (l.kind ≠ .callback && l.isConnected)
      · rw [if_pos told, if_pos told, render]
      · rw [if_neg told, if_neg told]
  exact congrArg (fun f => s.store.registrations.foldl f s) same

/-! ## Work -/

/-- A piece of work, with what comes of it. -/
inductive Work where
  /-- Requests are answered one after the other. -/
  | run (requests : List Request) (steps : List (Answer × Session))
  | request (request : Request) (answer : Answer)
  /-- A listener makes requests, one after the other. -/
  | script (listener : String) (requests : List Request)
  /-- A listener reacts to what it was told. -/
  | reaction (listener : String)
  /-- Registered listeners are told what there is to tell, one after the other. -/
  | turns (message : Session → Registration → Option Entry) (waiting : List Registration)
  | update (patch : Patch) (changes : Except StoreError NameSet)
  | dispatch (event : Event) (data : Fields) (outcome : Except EngineError Outcome)
  /-- At most as many cycles as are `left`. -/
  | cycles (rules : List CompiledRule) (outermost : Bool) (left : Nat) (event : Event)
      (data : Fields) (outcome : Except EngineError Outcome)
  | cycle (rules : List CompiledRule) (event : Event) (data : Fields)
      (done : Except EngineError Cycle)

/-- A piece of work, begun in the session `s` while the rules of `a` are in force and ended in the
session `t` while those of `b` are: `Serves depth work a s b t`, where scripts are nested at most as
deep as the number says. -/
inductive Serves : Nat → Work → RuleSet → Session → RuleSet → Session → Prop
  -- Requests.
  | finished (depth : Nat) (a : RuleSet) (s : Session) : Serves depth (.run [] []) a s a s
  | next {depth : Nat} {a b c : RuleSet} {s t u : Session} {request : Request} {answer : Answer}
      {requests : List Request} {steps : List (Answer × Session)}
      (first : Serves depth (.request request answer) a s b t)
      (rest : Serves depth (.run requests steps) b t c u) :
      Serves depth (.run (request :: requests) ((answer, t) :: steps)) a s c u
  | plain (depth : Nat) (a : RuleSet) {s : Session} {request : Request} (react : Reaction)
      (demand : request.demand s = .plain) :
      Serves depth (.request request (s.perform react request).1) a s a
        (s.perform react request).2
  | updates {depth : Nat} {a b : RuleSet} {s t : Session} {request : Request} {patch : Patch}
      {changes : Except StoreError NameSet} (demand : request.demand s = .update patch)
      (during : Serves depth (.update patch changes) a s b t) :
      Serves depth (.request request (request.answerOfUpdate s changes)) a s b t
  | dispatches {depth : Nat} {a b : RuleSet} {s t : Session} {request : Request} {event : Event}
      {data : Fields} {outcome : Except EngineError Outcome}
      (demand : request.demand s = .dispatch event data)
      (during : Serves depth (.dispatch event data outcome) a s b t) :
      Serves depth (.request request (.ofDispatch outcome)) a s b t
  | renders {depth : Nat} {a b : RuleSet} {s t : Session} {request : Request}
      (demand : request.demand s = .render)
      (during : Serves depth (.turns rendering? s.store.registrations) a s b t) :
      Serves depth (.request request .nothing) a s b t
  /-- Rules that compile are put in force. -/
  | replaces (depth : Nat) (a : RuleSet) {s : Session} {request : Request} {rules : RuleSet}
      {program : Program} (demand : request.demand s = .replace (.ok rules))
      (compiles : Program.ofRules rules = .ok program) :
      Serves depth (.request request .nothing) a s rules
        { s with engine := s.engine.replace program }
  /-- Rules that cannot be had, or that do not compile, change nothing. -/
  | refuses (depth : Nat) (a : RuleSet) {s : Session} {request : Request}
      {rules? : Except LoadError RuleSet} {e : LoadError}
      (demand : request.demand s = .replace rules?) (refused : rules? >>= RuleSet.compile = .error e) :
      Serves depth (.request request (.rulesRefused e)) a s a s
  -- Listeners.
  | silent (depth : Nat) (listener : String) (a : RuleSet) (s : Session) :
      Serves depth (.script listener []) a s a s
  | makes {depth : Nat} {a b c : RuleSet} {s t u : Session} {listener : String} {request : Request}
      {answer : Answer} {requests : List Request}
      (first : Serves depth (.request request answer) a s b t)
      (rest : Serves depth (.script listener requests) b (t.record (.answered listener answer)) c u) :
      Serves depth (.script listener (request :: requests)) a s c u
  | idle (depth : Nat) {listener : String} (a : RuleSet) {s : Session}
      (idle : depth = 0 ∨ ∀ l, s.listener? listener = some l → l.script = [] ∨ l.runs = 0) :
      Serves depth (.reaction listener) a s a s
  | reacts {depth : Nat} {a b : RuleSet} {s t : Session} {listener : String} {l : Listener}
      (found : s.listener? listener = some l) (script : l.script ≠ []) (runs : l.runs ≠ 0)
      (during : Serves depth (.script listener l.script) a
        (s.adjustListener listener fun l => { l with runs := l.runs - 1 }) b t) :
      Serves (depth + 1) (.reaction listener) a s b t
  | told (depth : Nat) (message : Session → Registration → Option Entry) (a : RuleSet)
      (s : Session) : Serves depth (.turns message []) a s a s
  | passesOver {depth : Nat} {message : Session → Registration → Option Entry} {a b : RuleSet}
      {s t : Session} {r : Registration} {waiting : List Registration} (nothing : message s r = none)
      (rest : Serves depth (.turns message waiting) a s b t) :
      Serves depth (.turns message (r :: waiting)) a s b t
  | tells {depth : Nat} {message : Session → Registration → Option Entry} {a b c : RuleSet}
      {s t u : Session} {r : Registration} {waiting : List Registration} {entry : Entry}
      (something : message s r = some entry)
      (during : Serves depth (.reaction r.listener) a (s.record entry) b t)
      (rest : Serves depth (.turns message waiting) b (t.record (.returned r.listener)) c u) :
      Serves depth (.turns message (r :: waiting)) a s c u
  -- Updates.
  | full (depth : Nat) (a : RuleSet) {s : Session} (patch : Patch)
      (full : s.store.maxDepth ≤ s.store.depth) :
      Serves depth (.update patch (.error (.reentrancyLimit s.store.maxDepth))) a s a s
  | commits {depth : Nat} {a b : RuleSet} {s t : Session} {patch : Patch}
      (admitted : s.store.depth < s.store.maxDepth)
      (during : Serves depth (.turns message? (s.watchers patch)) a (s.commit patch) b t) :
      Serves depth (.update patch (.ok (s.store.changesOf patch))) a s b t.close
  -- Dispatches.
  | tooDeep (depth : Nat) (a : RuleSet) {s : Session} (event : Event) (data : Fields)
      (full : s.engine.maxNesting ≤ s.engine.frames.length) :
      Serves depth (.dispatch event data (.error (.nestingTooDeep s.engine.maxNesting))) a s a s
  /-- The cycles of a dispatch go by the rules that are in force when it is called, and what is in
  force when they are over stays so. -/
  | enters {depth : Nat} {a b : RuleSet} {s t : Session} {event : Event} {data : Fields}
      {rules : List CompiledRule} {outcome : Except EngineError Outcome}
      (admitted : s.engine.frames.length < s.engine.maxNesting) (compiled : a.compile = .ok rules)
      (during : Serves depth (.cycles rules s.engine.isIdle s.engine.maxCycles event data outcome) a
        (s.enter event data) b t) :
      Serves depth (.dispatch event data outcome) a s b t.leave
  | spent (depth : Nat) (rules : List CompiledRule) (outermost : Bool) (event : Event)
      (data : Fields) (a : RuleSet) (s : Session) :
      Serves depth
        (.cycles rules outermost 0 event data (.error (.unboundedCycle s.engine.maxCycles event)))
        a s a s
  | breaks {depth : Nat} {rules : List CompiledRule} (outermost : Bool) (left : Nat)
      {event : Event} {data : Fields} {a b : RuleSet} {s t : Session} {e : EngineError}
      (last : Serves depth (.cycle rules event data (.error e)) a s b t) :
      Serves depth (.cycles rules outermost (left + 1) event data (.error e)) a s b t
  | ends {depth : Nat} {rules : List CompiledRule} {outermost : Bool} (left : Nat)
      {event : Event} {data : Fields} {a b : RuleSet} {s t : Session} {done : Cycle}
      (last : Serves depth (.cycle rules event data (.ok done)) a s b t)
      (exhausted : (t.recordFired outermost done.fired?).engine.next = none) :
      Serves depth (.cycles rules outermost (left + 1) event data (.ok [done])) a s b
        (t.recordFired outermost done.fired?)
  | continues {depth : Nat} {rules : List CompiledRule} {outermost : Bool} {left : Nat}
      {event event' : Event} {data : Fields} {a b c : RuleSet} {s t u : Session} {done : Cycle}
      {engine : Engine} {outcome : Except EngineError Outcome}
      (first : Serves depth (.cycle rules event data (.ok done)) a s b t)
      (next : (t.recordFired outermost done.fired?).engine.next = some (event', engine))
      (rest : Serves depth (.cycles rules outermost left event' [] outcome) b
        ((t.recordFired outermost done.fired?).take event' engine) c u) :
      Serves depth (.cycles rules outermost (left + 1) event data (outcome.map (done :: ·))) a s c u
  | unanswered (depth : Nat) {rules : List CompiledRule} {event : Event} {data : Fields}
      (a : RuleSet) {s : Session}
      (nobody : (CompiledRule.select (s.scope data) event.origin rules).1 = none) :
      Serves depth (.cycle rules event data (.ok ⟨event, none, []⟩)) a s a
        (s.considering rules event data)
  | fails (depth : Nat) {rules : List CompiledRule} {event : Event} {data : Fields} (a : RuleSet)
      {s : Session} {rule : CompiledRule} {name : String} {cause : EvalError}
      (selected : (CompiledRule.select (s.scope data) event.origin rules).1 = some rule)
      (failed : (rule.patch (s.scope data)).1 = .error (name, cause)) :
      Serves depth (.cycle rules event data (.error (.update rule.index name cause))) a s a
        (s.firing rules event data rule)
  | fires {depth : Nat} {rules : List CompiledRule} {event : Event} {data : Fields} {a b : RuleSet}
      {s t : Session} {rule : CompiledRule} {patch : Patch} {changes : Except StoreError NameSet}
      (selected : (CompiledRule.select (s.scope data) event.origin rules).1 = some rule)
      (computed : (rule.patch (s.scope data)).1 = .ok patch)
      (during : Serves depth (.update patch changes) a (s.firing rules event data rule) b t) :
      Serves depth (.cycle rules event data
        ((changes.mapError .store).map fun changes => ⟨event, some rule.index, changes⟩)) a s b t

variable {depth : Nat} {work : Work} {a b : RuleSet} {s t : Session} {react : Reaction}
  {rules : List CompiledRule} {event : Event} {data : Fields}

/-! ## The rules in force -/

/-- A session starts under the rules that it is given. -/
lemma inForce_of_start {options : SessionOptions} {library : Library} {source : RuleSet}
    {text? : Option String} (started : start options library source text? = .ok s) :
    s.engine.InForce source := by
  obtain ⟨document, program, -, compiles, rfl⟩ := start_eq_ok_iff.1 started
  exact Engine.inForce_ofProgram compiles

lemma inForce_queueAll (h : s.engine.InForce a) (events : List Event) :
    (s.queueAll events).engine.InForce a := by
  induction events generalizing s with
  | nil => exact h
  | cons event events ih => exact ih (s := s.queue event) (h.queue event)

lemma inForce_firing {rule : CompiledRule} (h : s.engine.InForce a) :
    (s.firing rules event data rule).engine.InForce a :=
  inForce_queueAll (s := (s.considering rules event data).record _) (inForce_queueAll h _) _

lemma inForce_recordFired (h : s.engine.InForce a) (outermost : Bool) (fired? : Option Nat) :
    (s.recordFired outermost fired?).engine.InForce a := by
  cases outermost with
  | false => exact h
  | true => exact h.recordFired fired?

lemma inForce_of_plain {request : Request} (h : s.engine.InForce a)
    (demand : request.demand s = .plain) : (s.perform react request).2.engine.InForce a := by
  rcases queue_or_eq_of_plain react demand with ⟨event, queued⟩ | ⟨same, -⟩
  · rw [queued]
    exact h.queue event
  · rwa [same]

/-- The engine has always stored the rules in force, and their references. -/
theorem Serves.inForce (h : Serves depth work a s b t) (before : s.engine.InForce a) :
    t.engine.InForce b := by
  induction h with
  | plain _ _ _ demand => exact inForce_of_plain before demand
  | replaces _ _ _ compiles => exact Engine.inForce_replace compiles
  | next _ _ ih ih' => exact ih' (ih before)
  | makes _ _ ih ih' => exact ih' (ih before)
  | tells _ _ _ ih ih' => exact ih' (ih before)
  | enters _ _ _ ih => exact (ih (before.enter _ _)).leave
  | ends _ _ _ ih => exact inForce_recordFired (ih before) _ _
  | continues _ next _ ih ih' => exact ih' ((inForce_recordFired (ih before) _ _).next next)
  | unanswered => exact inForce_queueAll before _
  | fails => exact inForce_firing before
  | fires _ _ _ ih => exact ih (inForce_firing before)
  | updates _ _ ih | dispatches _ _ ih | renders _ _ ih | reacts _ _ _ _ ih
  | passesOver _ _ ih | commits _ _ ih | breaks _ _ _ ih => exact ih before
  | _ => exact before

/-! ## What is served is what happens -/

/-- From one session to another by the functions that do a piece of work. -/
def Does (depth : Nat) : Work → Session → Session → Prop
  | .run requests steps, s, t =>
    runWith (Session.react depth) requests s = steps ∧ (steps.map (·.2)).getLastD s = t
  | .request request answer, s, t => s.perform (Session.react depth) request = (answer, t)
  | .script listener requests, s, t => runScript (Session.react depth) listener requests s = t
  | .reaction listener, s, t => Session.react depth listener s = t
  | .turns message waiting, s, t => waiting.foldl (turn (Session.react depth) message) s = t
  | .update patch changes, s, t => s.update (Session.react depth) patch = (changes, t)
  | .dispatch event data outcome, s, t =>
    s.dispatch (Session.react depth) event data = (outcome, t)
  | .cycles rules outermost left event data outcome, s, t =>
    drain (Session.react depth) rules outermost left event data s = (outcome, t)
  | .cycle rules event data done, s, t =>
    Session.cycle (Session.react depth) rules event data s = (done, t)

/-- A piece of work that is served is done so by the functions. -/
theorem Serves.does (h : Serves depth work a s b t) (before : s.engine.InForce a) :
    Does depth work s t := by
  induction h with
  | finished => exact ⟨rfl, rfl⟩
  | next first _ ih ih' =>
    obtain ⟨steps, last⟩ := ih' (first.inForce before)
    have answered := ih before
    simp only [Does] at answered
    refine ⟨?_, ?_⟩
    · rw [Session.runWith, answered]
      exact congrArg _ steps
    · rw [List.map_cons, List.getLastD_cons]
      exact last
  | plain _ _ _ demand => exact perform_of_plain demand
  | updates demand _ ih =>
    have updated := ih before
    rw [Does] at updated
    rw [Does, perform_of_update demand, updated]
  | dispatches demand _ ih =>
    have dispatched := ih before
    rw [Does] at dispatched
    rw [Does, perform_of_dispatch demand, dispatched]
  | renders demand _ ih =>
    have rendered := ih before
    rw [Does] at rendered
    rw [Does, perform_of_render demand, renderAll_eq_turns, rendered]
  | replaces _ _ demand compiles => simp only [Does, perform_of_replace demand, replaceRules, compiles]
  | @refuses _ _ _ _ rules? _ demand refused =>
    cases rules? with
    | error e =>
      cases refused
      exact perform_of_noRules demand
    | ok rules =>
      have fails : Program.ofRules rules = .error _ := Program.ofRules_eq_error_iff.2 refused
      simp only [Does, perform_of_replace demand, replaceRules, fails]
  | silent => rfl
  | makes first _ ih ih' =>
    have answered := ih before
    rw [Does] at answered
    rw [Does, runScript, answered]
    exact ih' (first.inForce before)
  | @idle depth listener _ s idle =>
    cases depth with
    | zero => rfl
    | succ depth =>
      have spent := idle.resolve_left (Nat.succ_ne_zero depth)
      rw [Does, Session.react]
      cases found : s.listener? listener with
      | none => rfl
      | some l => exact if_pos (by simpa using spent l found)
  | reacts found script runs _ ih =>
    have made := ih before
    rw [Does] at made
    rw [Does, Session.react, found]
    simp only
    rwa [if_neg (by simpa using ⟨script, runs⟩)]
  | told => rfl
  | passesOver nothing _ ih =>
    have rest := ih before
    simp only [Does, List.foldl_cons, turn, nothing]
    exact rest
  | tells something during _ ih ih' =>
    have reacted := ih before
    rw [Does] at reacted
    rw [Does, List.foldl_cons, turn, something]
    simp only
    rw [invoke, reacted]
    exact ih' (during.inForce before)
  | full _ _ _ full => exact update_of_full full
  | @commits depth _ _ s _ patch admitted _ ih =>
    have told := ih before
    rw [Does, watchers] at told
    rw [Does, update_of_admitted admitted, notify_eq_turns]
    exact congrArg _ (congrArg close told)
  | tooDeep _ _ _ _ full => exact if_pos full
  | enters admitted compiled during ih =>
    -- The rules in force are what the engine has stored when the dispatch is called.
    obtain rfl := Except.ok.inj (compiled.symm.trans before.compiled)
    have cycled := ih (before.enter _ _)
    rw [Does] at cycled
    rw [Does, dispatch, if_neg (Nat.not_le.2 admitted), cycled]
  | spent => rfl
  | breaks outermost left _ ih =>
    have broken := ih before
    rw [Does] at broken
    rw [Does, drain, broken]
  | ends left _ exhausted ih =>
    have ended := ih before
    rw [Does] at ended
    simp only [Does, drain, ended, exhausted]
  | continues first next _ ih ih' =>
    have cycled := ih before
    have rest := ih' ((inForce_recordFired (first.inForce before) _ _).next next)
    simp only [Does] at cycled rest
    simp only [Does, drain, cycled, next, rest]
  | unanswered _ _ nobody => rw [Does, cycle_eq, nobody]
  | fails _ _ selected failed =>
    simp only [Does, cycle_eq, selected, fire_considering, failed]
  | @fires _ _ _ _ _ _ _ _ _ _ changes selected computed _ ih =>
    have updated := ih (inForce_firing before)
    rw [Does] at updated
    simp only [Does, cycle_eq, selected, fire_considering, computed, updated]
    cases changes <;> rfl

/-! ## Sessions serve -/

/-- A piece of work leads from one session to another, whatever rules are in force. -/
def Yields (depth : Nat) (work : Work) (s t : Session) : Prop :=
  ∀ a, s.engine.InForce a → ∃ b, Serves depth work a s b t

/-- What listeners do is a piece of work. -/
def Obliging (depth : Nat) (react : Reaction) : Prop :=
  ∀ listener s, Yields depth (.reaction listener) s (react listener s)

lemma yields_replaceRules {request : Request} {rules : RuleSet}
    (demand : request.demand s = .replace (.ok rules)) :
    Yields depth (.request request (s.replaceRules rules).1) s (s.replaceRules rules).2 := by
  intro a _
  rw [replaceRules]
  cases compiles : Program.ofRules rules with
  | error e => exact ⟨a, .refuses depth a demand (Program.ofRules_eq_error_iff.1 compiles)⟩
  | ok program => exact ⟨rules, .replaces depth a demand compiles⟩

section

variable (obliging : Obliging depth react)
include obliging

lemma yields_turns (message : Session → Registration → Option Entry)
    (waiting : List Registration) (s : Session) :
    Yields depth (.turns message waiting) s (waiting.foldl (turn react message) s) := by
  induction waiting generalizing s with
  | nil => exact fun a _ => ⟨a, .told depth message a s⟩
  | cons r waiting ih =>
    intro a before
    rw [List.foldl_cons]
    cases heard : message s r with
    | none =>
      obtain ⟨b, rest⟩ := ih s a before
      simp only [turn, heard]
      exact ⟨b, .passesOver heard rest⟩
    | some entry =>
      obtain ⟨b, during⟩ := obliging r.listener (s.record entry) a before
      obtain ⟨c, rest⟩ := ih (invoke react r.listener entry s) b (during.inForce before)
      simp only [turn, heard]
      exact ⟨c, .tells heard during rest⟩

lemma yields_update (patch : Patch) (s : Session) :
    Yields depth (.update patch (s.update react patch).1) s (s.update react patch).2 := by
  intro a before
  rcases Nat.lt_or_ge s.store.depth s.store.maxDepth with admitted | full
  · obtain ⟨b, during⟩ :=
      yields_turns obliging message? (s.watchers patch) (s.commit patch) a before
    have told : (s.commit patch).notify react (s.store.changesOf patch) =
        (s.watchers patch).foldl (turn react message?) (s.commit patch) := notify_eq_turns
    rw [← told] at during
    rw [update_of_admitted admitted]
    exact ⟨b, .commits admitted during⟩
  · rw [update_of_full full]
    exact ⟨a, .full depth a patch full⟩

lemma yields_cycle (rules : List CompiledRule) (event : Event) (data : Fields) (s : Session) :
    Yields depth (.cycle rules event data (cycle react rules event data s).1) s
      (cycle react rules event data s).2 := by
  intro a before
  cases selected : (CompiledRule.select (s.scope data) event.origin rules).1 with
  | none =>
    simp only [cycle_eq, selected]
    exact ⟨a, .unanswered depth a selected⟩
  | some rule =>
    simp only [cycle_eq, selected, fire_considering]
    cases computed : (rule.patch (s.scope data)).1 with
    | error failure => exact ⟨a, .fails depth a selected computed⟩
    | ok patch =>
      obtain ⟨b, during⟩ := yields_update obliging patch (s.firing rules event data rule) a
        (inForce_firing before)
      have fires := during.fires selected computed
      simp only
      cases updated : (s.firing rules event data rule).update react patch with
      | mk changes t =>
        rw [updated] at fires
        cases changes <;> exact ⟨b, fires⟩

lemma yields_drain (rules : List CompiledRule) (outermost : Bool) (left : Nat) (event : Event)
    (data : Fields) (s : Session) : Yields depth
      (.cycles rules outermost left event data (drain react rules outermost left event data s).1) s
      (drain react rules outermost left event data s).2 := by
  induction left generalizing event data s with
  | zero => exact fun a _ => ⟨a, .spent depth rules outermost event data a s⟩
  | succ left ih =>
    intro a before
    obtain ⟨b, first⟩ := yields_cycle obliging rules event data s a before
    have after := first.inForce before
    rw [drain]
    cases ending : cycle react rules event data s with
    | mk result t =>
      rw [ending] at first after
      cases result with
      | error failure => exact ⟨b, .breaks outermost left first⟩
      | ok done =>
        cases next : (t.recordFired outermost done.fired?).engine.next with
        | none =>
          simp only [next]
          exact ⟨b, .ends left first next⟩
        | some taken =>
          obtain ⟨event', engine⟩ := taken
          simp only [next]
          obtain ⟨c, rest⟩ := ih event' []
            ((t.recordFired outermost done.fired?).take event' engine) b
            ((inForce_recordFired after _ _).next next)
          exact ⟨c, .continues first next rest⟩

lemma yields_dispatch (event : Event) (data : Fields) (s : Session) :
    Yields depth (.dispatch event data (s.dispatch react event data).1) s
      (s.dispatch react event data).2 := by
  intro a before
  rw [dispatch]
  split
  · rename_i full
    exact ⟨a, .tooDeep depth a event data full⟩
  · rename_i admitted
    obtain ⟨b, during⟩ := yields_drain obliging _ s.engine.isIdle s.engine.maxCycles event data
      (s.enter event data) a (before.enter event data)
    exact ⟨b, .enters (Nat.not_le.1 admitted) before.compiled during⟩

lemma yields_perform (request : Request) (s : Session) :
    Yields depth (.request request (s.perform react request).1) s
      (s.perform react request).2 := by
  intro a before
  cases demand : request.demand s with
  | plain => exact ⟨a, .plain depth a react demand⟩
  | update patch =>
    obtain ⟨b, during⟩ := yields_update obliging patch s a before
    rw [perform_of_update demand]
    exact ⟨b, .updates demand during⟩
  | dispatch event data =>
    obtain ⟨b, during⟩ := yields_dispatch obliging event data s a before
    rw [perform_of_dispatch demand]
    exact ⟨b, .dispatches demand during⟩
  | render =>
    obtain ⟨b, during⟩ := yields_turns obliging rendering? s.store.registrations s a before
    rw [perform_of_render demand, renderAll_eq_turns]
    exact ⟨b, .renders demand during⟩
  | replace rules? =>
    cases rules? with
    | error e =>
      rw [perform_of_noRules demand]
      exact ⟨a, .refuses depth a demand rfl⟩
    | ok rules =>
      rw [perform_of_replace demand]
      exact yields_replaceRules demand a before

lemma yields_runScript (listener : String) (requests : List Request) (s : Session) :
    Yields depth (.script listener requests) s (runScript react listener requests s) := by
  induction requests generalizing s with
  | nil => exact fun a _ => ⟨a, .silent depth listener a s⟩
  | cons request requests ih =>
    intro a before
    rw [runScript]
    obtain ⟨b, first⟩ := yields_perform obliging request s a before
    obtain ⟨c, rest⟩ := ih ((s.perform react request).2.record
      (.answered listener (s.perform react request).1)) b (first.inForce before)
    exact ⟨c, .makes first rest⟩

lemma yields_runWith (requests : List Request) (s : Session) :
    Yields depth (.run requests (runWith react requests s)) s
      (((runWith react requests s).map (·.2)).getLastD s) := by
  induction requests generalizing s with
  | nil => exact fun a _ => ⟨a, .finished depth a s⟩
  | cons request requests ih =>
    intro a before
    obtain ⟨b, first⟩ := yields_perform obliging request s a before
    obtain ⟨c, rest⟩ := ih (s.perform react request).2 b (first.inForce before)
    rw [runWith, List.map_cons, List.getLastD_cons]
    exact ⟨c, .next first rest⟩

end

lemma obliging_react (depth : Nat) : Obliging depth (Session.react depth) := by
  induction depth with
  | zero => exact fun listener s a _ => ⟨a, .idle 0 a (.inl rfl)⟩
  | succ depth ih =>
    intro listener s a before
    rw [Session.react]
    cases found : s.listener? listener with
    | none => exact ⟨a, .idle _ a (.inr fun l other => by cases found.symm.trans other)⟩
    | some l =>
      simp only
      by_cases spent : l.script = [] ∨ l.runs = 0
      · rw [if_pos (by simpa using spent)]
        refine ⟨a, .idle _ a (.inr fun l' other => ?_)⟩
        cases found.symm.trans other
        exact spent
      · rw [if_neg (by simpa using spent)]
        obtain ⟨b, during⟩ := yields_runScript ih listener l.script
          (s.adjustListener listener fun l => { l with runs := l.runs - 1 }) a before
        exact ⟨b, .reacts found (fun empty => spent (.inl empty)) (fun none => spent (.inr none))
          during⟩

/-- What is served is what happens, whichever rules are in force. -/
theorem serves_iff_does (before : s.engine.InForce a) :
    (∃ b, Serves depth work a s b t) ↔ Does depth work s t := by
  have obliging := obliging_react depth
  constructor
  · rintro ⟨b, served⟩
    exact served.does before
  · intro done
    cases work with
    | run requests steps =>
      obtain ⟨rfl, rfl⟩ := done
      exact yields_runWith obliging requests s a before
    | request request answer =>
      have yields := yields_perform obliging request s a before
      rw [Does] at done
      rwa [done] at yields
    | script listener requests =>
      obtain rfl := done
      exact yields_runScript obliging listener requests s a before
    | reaction listener =>
      obtain rfl := done
      exact obliging listener s a before
    | turns message waiting =>
      obtain rfl := done
      exact yields_turns obliging message waiting s a before
    | update patch changes =>
      have yields := yields_update obliging patch s a before
      rw [Does] at done
      rwa [done] at yields
    | dispatch event data outcome =>
      have yields := yields_dispatch obliging event data s a before
      rw [Does] at done
      rwa [done] at yields
    | cycles rules outermost left event data outcome =>
      have yields := yields_drain obliging rules outermost left event data s a before
      rw [Does] at done
      rwa [done] at yields
    | cycle rules event data result =>
      have yields := yields_cycle obliging rules event data s a before
      rw [Does] at done
      rwa [done] at yields

end Session

end Reflex
