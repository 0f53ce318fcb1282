import Reflex.Proofs.Session.Cycles
import Reflex.Proofs.Session.Queue
import Reflex.Proofs.State.Difference

/-!
# What a dispatch says it changed

A cycle compares the document before the patch of its rule with the one after it, and a dispatch
counts everything that one of its cycles changed.  In between values may change and change back, so
that the count may hold more than what is different in the end, but never less, provided that the
cycles have changed the document and nobody else.  `Session.tracked_dispatch` is the result.

* `Entry.sparesStore` says of entries that no update begins while a listener is under way.
* `Outcome.AccountsFor` says that the outcome of a dispatch accounts for the difference between two
  documents: what differs is among its changes, and these are set by rules that it says have fired.
* `Session.Tracked` is what the steps of a dispatch preserve.
-/

namespace Reflex

/-! ## Updates inside of listeners -/

namespace Entry

variable {es fs : List Entry} {first last : Entry}

/-- Whether no update begins while a listener is under way, where `depth` invocations of listeners
are under way already. -/
def sparesStore : (depth : Nat) → List Entry → Bool
  | _, [] => true
  | depth, .notified _ _ :: es => sparesStore (depth + 1) es
  | depth, .rendered _ :: es => sparesStore (depth + 1) es
  | depth, .returned _ :: es => sparesStore (depth - 1) es
  | depth, .committed _ _ :: es => depth == 0 && sparesStore depth es
  | depth, _ :: es => sparesStore depth es

lemma sparesStore_append (h : Nested es) (depth : Nat) (fs : List Entry) :
    sparesStore depth (es ++ fs) = (sparesStore depth es && sparesStore depth fs) := by
  induction h generalizing depth fs with
  | nil => rfl
  | @plain entry es isPlain _ ih =>
    cases entry <;> first | exact ih depth fs | cases isPlain
  | @enclosed first last inner es encloses _ _ ihDuring ih =>
    rw [List.cons_append, List.append_assoc, List.cons_append]
    cases encloses with
    | update => simp only [sparesStore, ihDuring, ih, Bool.and_assoc]
    | callback | widget =>
      simp only [sparesStore, ihDuring, ih, Bool.and_assoc]
      rfl
  | @dispatch event data inner es _ _ ihDuring ih =>
    rw [List.cons_append, List.append_assoc, List.cons_append]
    simp only [sparesStore, ihDuring, ih, Bool.and_assoc]

/-- Inside of a listener, entries among which no update begins leave the document as it is. -/
lemma latest_of_sparesStore (h : Nested es) {depth : Nat} (spares : sparesStore (depth + 1) es)
    (document : Fields) : latest document es = document := by
  induction h generalizing depth with
  | nil => rfl
  | @plain entry es isPlain _ ih =>
    cases entry <;> first | exact ih spares | cases isPlain
  | @enclosed first last inner es encloses during _ ihDuring ih =>
    cases encloses with
    | update => cases spares
    | callback | widget =>
      simp only [sparesStore, sparesStore_append during, Bool.and_eq_true] at spares
      simp only [latest, latest_append, ihDuring spares.1]
      exact ih spares.2
  | dispatch event data during _ ihDuring ih =>
    simp only [sparesStore, sparesStore_append during, Bool.and_eq_true] at spares
    simp only [latest, latest_append, ihDuring spares.1]
    exact ih spares.2

end Entry

/-! ## Accounts of changes -/

namespace Outcome

variable {source : RuleSet} {before middle after : Fields} {outcome outcome' : Outcome}
  {key : String}

lemma mem_changedKeys : key ∈ outcome.changedKeys ↔ ∃ done ∈ outcome, key ∈ done.changes := by
  rw [changedKeys, NameSet.mem_ofList, List.mem_flatMap]

/-- The outcome of a dispatch accounts for the difference between two documents. -/
structure AccountsFor (source : RuleSet) (before after : Fields) (outcome : Outcome) : Prop where
  /-- A key under which the documents differ is among the changes. -/
  changed : ∀ key, Fields.differ (before.get? key) (after.get? key) = true →
    key ∈ outcome.changedKeys
  /-- A key among the changes is set by an update of a rule that fired. -/
  fired : ∀ key ∈ outcome.changedKeys, ∃ index ∈ outcome.firedRules, ∃ rule,
    source[index]? = some rule ∧ key ∈ rule.updates.map Prod.fst

namespace AccountsFor

lemma append (h : AccountsFor source before middle outcome)
    (h' : AccountsFor source middle after outcome') :
    AccountsFor source before after (outcome ++ outcome') where
  changed := by
    intro key other
    obtain other | other := Fields.differ_or_differ (middle.get? key) other
    · obtain ⟨done, mem, changed⟩ := mem_changedKeys.1 (h.changed key other)
      exact mem_changedKeys.2 ⟨done, List.mem_append_left _ mem, changed⟩
    · obtain ⟨done, mem, changed⟩ := mem_changedKeys.1 (h'.changed key other)
      exact mem_changedKeys.2 ⟨done, List.mem_append_right _ mem, changed⟩
  fired := by
    intro key mem
    obtain ⟨done, mem, changed⟩ := mem_changedKeys.1 mem
    rw [firedRules, List.filterMap_append]
    rcases List.mem_append.1 mem with mem | mem
    · obtain ⟨index, fired, rule⟩ := h.fired key (mem_changedKeys.2 ⟨done, mem, changed⟩)
      exact ⟨index, List.mem_append_left _ fired, rule⟩
    · obtain ⟨index, fired, rule⟩ := h'.fired key (mem_changedKeys.2 ⟨done, mem, changed⟩)
      exact ⟨index, List.mem_append_right _ fired, rule⟩

/-- A cycle that fires no rule changes nothing. -/
lemma unanswered (wellFormed : before.WellFormed) (event : Event) :
    AccountsFor source before before [⟨event, none, []⟩] where
  changed := by
    intro key other
    rw [Fields.differ_self wellFormed] at other
    cases other
  fired := by
    intro key mem
    obtain ⟨done, mem, changed⟩ := mem_changedKeys.1 mem
    obtain rfl := List.mem_singleton.1 mem
    cases changed

/-- Where nothing is among the changes the documents are equal. -/
lemma same (h : AccountsFor source before after outcome) (wellFormed : before.WellFormed)
    (wellFormed' : after.WellFormed) (nothing : outcome.changedKeys = []) :
    (Value.object before).same (.object after) := by
  refine Fields.same_of_differ wellFormed.1 wellFormed'.1 fun key => Bool.eq_false_iff.2 ?_
  intro other
  have mem := h.changed key other
  rw [nothing] at mem
  cases mem

end AccountsFor

end Outcome

namespace Program

variable {program : Program} {rule : CompiledRule} {scope : Scope} {patch : Patch}

/-- A rule of a program was compiled from the source at its position. -/
lemma exists_source (mem : rule ∈ program.rules) :
    ∃ source, program.source[rule.index]? = some source ∧ rule = source.compile rule.index := by
  rw [program.rules_eq] at mem
  obtain ⟨⟨source, index⟩, listed, rfl⟩ := List.mem_map.1 mem
  exact ⟨source, List.mem_zipIdx_iff_getElem?.1 listed, rfl⟩

lemma plain_of_mem (mem : rule ∈ program.rules) : rule.Plain := by
  obtain ⟨source, -, compiled⟩ := exists_source mem
  rw [compiled]
  exact source.plain_compile rule.index

/-- A cycle that fires a rule accounts for what its patch makes of a well-formed document. -/
lemma accountsFor_patch (mem : rule ∈ program.rules) (computed : (rule.patch scope).1 = .ok patch)
    {document : Fields} (wellFormed : document.WellFormed) (event : Event) :
    Outcome.AccountsFor program.source document (Patch.apply document patch)
      [⟨event, some rule.index, document.changes (Patch.apply document patch)⟩] where
  changed := fun key other =>
    Outcome.mem_changedKeys.2 ⟨_, List.mem_singleton_self _, Fields.mem_changes_of_differ other⟩
  fired := by
    intro key changed
    obtain ⟨done, listed, changed⟩ := Outcome.mem_changedKeys.1 changed
    obtain rfl := List.mem_singleton.1 listed
    have named : key ∈ patch.keys := Patch.mem_keys_of_mem_changes wellFormed changed
    obtain ⟨source, place, compiled⟩ := exists_source mem
    have within : rule.Within (fun _ => True) (· ∈ source.updates.map Prod.fst) := by
      refine ⟨fun _ _ _ _ => trivial, fun _ _ _ _ => trivial, fun update listed => ?_⟩
      rw [compiled] at listed
      obtain ⟨text, written, -⟩ := Rule.exists_of_mem_updates listed
      exact List.mem_map.2 ⟨_, written, rfl⟩
    exact ⟨rule.index, List.mem_singleton_self _, source, place,
      CompiledRule.mem_targets_of_patch within computed named⟩

end Program

namespace Session

variable {react : Reaction} {program : Program} {rules : List CompiledRule} {rule : CompiledRule}
  {event : Event} {data : Fields} {s t : Session} {outermost : Bool} {patch : Patch}

/-! ## Cycles -/

/-- Some run leads from one moment to another, and as long as no update begins while a listener is
under way the document is the same at both. -/
def Bystands (s t : Session) : Prop :=
  ∃ es, Runs false s es t ∧ (Entry.sparesStore 0 es → t.store.document = s.store.document)

namespace Bystands

variable {u : Session}

lemma refl (s : Session) : Bystands s s :=
  ⟨[], .done false s, fun _ => rfl⟩

lemma trans (h : Bystands s t) (h' : Bystands t u) : Bystands s u := by
  obtain ⟨es, first, same⟩ := h
  obtain ⟨fs, second, same'⟩ := h'
  refine ⟨es ++ fs, first.andThen second, fun spares => ?_⟩
  rw [Entry.sparesStore_append first.nested, Bool.and_eq_true] at spares
  exact (same' spares.2).trans (same spares.1)

lemma invoke (orderly : Orderly react) {name : String} {entry : Entry}
    (encloses : entry.Encloses (.returned name)) (s : Session) :
    Bystands s (invoke react name entry s) := by
  obtain ⟨es, during⟩ := orderly name (s.record entry)
  refine ⟨_, .invocation false encloses during, fun spares => ?_⟩
  have inside : Entry.sparesStore 1 es := by
    cases encloses <;>
      simp only [Entry.sparesStore, Entry.sparesStore_append during.nested, Bool.and_eq_true]
        at spares <;>
      exact spares.1
  exact during.latest.trans (Entry.latest_of_sparesStore during.nested inside _)

lemma tell (orderly : Orderly react) (r : Registration) (s : Session) :
    Bystands s (tell react r s) := by
  rw [Session.tell]
  split
  · exact .refl s
  · split
    · exact .invoke orderly (.callback _ _) s
    · split
      · exact .invoke orderly (.widget _) s
      · exact .refl s

lemma notify (orderly : Orderly react) (changes : NameSet) (s : Session) :
    Bystands s (s.notify react changes) :=
  List.foldlRecOn _ _ (.refl s) fun t before r _ => before.trans (tell orderly r t)

end Bystands

/-- Steps of a dispatch from one moment to another.  If no update begins while a listener is under
way, as is the case where nobody is registered, their outcome accounts for what they have made of a
well-formed document. -/
structure Tracked (source : RuleSet) (data : Fields) (s : Session) (es : List Entry)
    (result : Except EngineError Outcome) (t : Session) : Prop where
  run : Runs true s es t
  alone : s.store.registrations = [] → Entry.sparesStore 0 es ∧ t.store.registrations = []
  accounts : Entry.sparesStore 0 es → s.store.document.WellFormed → data.WellFormed →
    t.store.document.WellFormed ∧
      ∀ outcome, result = .ok outcome →
        outcome.AccountsFor source s.store.document t.store.document

lemma sparesStore_queued (events : List Event) :
    Entry.sparesStore 0 (events.map .queued) = true := by
  induction events with
  | nil => rfl
  | cons event events ih => exact ih

/-- Until a cycle updates anything it does nothing but queue events and select a rule. -/
lemma exists_runs_firing (rules : List CompiledRule) (event : Event) (data : Fields)
    (rule : CompiledRule) (s : Session) :
    ∃ es, Runs true s es (s.firing rules event data rule) ∧ Entry.sparesStore 0 es := by
  have considered := runs_queueAll (CompiledRule.select (s.scope data) event.origin rules).2 s
  have selected := considered.andThen (.selected false _ rule.index)
  have asked := runs_queueAll (rule.patch (s.scope data)).2
    ((s.considering rules event data).record (.selected rule.index))
  refine ⟨_, (selected.andThen asked).toTaking, ?_⟩
  rw [Entry.sparesStore_append selected.nested, Entry.sparesStore_append considered.nested,
    sparesStore_queued, sparesStore_queued]
  rfl

/-- An update that is not refused puts the patched document in place of the other one, as long as
no update begins while a listener is under way. -/
lemma exists_runs_update (orderly : Orderly react) (patch : Patch) (s : Session)
    (admitted : s.store.depth < s.store.maxDepth) :
    ∃ es, Runs true s es (s.update react patch).2 ∧
      (s.store.registrations = [] →
        Entry.sparesStore 0 es ∧ (s.update react patch).2.store.registrations = []) ∧
      (Entry.sparesStore 0 es →
        (s.update react patch).2.store.document = Patch.apply s.store.document patch) := by
  rw [update_of_admitted admitted]
  by_cases nobody : s.store.registrations = []
  · have unwatched : (s.commit patch).store.registrations = [] := nobody
    rw [notify_of_alone unwatched]
    exact ⟨_, .update true patch (.done false _), fun _ => ⟨rfl, unwatched⟩, fun _ => rfl⟩
  · obtain ⟨es, during, same⟩ :=
      Bystands.notify orderly (s.store.changesOf patch) (s.commit patch)
    refine ⟨_, .update true patch during, fun alone => absurd alone nobody, fun spares => ?_⟩
    simp only [Entry.sparesStore, Entry.sparesStore_append during.nested, Bool.and_eq_true]
      at spares
    exact same spares.2.1

namespace Tracked

variable {source : RuleSet} {es fs : List Entry} {result : Except EngineError Outcome}

/-- Steps that leave the store alone. -/
lemma of_store_eq (run : Runs true s es t) (spares : Entry.sparesStore 0 es)
    (store : t.store = s.store)
    (accounts : s.store.document.WellFormed → ∀ outcome, result = .ok outcome →
      outcome.AccountsFor source s.store.document s.store.document) :
    Tracked source data s es result t where
  run := run
  alone := fun alone => ⟨spares, store ▸ alone⟩
  accounts := by
    rw [store]
    exact fun _ wellFormed _ => ⟨wellFormed, accounts wellFormed⟩

/-- Putting a rule on record writes nothing and leaves the store alone. -/
lemma recordFired (h : Tracked source data s es result t) (outermost : Bool)
    (fired? : Option Nat) : Tracked source data s es result (t.recordFired outermost fired?) where
  run := by
    have recorded := h.run.andThen (.quiet true (.recordFired t outermost fired?))
    rwa [List.append_nil] at recorded
  alone := by
    rw [store_recordFired]
    exact h.alone
  accounts := by
    rw [store_recordFired]
    exact h.accounts

/-- A cycle that succeeds, and the cycles after it. -/
lemma andThen {t' u : Session} {gap : List Entry} {done : Cycle}
    (first : Tracked source data s es (.ok [done]) t) (between : Runs true t gap t')
    (spares : Entry.sparesStore 0 gap) (store : t'.store = t.store)
    (rest : Tracked source [] t' fs result u) :
    Tracked source data s (es ++ (gap ++ fs)) (result.map (done :: ·)) u where
  run := first.run.andThen (between.andThen rest.run)
  alone := by
    intro nobody
    obtain ⟨before, nobody'⟩ := first.alone nobody
    obtain ⟨after, nobody''⟩ := rest.alone (store ▸ nobody')
    rw [Entry.sparesStore_append first.run.nested, Entry.sparesStore_append between.nested, before,
      spares, after]
    exact ⟨rfl, nobody''⟩
  accounts := by
    intro calm wellFormed given
    rw [Entry.sparesStore_append first.run.nested, Entry.sparesStore_append between.nested, spares,
      Bool.true_and, Bool.and_eq_true] at calm
    obtain ⟨wellFormed', account⟩ := first.accounts calm.1 wellFormed given
    rw [← store] at wellFormed' account
    obtain ⟨wellFormed'', accounts⟩ := rest.accounts calm.2 wellFormed' ⟨List.nodup_nil, trivial⟩
    refine ⟨wellFormed'', fun outcome ok => ?_⟩
    obtain ⟨others, ended, rfl⟩ := map_eq_ok_iff.1 ok
    exact (account [done] rfl).append (accounts others ended)

end Tracked

/-- The outcome of a cycle, if it succeeds, is that cycle alone. -/
lemma tracked_cycle (orderly : Orderly react) (program : Program) (event : Event) (data : Fields)
    (s : Session) :
    ∃ es, Tracked program.source data s es
      ((cycle react program.rules event data s).1.map fun done => [done])
      (cycle react program.rules event data s).2 := by
  cases concluded : cycle react program.rules event data s with
  | mk result t =>
    cases concludes_of_cycle_eq concluded with
    | unanswered nobody =>
      refine ⟨_, .of_store_eq (runs_queueAll _ s).toTaking (sparesStore_queued _)
        store_considering ?_⟩
      intro wellFormed outcome done
      cases done
      exact .unanswered wellFormed event
    | @fails rule name cause selected failed =>
      obtain ⟨es, run, spares⟩ := exists_runs_firing program.rules event data rule s
      exact ⟨es, .of_store_eq run spares store_firing fun _ outcome done => by cases done⟩
    | @refused rule patch selected computed full =>
      obtain ⟨es, run, spares⟩ := exists_runs_firing program.rules event data rule s
      exact ⟨es, .of_store_eq run spares store_firing fun _ outcome done => by cases done⟩
    | @fires rule patch selected computed admitted =>
      have mem : rule ∈ program.rules := CompiledRule.mem_of_select selected
      obtain ⟨es, firing, spares⟩ := exists_runs_firing program.rules event data rule s
      have same : (s.firing program.rules event data rule).store = s.store := store_firing
      obtain ⟨fs, updating, alone, document⟩ := exists_runs_update orderly patch
        (s.firing program.rules event data rule) (by rwa [same])
      rw [same] at alone document
      refine ⟨es ++ fs, firing.andThen updating, fun nobody => ?_, fun calm before given => ?_⟩
      · rw [Entry.sparesStore_append firing.nested, spares, (alone nobody).1]
        exact ⟨rfl, (alone nobody).2⟩
      · rw [Entry.sparesStore_append firing.nested, spares, Bool.true_and] at calm
        simp only [document calm]
        refine ⟨CompiledRule.wellFormed_apply ⟨before, given⟩ (Program.plain_of_mem mem) computed
          before, fun outcome done => ?_⟩
        cases done
        exact Program.accountsFor_patch mem computed before event

/-- The cycles of a dispatch account for what they have made of the document. -/
lemma tracked_drain (orderly : Orderly react) (program : Program) (outermost : Bool) (left : Nat)
    (event : Event) (data : Fields) (s : Session) :
    ∃ es, Tracked program.source data s es
      (drain react program.rules outermost left event data s).1
      (drain react program.rules outermost left event data s).2 := by
  induction left generalizing event data s with
  | zero => exact ⟨[], .of_store_eq (.done true s) rfl rfl fun _ outcome ok => by cases ok⟩
  | succ left ih =>
    obtain ⟨es, first⟩ := tracked_cycle orderly program event data s
    rw [drain]
    cases cycled : cycle react program.rules event data s with
    | mk result t =>
      rw [cycled] at first
      cases result with
      | error e => exact ⟨es, first⟩
      | ok done =>
        have recorded := first.recordFired outermost done.fired?
        cases next : (t.recordFired outermost done.fired?).engine.next with
        | none =>
          simp only [next]
          exact ⟨es, recorded⟩
        | some taken =>
          obtain ⟨event', engine⟩ := taken
          simp only [next]
          obtain ⟨fs, rest⟩ :=
            ih event' [] ((t.recordFired outermost done.fired?).take event' engine)
          exact ⟨_, recorded.andThen (.take next) rfl rfl rest⟩

/-- A dispatch accounts for what it has made of the document. -/
lemma tracked_dispatch (orderly : Orderly react) (event : Event) (data : Fields) (s : Session) :
    Tracked s.engine.program.source data s (s.since (s.dispatch react event data).2)
      (s.dispatch react event data).1 (s.dispatch react event data).2 := by
  rcases Nat.lt_or_ge s.engine.frames.length s.engine.maxNesting with admitted | full
  · obtain ⟨es, cycles⟩ := tracked_drain orderly s.engine.program s.engine.isIdle
      s.engine.maxCycles event data (s.enter event data)
    rw [dispatch_eq admitted]
    have whole := Runs.dispatch true event data cycles.run
    have written := since_eq whole.journal
    simp only [written]
    refine ⟨whole, fun nobody => ?_, fun calm => ?_⟩
    · obtain ⟨spares, nobody'⟩ := cycles.alone nobody
      refine ⟨?_, nobody'⟩
      simp only [Entry.sparesStore, Entry.sparesStore_append cycles.run.nested, spares,
        Bool.true_and]
    · simp only [Entry.sparesStore, Entry.sparesStore_append cycles.run.nested, Bool.and_true]
        at calm
      exact cycles.accounts calm
  · have refused :
        s.dispatch react event data = (.error (.nestingTooDeep s.engine.maxNesting), s) :=
      if_pos full
    have silent : s.since s = [] := since_eq rfl
    rw [refused]
    simp only [silent]
    exact .of_store_eq (.done true s) rfl rfl fun _ outcome ok => by cases ok

end Session

end Reflex
