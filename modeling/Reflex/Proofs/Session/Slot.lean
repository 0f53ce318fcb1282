import Reflex.Proofs.Session.Accounting

/-!
# What the slot holds

Every update writes the text of the document to the slot when it comes to its end, and nothing else
writes to it.  An update that others are nested in ends after them, so that the slot holds the
document of a moment at which no update is under way, provided that the last write went well; and
where a write fails the slot keeps what it held.  `Session.slot_keeps_document` says so of every
moment of a session, whatever listeners do and whenever writes fail.

* `Entry.lastOutermostWrite?` reads off a journal whether the update that ended last, of those that
  were not inside of another, has written the document.
* `Session.Storing` is what a step has to do with the slot.
* `Session.Kept` is what every step preserves of the slot.
-/

namespace Reflex

namespace Entry

/-- Whether an entry says that an update began. -/
def isCommitted : Entry → Bool
  | .committed _ _ => true
  | _ => false

/-- Whether an entry says that an update ended, and attempted a write. -/
def isClosed : Entry → Bool
  | .closed _ _ => true
  | _ => false

/-- Whether an entry says that a write succeeded. -/
def isWritten : Entry → Bool
  | .closed _ written => written
  | _ => false

/-- How many updates are under way after the entries of a journal, the latest of which is the
first. -/
def updatesUnderWay : List Entry → Nat
  | [] => 0
  | .committed _ _ :: es => updatesUnderWay es + 1
  | .closed _ _ :: es => updatesUnderWay es - 1
  | _ :: es => updatesUnderWay es

/-- Whether the write succeeded of the update that ended last, of those that were not inside of
another, if there is one.  The latest entry is the first. -/
def lastOutermostWrite? : List Entry → Option Bool
  | [] => none
  | .closed _ written :: es =>
    if updatesUnderWay es = 1 then some written else lastOutermostWrite? es
  | _ :: es => lastOutermostWrite? es

variable {entry : Entry} {es : List Entry}

lemma updatesUnderWay_cons (notCommitted : entry.isCommitted = false)
    (notClosed : entry.isClosed = false) :
    updatesUnderWay (entry :: es) = updatesUnderWay es := by
  cases entry with
  | committed before after => cases notCommitted
  | closed text written => cases notClosed
  | _ => rfl

lemma lastOutermostWrite?_cons (notClosed : entry.isClosed = false) :
    lastOutermostWrite? (entry :: es) = lastOutermostWrite? es := by
  cases entry with
  | closed text written => cases notClosed
  | _ => rfl

lemma isWritten_of_notClosed (notClosed : entry.isClosed = false) : entry.isWritten = false := by
  cases entry with
  | closed text written => cases notClosed
  | _ => rfl

end Entry

namespace Slot

variable (slot : Slot) (text : String)

@[simp] lemma attempts_write : (slot.write text).attempts = slot.attempts + 1 := by
  rw [write]
  split <;> rfl

/-- A write that fails leaves the text as it was. -/
lemma text?_write :
    (slot.write text).text? = if slot.failing then slot.text? else some text := by
  rw [write]
  split <;> rfl

lemma writes_write :
    (slot.write text).writes = if slot.failing then slot.writes else slot.writes + 1 := by
  rw [write]
  split <;> rfl

end Slot

namespace Session

/-- The session over a storage of which single writes fail. -/
def withOutages (outages : Nat → Bool) (s : Session) : Session :=
  { s with store := { s.store with slot := { s.store.slot with outages } } }

variable {options : SessionOptions} {library : Library} {rules : RuleSet} {text? : Option String}
  {first s t : Session} {m n : Moment} {calls : List Call} {patch : Patch}

/-! ## What a step has to do with the slot -/

/-- A step that neither begins nor ends an update.  It leaves the document alone, and of the slot it
changes at most whether writes are switched off. -/
structure Unwritten (m n : Moment) : Prop where
  document : n.session.store.document = m.session.store.document
  slot : n.session.store.slot =
    { m.session.store.slot with off := n.session.store.slot.off }
  updates : Call.updates n.calls = Call.updates m.calls
  journal : n.session.journal = m.session.journal ∨ ∃ entry, entry.isCommitted = false ∧
    entry.isClosed = false ∧ n.session.journal = entry :: m.session.journal

/-- What a step has to do with the slot. -/
inductive Storing : Moment → Moment → Prop
  /-- An update begins. -/
  | commits (calls : List Call) (s : Session) (patch : Patch) :
      Storing ⟨calls, s⟩ ⟨.update (s.watchers patch) :: calls, s.commit patch⟩
  /-- An update has told everybody, and attempts to write the document. -/
  | closes (calls : List Call) (s : Session) : Storing ⟨.update [] :: calls, s⟩ ⟨calls, s.close⟩
  | other {m n : Moment} (h : Unwritten m n) : Storing m n

lemma slot_of_quiet (step : Quiet s t) :
    t.store.slot = { s.store.slot with off := t.store.slot.off } := by
  cases step with
  | recordFired outermost fired? => rw [store_recordFired]
  | _ => rfl

/-- A call that is no update, put on the others, does not count. -/
lemma updates_cons_of_not {call : Call} (other : call.isUpdate = false) :
    Call.updates (call :: calls) = Call.updates calls :=
  List.countP_cons_of_neg (by simp [other])

/-- How many turns are still to come in an update makes no difference. -/
lemma updates_turn (calls : List Call) (rs rs' : List Registration) :
    Call.updates (.update rs :: calls) = Call.updates (.update rs' :: calls) := by
  rw [Call.updates_update, Call.updates_update]

/-- A step that leaves the store alone and writes an entry that is none of an update's. -/
lemma storing_of_entry {entry : Entry} (store : n.session.store = m.session.store)
    (journal : n.session.journal = entry :: m.session.journal)
    (notCommitted : entry.isCommitted = false) (notClosed : entry.isClosed = false)
    (updates : Call.updates n.calls = Call.updates m.calls) : Storing m n := by
  refine .other ⟨congrArg Store.document store, ?_, updates, .inr ⟨entry, notCommitted, notClosed,
    journal⟩⟩
  rw [store]

lemma Advance.storing (step : Advance m n) : Storing m n := by
  cases step with
  | commit calls patch admitted => exact .commits calls _ patch
  | close calls s => exact .closes calls s
  | quiet calls step =>
    exact .other ⟨Runs.document_of_quiet step, slot_of_quiet step, rfl,
      .inl (Runs.journal_of_quiet step)⟩
  | @callback s r l rs calls found kind =>
    have turn := updates_turn calls rs (r :: rs)
    exact storing_of_entry rfl rfl rfl rfl ((updates_cons_of_not rfl).trans turn)
  | @widget s r l rs calls found kind connected =>
    have turn := updates_turn calls rs (r :: rs)
    exact storing_of_entry rfl rfl rfl rfl ((updates_cons_of_not rfl).trans turn)
  | @passOver s r rs calls absent =>
    exact .other ⟨rfl, rfl, updates_turn calls rs (r :: rs), .inl rfl⟩
  | render calls found kind connected =>
    exact storing_of_entry rfl rfl rfl rfl (updates_cons_of_not rfl)
  | returned calls s name =>
    exact storing_of_entry rfl rfl rfl rfl (updates_cons_of_not rfl).symm
  | enter calls event data admitted =>
    exact storing_of_entry rfl rfl rfl rfl (updates_cons_of_not rfl)
  | leave calls s => exact storing_of_entry rfl rfl rfl rfl (updates_cons_of_not rfl).symm
  | _ => exact storing_of_entry rfl rfl rfl rfl rfl

/-! ## What every step preserves -/

/-- The counts of the slot are those of the journal.  While no update is under way and the write of
the last outermost one succeeded, the slot holds the text of the document. -/
structure Kept (m : Moment) : Prop where
  writes : m.session.store.slot.writes = m.session.journal.countP Entry.isWritten
  attempts : m.session.store.slot.attempts = m.session.journal.countP Entry.isClosed
  underWay : Entry.updatesUnderWay m.session.journal = Call.updates m.calls
  begun : m.session.journal.countP Entry.isCommitted =
    m.session.journal.countP Entry.isClosed + Call.updates m.calls
  held : Call.updates m.calls = 0 → Entry.lastOutermostWrite? m.session.journal = some true →
    m.session.store.slot.text? = some m.session.store.text

namespace Kept

lemma commit (h : Kept ⟨calls, s⟩) :
    Kept ⟨.update (s.watchers patch) :: calls, s.commit patch⟩ where
  writes := h.writes
  attempts := h.attempts
  underWay := by
    have one_more := congrArg (· + 1) h.underWay
    rw [Call.updates_update]
    exact one_more
  begun := by
    have before : s.journal.countP Entry.isCommitted =
        s.journal.countP Entry.isClosed + Call.updates calls := h.begun
    change (Entry.committed _ _ :: s.journal).countP Entry.isCommitted =
      (Entry.committed _ _ :: s.journal).countP Entry.isClosed + Call.updates (_ :: calls)
    rw [List.countP_cons_of_pos rfl, List.countP_cons_of_neg (by simp [Entry.isClosed]), before,
      Call.updates_update]
    rfl
  held := by
    intro settled
    rw [Call.updates_update] at settled
    cases settled

lemma close (h : Kept ⟨.update [] :: calls, s⟩) : Kept ⟨calls, s.close⟩ where
  writes := by
    have before : s.store.slot.writes = s.journal.countP Entry.isWritten := h.writes
    rw [Session.close, journal_record, List.countP_cons, ← before]
    change (s.store.slot.write s.store.text).writes = _
    rw [Slot.writes_write, Entry.isWritten]
    cases s.store.slot.failing <;> rfl
  attempts := by
    have before : s.store.slot.attempts = s.journal.countP Entry.isClosed := h.attempts
    rw [Session.close, journal_record, List.countP_cons_of_pos rfl, ← before]
    exact Slot.attempts_write _ _
  underWay := by
    have before : Entry.updatesUnderWay s.journal = Call.updates calls + 1 :=
      h.underWay.trans Call.updates_update
    exact congrArg (· - 1) before
  begun := by
    have before : s.journal.countP Entry.isCommitted =
        s.journal.countP Entry.isClosed + (Call.updates calls + 1) := by
      have turn : Call.updates (.update [] :: calls) = Call.updates calls + 1 :=
        Call.updates_update
      rw [← turn]
      exact h.begun
    change (Entry.closed _ _ :: s.journal).countP Entry.isCommitted =
      (Entry.closed _ _ :: s.journal).countP Entry.isClosed + Call.updates calls
    rw [List.countP_cons_of_neg (by simp [Entry.isCommitted]), List.countP_cons_of_pos rfl, before]
    omega
  held := by
    intro settled written
    have before : Entry.updatesUnderWay s.journal = Call.updates calls + 1 :=
      h.underWay.trans Call.updates_update
    -- The update that ends was the only one, so that its write is the one that counts.
    rw [show Call.updates calls = 0 from settled] at before
    have last : Entry.lastOutermostWrite? s.close.journal = some (!s.store.slot.failing) :=
      if_pos before
    have succeeded : s.store.slot.failing = false := by
      simpa using last.symm.trans written
    have text := s.store.slot.text?_write s.store.text
    rw [succeeded] at text
    exact text

/-- A step that neither begins nor ends an update leaves the counts alone. -/
lemma unwritten (h : Kept m) (step : Unwritten m n) : Kept n := by
  have writes : n.session.store.slot.writes = m.session.store.slot.writes := by rw [step.slot]
  have attempts : n.session.store.slot.attempts = m.session.store.slot.attempts := by
    rw [step.slot]
  have text? : n.session.store.slot.text? = m.session.store.slot.text? := by rw [step.slot]
  have text : n.session.store.text = m.session.store.text := by
    rw [Store.text, Store.text, step.document]
  rcases step.journal with same | ⟨entry, notCommitted, notClosed, more⟩
  · refine ⟨?_, ?_, ?_, ?_, ?_⟩ <;> simp only [same, writes, attempts, text?, text, step.updates]
    · exact h.writes
    · exact h.attempts
    · exact h.underWay
    · exact h.begun
    · exact h.held
  · have notWritten := Entry.isWritten_of_notClosed notClosed
    refine ⟨?_, ?_, ?_, ?_, ?_⟩ <;>
      simp only [more, writes, attempts, text?, text, step.updates, List.countP_cons, notWritten,
        notClosed, notCommitted, Entry.updatesUnderWay_cons notCommitted notClosed,
        Entry.lastOutermostWrite?_cons notClosed, Bool.false_eq_true, if_false, Nat.add_zero]
    · exact h.writes
    · exact h.attempts
    · exact h.underWay
    · exact h.begun
    · exact h.held

lemma step (h : Kept m) (step : Advance m n) : Kept n := by
  cases step.storing with
  | commits calls s patch => exact h.commit
  | closes calls s => exact h.close
  | other unwritten => exact h.unwritten unwritten

lemma course (h : Kept m) (course : Course m n) : Kept n := by
  induction course with
  | refl => exact h
  | tail _ last ih => exact ih.step last

end Kept

/-- A session that has just been started has neither updated nor written anything. -/
lemma kept_of_start (started : start options library rules text? = .ok first)
    (outages : Nat → Bool) : Kept ⟨[], first.withOutages outages⟩ := by
  obtain ⟨document, program, -, -, rfl⟩ := start_eq_ok_iff.1 started
  exact ⟨rfl, rfl, rfl, rfl, fun _ unwritten => by cases unwritten⟩

/-- **What the slot holds is what the session holds.**  A session is started over a storage of which
any writes may fail, and listeners may do whatever a course allows, switching writes off and on
among it.

* At every moment at which no update is under way, if the write of the outermost update that ended
  last succeeded, the slot holds the compact text of the document.  At every moment at all, the
  writes attempted are as many as the updates that have ended, those that succeeded are as many as
  the updates that ended where a write would not fail, and every update that began has ended or is
  under way.
* A step that ends an update attempts one write, of the document as it is at that moment; a write
  that fails leaves the text and the count of the slot as they were.  No other step does anything
  to the text or to the counts, nor does it end an update.
* An update that is accepted commits, tells the listeners, and only then ends.

The moments are those of the session as it runs: the scripts of listeners are courses, and so are
the requests that lead to the sessions that are left behind. -/
theorem slot_keeps_document (started : start options library rules text? = .ok first)
    (outages : Nat → Bool) :
    let o : Moment := ⟨[], first.withOutages outages⟩
    (∀ m, Course o m →
      (Call.updates m.calls = 0 →
        Entry.lastOutermostWrite? m.session.journal = some true →
        m.session.store.slot.text? = some (Value.object m.session.store.document).compact) ∧
      m.session.store.slot.attempts = m.session.journal.countP Entry.isClosed ∧
      m.session.store.slot.writes = m.session.journal.countP Entry.isWritten ∧
      m.session.journal.countP Entry.isCommitted =
        m.session.journal.countP Entry.isClosed + Call.updates m.calls) ∧
    (∀ m n, Advance m n →
      (∃ calls s, m = ⟨.update [] :: calls, s⟩ ∧ n = ⟨calls, s.close⟩ ∧
        s.close.journal = .closed s.store.text (!s.store.slot.failing) :: s.journal ∧
        s.close.store.slot.attempts = s.store.slot.attempts + 1 ∧
        (s.store.slot.failing = false → s.close.store.slot.text? = some s.store.text ∧
          s.close.store.slot.writes = s.store.slot.writes + 1) ∧
        (s.store.slot.failing = true → s.close.store.slot.text? = s.store.slot.text? ∧
          s.close.store.slot.writes = s.store.slot.writes)) ∨
      (n.session.store.slot.text? = m.session.store.slot.text? ∧
        n.session.store.slot.attempts = m.session.store.slot.attempts ∧
        n.session.store.slot.writes = m.session.store.slot.writes ∧
        Call.updates m.calls ≤ Call.updates n.calls)) ∧
    (∀ react, Lawful (Course o) react → ∀ calls s, Course o ⟨calls, s⟩ →
      ∀ patch changes t, s.update react patch = (.ok changes, t) →
        t = ((s.commit patch).notify react changes).close ∧
        Course ⟨.update (s.watchers patch) :: calls, s.commit patch⟩
          ⟨.update [] :: calls, (s.commit patch).notify react changes⟩) ∧
    (∀ depth, Lawful (Course o) (Session.react depth)) ∧
    ∀ requests, ∀ step ∈ (first.withOutages outages).run requests, Course o ⟨[], step.2⟩ := by
  intro o
  have stable : Stable (fun _ => True) (Course o) := stable_course o
  have lawful_scripts : ∀ depth, Lawful (Course o) (Session.react depth) :=
    lawful_react stable fun _ _ _ _ _ _ _ _ => trivial
  refine ⟨fun m course => ?_, fun m n step => ?_, fun react lawful calls s reached patch changes t
    accepted => ?_, lawful_scripts, fun requests step mem => ?_⟩
  · have kept : Kept m := (kept_of_start started outages).course course
    exact ⟨kept.held, kept.attempts, kept.writes, kept.begun⟩
  · cases step.storing with
    | commits calls s patch =>
      refine .inr ⟨rfl, rfl, rfl, ?_⟩
      rw [Call.updates_update]
      exact Nat.le_succ _
    | closes calls s =>
      have text := s.store.slot.text?_write s.store.text
      have writes := s.store.slot.writes_write s.store.text
      refine .inl ⟨calls, s, rfl, rfl, rfl, Slot.attempts_write _ _, fun succeeds => ?_,
        fun fails => ?_⟩
      · rw [succeeds] at text writes
        exact ⟨text, writes⟩
      · rw [fails] at text writes
        exact ⟨text, writes⟩
    | other unwritten =>
      exact .inr ⟨by rw [unwritten.slot], by rw [unwritten.slot], by rw [unwritten.slot],
        unwritten.updates.ge⟩
  · rcases Nat.lt_or_ge s.store.depth s.store.maxDepth with admitted | full
    · rw [update_of_admitted admitted] at accepted
      obtain ⟨rfl, rfl⟩ : s.store.changesOf patch = changes ∧
          ((s.commit patch).notify react (s.store.changesOf patch)).close = t := by
        simpa using accepted
      have begun := reached.tail (.commit calls patch admitted)
      exact ⟨rfl, (within_turns stable lawful (s.watchers patch) begun).course⟩
    · rw [update_of_full full] at accepted
      cases accepted
  · have closed := closed_passes stable (lawful_scripts (Request.totalRuns requests)) []
    exact (closed.runWith (fun _ _ => trivial) (first.withOutages outages) step mem .refl).course

/-- Requests of which the first registers a listener that sets `b` and then switches writes off, so
that the write of the update that told it fails. -/
def saverRequests : List Request :=
  [.observe "saver" ["a"] .callback [.apply [("b", .set .null)], .failWrites true] 1,
    .apply [("a", .set (.bool true))], .failWrites false, .apply [("a", .set .null)],
    .apply [("a", .remove)]]

/-- Of the four writes the second fails because writes are switched off, and the third of itself.
The last succeeds, and the slot holds the document. -/
theorem saver_writes_document :
    let s := freshSession.withOutages (· == 2)
    ∃ answer t, (answer, t) ∈ s.run saverRequests ∧ t.store.document = [("b", .null)] ∧
      t.store.slot.text? = some (Value.object t.store.document).compact ∧
      t.store.slot.attempts = 4 ∧ t.store.slot.writes = 2 := by
  intro s
  have started : start .default .standard [] none = .ok freshSession := rfl
  obtain ⟨kept, -, -, -, courses⟩ := slot_keeps_document started (· == 2)
  have last : (s.run saverRequests).getLast?.map (fun step => (step.2.store.document,
      Entry.lastOutermostWrite? step.2.journal, step.2.store.slot.attempts,
      step.2.store.slot.writes)) = some ([("b", .null)], some true, 4, 2) := by decide
  obtain ⟨⟨answer, t⟩, isLast, observed⟩ := Option.map_eq_some_iff.1 last
  simp only [Prod.mk.injEq] at observed
  obtain ⟨document, written, attempts, writes⟩ := observed
  have mem := List.mem_of_getLast? isLast
  obtain ⟨held, -⟩ := kept _ (courses saverRequests _ mem)
  exact ⟨answer, t, mem, document, held rfl written, attempts, writes⟩

end Session

end Reflex
