import Reflex.Proofs.Session.Accounting
import Reflex.Proofs.Session.Replacement

/-!
# The record of the latest dispatch

An engine keeps a record of the latest dispatch that was not nested in another, with the rule that
it fired last.  A rule is put on it when the update of its cycle is over, and so the listeners that
are told of this update still read there the rule that was fired before it.
`Session.record_follows_updates` says what is on record whenever it is read.

* `Chronicle` is what a monitor that reads a journal knows about the latest dispatch, and
  `Chronicle.step` what it learns from an entry.
* `Session.Recorded` says that the engine has on record what the monitor knows, and
  `Session.KeepsRecord` what each piece of work preserves of it.
-/

namespace Reflex

/-- What can be read off a journal about the latest dispatch that was not nested in another. -/
structure Chronicle where
  /-- How many dispatches are under way. -/
  depth : Nat
  event : Event
  data : Fields
  /-- The rule that a cycle of the dispatch has selected and whose update is not over, with the
  number of updates that are under way in that cycle. -/
  firing? : Option (Nat × Nat)
  /-- The rule of the last cycle of the dispatch whose update is over. -/
  applied? : Option Nat

namespace Chronicle

/-- Before the first dispatch. -/
def start : Chronicle := ⟨0, ⟨"", ""⟩, [], none, none⟩

/-- The record of the dispatch with a rule on it. -/
def recordOf (c : Chronicle) (fired? : Option Nat) : DispatchRecord :=
  ⟨c.event.origin, c.event.name, c.data, fired?⟩

/-- What is on record. -/
def record (c : Chronicle) : DispatchRecord :=
  c.recordOf c.applied?

/-- An update begins in the cycle under way. -/
def commit (c : Chronicle) : Chronicle :=
  { c with firing? := c.firing?.map fun (rule, updates) => (rule, updates + 1) }

/-- An update comes to its end.  It is that of the cycle under way itself if no other is under way
in the cycle. -/
def close (c : Chronicle) : Chronicle :=
  match c.firing? with
  | none => c
  | some (rule, updates) =>
    if updates ≤ 1 then { c with firing? := none, applied? := some rule }
    else { c with firing? := some (rule, updates - 1) }

/-- What is learnt from an entry. -/
def step (c : Chronicle) : Entry → Chronicle
  | .began event data =>
    if c.depth = 0 then ⟨1, event, data, none, none⟩ else { c with depth := c.depth + 1 }
  | .ended =>
    if c.depth ≤ 1 then { c with depth := 0, firing? := none } else { c with depth := c.depth - 1 }
  | .selected rule => if c.depth = 1 then { c with firing? := some (rule, 0) } else c
  | .committed _ _ => c.commit
  | .closed _ _ => c.close
  | _ => c

/-- What is learnt from a journal, the latest entry of which comes first. -/
def ofJournal : List Entry → Chronicle
  | [] => start
  | entry :: earlier => (ofJournal earlier).step entry

/-- The rule of the dispatch whose patch was committed last, unless a cycle has selected a rule
since then and has not committed its patch yet. -/
def current? (c : Chronicle) : Option Nat :=
  match c.firing? with
  | none => c.applied?
  | some (_, 0) => none
  | some (rule, _ + 1) => some rule

variable {c : Chronicle}

/-- What is expected of a record by those to whom a rule is fired once its patch is committed. -/
def Expects (c : Chronicle) (r : DispatchRecord) : Prop :=
  ∀ index, c.current? = some index → r = c.recordOf (some index)

/-- No cycle is between the selection of its rule and its patch. -/
def Steady (c : Chronicle) : Prop :=
  ∀ rule, c.firing? ≠ some (rule, 0)

/-- What is on record is expected when no update of a cycle is under way. -/
lemma expects_record (idle : c.firing? = none) : c.Expects c.record := by
  intro index current
  have applied : c.applied? = some index := by rwa [current?, idle] at current
  rw [record, applied]

lemma steady_of_none (idle : c.firing? = none) : c.Steady := by
  intro rule selected
  cases idle.symm.trans selected

lemma steady_commit (c : Chronicle) : c.commit.Steady := by
  intro rule
  cases firing : c.firing? with
  | none => simp [commit, firing]
  | some pair => simp [commit, firing]

/-- An update that begins and ends leaves no trace, unless it is that of a cycle. -/
lemma close_commit (steady : c.Steady) : c.commit.close = c := by
  cases firing : c.firing? with
  | none =>
    obtain ⟨depth, event, data, firing?, applied?⟩ := c
    subst firing
    rfl
  | some pair =>
    obtain ⟨rule, updates⟩ := pair
    obtain ⟨depth, event, data, firing?, applied?⟩ := c
    subst firing
    cases updates with
    | zero => exact absurd rfl (steady rule)
    | succ updates => rfl

lemma close_of_none (idle : c.firing? = none) : c.close = c := by
  rw [close, idle]

lemma depth_close (c : Chronicle) : c.close.depth = c.depth := by
  rw [close]
  split
  · rfl
  · split <;> rfl

lemma step_began (inside : c.depth ≠ 0) (event : Event) (data : Fields) :
    c.step (.began event data) = { c with depth := c.depth + 1 } :=
  if_neg inside

lemma step_selected (inside : c.depth = 1) (rule : Nat) :
    c.step (.selected rule) = { c with firing? := some (rule, 0) } :=
  if_pos inside

/-- A dispatch inside of another one leaves no trace. -/
lemma ended_began (inside : c.depth ≠ 0) (event : Event) (data : Fields) :
    (c.step (.began event data)).step .ended = c := by
  have nested : ¬ c.depth + 1 ≤ 1 := by omega
  rw [step_began inside, step, if_neg nested]
  rfl

/-- The update of a cycle puts the rule of the cycle in place. -/
lemma close_commit_of_selected {rule : Nat} (selected : c.firing? = some (rule, 0)) :
    c.commit.close = { c with firing? := none, applied? := some rule } := by
  simp [commit, close, selected]

end Chronicle

/-- A journal, the latest entry of which comes first, in which listeners were told the truth about
the latest dispatch. -/
def Truthful (journal : List Entry) : Prop :=
  ∀ name r earlier, .answered name (.lastDispatch r) :: earlier <:+ journal →
    r = (Chronicle.ofJournal earlier).record

lemma truthful_nil : Truthful [] :=
  fun _ _ _ suffix => absurd (List.suffix_nil.1 suffix) (List.cons_ne_nil _ _)

lemma Truthful.cons {journal : List Entry} (h : Truthful journal) {entry : Entry}
    (right : ∀ name r, entry = .answered name (.lastDispatch r) →
      r = (Chronicle.ofJournal journal).record) : Truthful (entry :: journal) := by
  intro name r earlier suffix
  rcases List.suffix_cons_iff.1 suffix with same | suffix
  · obtain ⟨rfl, rfl⟩ := List.cons.inj same
    exact right name r rfl
  · exact h name r earlier suffix

namespace Session

variable {s t u : Session} {entry : Entry} {event : Event} {data : Fields}
  {rules : List CompiledRule} {rule : CompiledRule} {patch : Patch}

/-- What can be read off the journal of a session about the latest dispatch. -/
def chronicle (s : Session) : Chronicle :=
  Chronicle.ofJournal s.journal

/-- What is known about the latest dispatch is on record, and listeners were told so. -/
structure Recorded (s : Session) : Prop where
  last : s.engine.last = s.chronicle.record
  frames : s.engine.frames.length = s.chronicle.depth
  idle : s.chronicle.depth = 0 → s.chronicle.firing? = none
  truthful : Truthful s.journal

/-! ## Steps that tell nothing about dispatches -/

/-- Nothing has come up that is to be on record. -/
structure Unmoved (s t : Session) : Prop where
  last : t.engine.last = s.engine.last
  frames : t.engine.frames.length = s.engine.frames.length
  chronicle : t.chronicle = s.chronicle
  truthful : Truthful s.journal → Truthful t.journal

namespace Unmoved

lemma refl (s : Session) : Unmoved s s :=
  ⟨rfl, rfl, rfl, id⟩

lemma trans (h : Unmoved s t) (h' : Unmoved t u) : Unmoved s u where
  last := h'.last.trans h.last
  frames := h'.frames.trans h.frames
  chronicle := h'.chronicle.trans h.chronicle
  truthful := h'.truthful ∘ h.truthful

lemma of_journal_eq (journal : t.journal = s.journal) (last : t.engine.last = s.engine.last)
    (frames : t.engine.frames.length = s.engine.frames.length) : Unmoved s t where
  last := last
  frames := frames
  chronicle := congrArg Chronicle.ofJournal journal
  truthful := fun truthful => journal ▸ truthful

/-- An entry that a monitor learns nothing from. -/
lemma of_record (last : t.engine.last = s.engine.last)
    (frames : t.engine.frames.length = s.engine.frames.length)
    (journal : t.journal = entry :: s.journal) (plain : s.chronicle.step entry = s.chronicle)
    (silent : ∀ name r, entry ≠ .answered name (.lastDispatch r)) : Unmoved s t where
  last := last
  frames := frames
  chronicle := (congrArg Chronicle.ofJournal journal).trans plain
  truthful := by
    intro truthful
    rw [journal]
    exact truthful.cons fun name r same => absurd same (silent name r)

lemma queue (s : Session) (event : Event) : Unmoved s (s.queue event) := by
  refine of_record ?_ length_frames_queue rfl rfl nofun
  rw [engine_queue, Engine.queue]
  split <;> rfl

lemma queueAll (events : List Event) (s : Session) : Unmoved s (s.queueAll events) :=
  List.foldlRecOn _ _ (.refl s) fun t before event _ => before.trans (.queue t event)

lemma recorded (h : Unmoved s t) (before : Recorded s) : Recorded t where
  last := by rw [h.last, h.chronicle, before.last]
  frames := by rw [h.frames, h.chronicle, before.frames]
  idle := by
    rw [h.chronicle]
    exact before.idle
  truthful := h.truthful before.truthful

lemma take {engine : Engine} (next : s.engine.next = some (event, engine)) :
    Unmoved s (s.take event engine) := by
  obtain ⟨frame, frames, busy, rfl⟩ := next_eq_some_iff.1 next
  refine of_record rfl ?_ rfl rfl nofun
  simp [Session.take, busy]

lemma considering (s : Session) : Unmoved s (s.considering rules event data) :=
  queueAll _ s

/-- The rules that dispatches select are not on record if they are nested in another. -/
lemma firing (nested : s.chronicle.depth ≠ 1) : Unmoved s (s.firing rules event data rule) := by
  have considered : Unmoved s (s.considering rules event data) := considering s
  have selected : Unmoved (s.considering rules event data)
      ((s.considering rules event data).record (.selected rule.index)) := by
    refine of_record rfl rfl rfl ?_ nofun
    rw [considered.chronicle, Chronicle.step, if_neg nested]
  exact (considered.trans selected).trans (queueAll _ _)

/-- Nor are the rules that have fired in nested dispatches. -/
lemma recordFired (s : Session) {outermost : Bool} (nested : outermost = false)
    (fired? : Option Nat) : Unmoved s (s.recordFired outermost fired?) := by
  rw [nested]
  exact refl s

/-- Requests that ask for nothing that listeners are told of. -/
lemma perform {react : Reaction} {request : Request} (demand : request.demand s = .plain) :
    Unmoved s (s.perform react request).2 := by
  rcases queue_or_eq_of_plain react demand with ⟨event, queued⟩ | ⟨engine, journal⟩
  · rw [queued]
    exact queue s event
  · exact of_journal_eq journal (by rw [engine]) (by rw [engine])

end Unmoved

/-- A request for the record is answered by the record. -/
lemma last_of_answer {react : Reaction} {request : Request} {record : DispatchRecord}
    (demand : request.demand s = .plain)
    (answered : (s.perform react request).1 = .lastDispatch record) : record = s.engine.last := by
  cases request with
  | update v =>
    rw [perform] at answered
    cases read : Patch.ofValue? v with
    | none =>
      rw [read] at answered
      cases answered
    | some patch => simp [Request.demand, read] at demand
  | assign text data commit =>
    cases commit with
    | false => cases answered
    | true => cases demand
  | lastDispatch =>
    cases answered
    rfl
  | apply | define | renderAll | dispatch | init | replaceRules | replaceDocument => cases demand
  | _ => cases answered

/-- An answer that tells what is on record. -/
lemma Unmoved.answered {answer : Answer} (before : Recorded s) (listener : String)
    (right : ∀ r, answer = .lastDispatch r → r = s.engine.last) :
    Unmoved s (s.record (.answered listener answer)) where
  last := rfl
  frames := rfl
  chronicle := rfl
  truthful := by
    intro truthful
    refine truthful.cons fun name r same => ?_
    obtain ⟨rfl, rfl⟩ := Entry.answered.inj same
    exact (right r rfl).trans before.last

lemma answerOfUpdate_ne_lastDispatch {request : Request} {changes : Except StoreError NameSet}
    {r : DispatchRecord} : request.answerOfUpdate s changes ≠ .lastDispatch r := by
  cases request <;> cases changes <;> exact nofun

lemma ofDispatch_ne_lastDispatch {outcome : Except EngineError Outcome} {r : DispatchRecord} :
    Answer.ofDispatch outcome ≠ .lastDispatch r := by
  cases outcome <;> exact nofun

/-- What listeners are told is which values they watch have, or that they are to render
themselves. -/
def Announces (message : Session → Registration → Option Entry) : Prop :=
  ∀ s r entry, message s r = some entry →
    (∃ values, entry = .notified r.listener values) ∨ entry = .rendered r.listener

lemma announces_message : Announces message? := by
  intro s r entry told
  rw [message?] at told
  split at told
  · cases told
  · split at told
    · exact .inl ⟨_, (Option.some.inj told).symm⟩
    · split at told
      · exact .inr (Option.some.inj told).symm
      · cases told

lemma announces_rendering : Announces rendering? := by
  intro s r entry told
  rw [rendering?] at told
  split at told
  · cases told
  · split at told
    · exact .inr (Option.some.inj told).symm
    · cases told

lemma Unmoved.returned (s : Session) (listener : String) :
    Unmoved s (s.record (.returned listener)) :=
  of_record rfl rfl rfl rfl nofun

lemma Unmoved.told {message : Session → Registration → Option Entry} {r : Registration}
    (announces : Announces message) (told : message s r = some entry) :
    Unmoved s (s.record entry) := by
  rcases announces s r entry told with ⟨values, rfl⟩ | rfl
  · exact of_record rfl rfl rfl rfl nofun
  · exact of_record rfl rfl rfl rfl nofun

/-! ## Work -/

/-- Work after which what is known is on record again.  Inside of a dispatch it is as before. -/
structure Settles (s t : Session) : Prop where
  recorded : Recorded t
  inside : s.chronicle.depth ≠ 0 → t.chronicle = s.chronicle
  outside : s.chronicle.depth = 0 → t.chronicle.depth = 0

namespace Settles

lemma of_unmoved (before : Recorded s) (h : Unmoved s t) : Settles s t where
  recorded := h.recorded before
  inside := fun _ => h.chronicle
  outside := fun outside => h.chronicle ▸ outside

lemma steady (h : Settles s t) (steady : s.chronicle.Steady) : t.chronicle.Steady := by
  by_cases outside : s.chronicle.depth = 0
  · exact Chronicle.steady_of_none (h.recorded.idle (h.outside outside))
  · exact h.inside outside ▸ steady

lemma trans (h : Settles s t) (h' : Settles t u) : Settles s u where
  recorded := h'.recorded
  inside := fun inside => by
    have same := h.inside inside
    rw [← same] at inside ⊢
    exact h'.inside inside
  outside := fun outside => h'.outside (h.outside outside)

lemma after (h : Settles s t) (h' : Unmoved t u) : Settles s u :=
  h.trans (of_unmoved h.recorded h')

end Settles

/-- What an update of a cycle leaves behind, in a dispatch that is not nested.  Its rule is still to
be put on record. -/
structure Applies (rule : Nat) (s t : Session) : Prop where
  last : t.engine.last = s.engine.last
  frames : t.engine.frames.length = s.engine.frames.length
  chronicle : t.chronicle = { s.chronicle with firing? := none, applied? := some rule }
  truthful : Truthful t.journal

/-- What a cycle leaves behind, in a dispatch that is not nested.  The rule that it fired, if it
fired one, is still to be put on record. -/
structure Completes (done : Except EngineError Cycle) (s t : Session) : Prop where
  last : t.engine.last = s.engine.last
  frames : t.engine.frames.length = s.engine.frames.length
  depth : t.chronicle.depth = s.chronicle.depth
  record : t.chronicle.record =
    { s.chronicle.record with
      fired? := (done.toOption.bind Cycle.fired?).or s.chronicle.applied? }
  firing : done.toOption.isSome → t.chronicle.firing? = none
  truthful : Truthful t.journal

/-- What the cycles of a dispatch that is not nested leave behind. -/
structure Drained (t : Session) : Prop where
  last : t.engine.last = t.chronicle.record
  frames : t.engine.frames.length = 1
  depth : t.chronicle.depth = 1
  truthful : Truthful t.journal

namespace Recorded

lemma commit (before : Recorded s) (patch : Patch) : Recorded (s.commit patch) where
  last := before.last
  frames := before.frames
  idle := fun outside => congrArg (Option.map _) (before.idle outside)
  truthful := before.truthful.cons nofun

lemma close (before : Recorded s) (kept : s.chronicle.close.record = s.chronicle.record) :
    Recorded s.close where
  last := before.last.trans kept.symm
  frames := before.frames.trans (Chronicle.depth_close _).symm
  idle := by
    intro outside
    have idle := before.idle ((Chronicle.depth_close _).symm.trans outside)
    exact (congrArg Chronicle.firing? (Chronicle.close_of_none idle)).trans idle
  truthful := before.truthful.cons nofun

lemma isIdle_iff (before : Recorded s) : s.engine.isIdle = true ↔ s.chronicle.depth = 0 := by
  rw [Engine.isIdle, List.isEmpty_iff_length_eq_zero, before.frames]

lemma enter (before : Recorded s) (event : Event) (data : Fields) :
    Recorded (s.enter event data) := by
  have began : (s.enter event data).chronicle = s.chronicle.step (.began event data) := rfl
  have frames : (s.enter event data).engine.frames.length = s.chronicle.depth + 1 :=
    (congrArg List.length Runs.frames_enter).trans (congrArg (· + 1) before.frames)
  have truthful : Truthful (s.enter event data).journal := before.truthful.cons nofun
  rcases Nat.eq_zero_or_pos s.chronicle.depth with outside | inside
  · have last : (s.engine.enter event data).last = ⟨event.origin, event.name, data, none⟩ := by
      rw [Engine.enter, if_pos (before.isIdle_iff.2 outside)]
    rw [Chronicle.step, if_pos outside] at began
    refine ⟨last.trans ?_, frames.trans ?_, ?_, truthful⟩
    · rw [began]
      rfl
    · rw [began, outside]
    · rw [began]
      exact fun _ => rfl
  · have busy := fun idle => inside.ne' (before.isIdle_iff.1 idle)
    have last : (s.engine.enter event data).last = s.engine.last := by
      rw [Engine.enter, if_neg busy]
    rw [Chronicle.step, if_neg inside.ne'] at began
    refine ⟨(last.trans before.last).trans ?_, frames.trans ?_, ?_, truthful⟩
    · rw [began]
      rfl
    · rw [began]
    · rw [began]
      exact fun outside => absurd outside (Nat.succ_ne_zero _)

/-- The end of a dispatch that is not nested. -/
lemma leave (drained : Drained s) : Recorded s.leave := by
  have ended : s.leave.chronicle = { s.chronicle with depth := 0, firing? := none } :=
    if_pos drained.depth.le
  refine ⟨?_, ?_, ?_, drained.truthful.cons nofun⟩
  · rw [ended]
    exact drained.last
  · rw [ended]
    exact (List.length_tail).trans (congrArg (· - 1) drained.frames)
  · rw [ended]
    exact fun _ => rfl

end Recorded

/-- An update leaves no trace of its own, unless it is that of a cycle. -/
lemma Settles.close (steady : s.chronicle.Steady) (during : Settles (s.commit patch) t) :
    Settles s t.close := by
  have closed : t.close.chronicle = t.chronicle.close := rfl
  rcases Nat.eq_zero_or_pos s.chronicle.depth with outside | inside
  · have outside' : t.chronicle.depth = 0 := during.outside outside
    have same := Chronicle.close_of_none (during.recorded.idle outside')
    exact ⟨during.recorded.close (by rw [same]), fun inside => absurd outside inside,
      fun _ => by rw [closed, same, outside']⟩
  · have same : t.chronicle = s.chronicle.commit := during.inside inside.ne'
    have undone := Chronicle.close_commit steady
    have kept : t.chronicle.close.record = t.chronicle.record := by
      rw [same, undone]
      rfl
    exact ⟨during.recorded.close kept, fun _ => by rw [closed, same, undone],
      fun outside => absurd outside inside.ne'⟩

/-- The update of a cycle. -/
lemma Settles.applies {index : Nat} (selected : s.chronicle.firing? = some (index, 0))
    (inside : s.chronicle.depth = 1) (before : Recorded s)
    (during : Settles (s.commit patch) t) : Applies index s t.close := by
  have same : t.chronicle = s.chronicle.commit := during.inside (by
    intro outside
    exact absurd (inside.symm.trans outside) Nat.one_ne_zero)
  refine ⟨?_, ?_, ?_, during.recorded.truthful.cons nofun⟩
  · exact during.recorded.last.trans ((congrArg Chronicle.record same).trans before.last.symm)
  · exact during.recorded.frames.trans ((congrArg Chronicle.depth same).trans before.frames.symm)
  · have closed : t.close.chronicle = t.chronicle.close := rfl
    rw [closed, same, Chronicle.close_commit_of_selected selected]

/-- The end of a dispatch that is nested. -/
lemma Settles.leave (inside : s.chronicle.depth ≠ 0)
    (during : Settles (s.enter event data) t) : Settles s t.leave := by
  have began : (s.enter event data).chronicle =
      { s.chronicle with depth := s.chronicle.depth + 1 } :=
    Chronicle.step_began inside event data
  have same : t.chronicle = { s.chronicle with depth := s.chronicle.depth + 1 } :=
    (during.inside (began ▸ Nat.succ_ne_zero _)).trans began
  have ended : t.leave.chronicle = s.chronicle := calc
    t.leave.chronicle = t.chronicle.step .ended := rfl
    _ = (s.chronicle.step (.began event data)).step .ended := by
      rw [same, Chronicle.step_began inside]
    _ = s.chronicle := Chronicle.ended_began inside event data
  refine ⟨⟨?_, ?_, fun outside => absurd (ended ▸ outside) inside,
    during.recorded.truthful.cons nofun⟩, fun _ => ended, fun outside => absurd outside inside⟩
  · rw [ended]
    refine during.recorded.last.trans ?_
    rw [same]
    rfl
  · rw [ended]
    refine (List.length_tail).trans ?_
    rw [during.recorded.frames, same]
    rfl

/-- A cycle of a dispatch that is not nested selects a rule. -/
structure Selects (s : Session) (index : Nat) (t : Session) : Prop where
  recorded : Recorded t
  last : t.engine.last = s.engine.last
  frames : t.engine.frames.length = s.engine.frames.length
  chronicle : t.chronicle = { s.chronicle with firing? := some (index, 0) }

lemma selects_firing (before : Recorded s) (once : s.chronicle.depth = 1)
    (rules : List CompiledRule) (event : Event) (data : Fields) (rule : CompiledRule) :
    Selects s rule.index (s.firing rules event data rule) := by
  have considered : Unmoved s (s.considering rules event data) := .considering s
  have truthful := (considered.recorded before).truthful
  have selected : ((s.considering rules event data).record (.selected rule.index)).chronicle =
      { s.chronicle with firing? := some (rule.index, 0) } := by
    rw [← considered.chronicle] at once ⊢
    exact Chronicle.step_selected once rule.index
  have fired : Unmoved ((s.considering rules event data).record (.selected rule.index))
      (s.firing rules event data rule) := .queueAll _ _
  refine ⟨fired.recorded ⟨?_, ?_, ?_, truthful.cons nofun⟩, fired.last.trans considered.last,
    fired.frames.trans considered.frames, fired.chronicle.trans selected⟩
  · rw [selected]
    exact considered.last.trans before.last
  · rw [selected]
    exact considered.frames.trans before.frames
  · rw [selected]
    exact fun outside => absurd (once.symm.trans outside) Nat.one_ne_zero

lemma Recorded.drained (recorded : Recorded s) (inside : s.chronicle.depth = 1) : Drained s :=
  ⟨recorded.last, recorded.frames.trans inside, inside, recorded.truthful⟩

lemma last_recordFired (fired? : Option Nat) (s : Session) :
    (s.recordFired true fired?).engine.last =
      { s.engine.last with fired? := fired?.or s.engine.last.fired? } := by
  cases fired? <;> rfl

namespace Completes

variable {done : Cycle} {e : EngineError}

/-- A cycle that fails has nothing to put on record. -/
lemma drained (h : Completes (.error e) s t) (before : Drained s) : Drained t where
  last := (h.last.trans before.last).trans h.record.symm
  frames := h.frames.trans before.frames
  depth := h.depth.trans before.depth
  truthful := h.truthful

/-- After a cycle the rule that it fired is put on record. -/
lemma recordFired (h : Completes (.ok done) s t) (before : Recorded s)
    (inside : s.chronicle.depth = 1) : Recorded (t.recordFired true done.fired?) where
  last := by
    rw [last_recordFired, h.last, before.last]
    exact h.record.symm
  frames := by
    rw [frames_recordFired, h.frames, before.frames]
    exact h.depth.symm
  idle := fun outside => absurd (inside.symm.trans (h.depth.symm.trans outside)) Nat.one_ne_zero
  truthful := h.truthful

end Completes

/-- A cycle that fails after it has selected a rule. -/
lemma Selects.completes {index : Nat} {e : EngineError} (h : Selects s index t) :
    Completes (.error e) s t where
  last := h.last
  frames := h.frames
  depth := by rw [h.chronicle]
  record := by
    rw [h.chronicle]
    rfl
  firing := nofun
  truthful := h.recorded.truthful

/-- What a piece of work preserves of what is on record. -/
def KeepsRecord (s t : Session) : Work → Prop
  | .run _ steps => s.chronicle.Steady → Settles s t ∧ ∀ step ∈ steps, Settles s step.2 ∧
      ∀ r, step.1 = .lastDispatch r → r = step.2.engine.last
  | .request _ answer => s.chronicle.Steady → Settles s t ∧
      ∀ r, answer = .lastDispatch r → r = t.engine.last
  | .turns message _ => Announces message → s.chronicle.Steady → Settles s t
  -- What is known is ahead of what is on record from the end of the update of a cycle on, until the
  -- cycle itself is over; nobody reads the record in between.
  | .update _ changes => (s.chronicle.Steady → Settles s t) ∧
      ∀ index, s.chronicle.firing? = some (index, 0) → s.chronicle.depth = 1 →
        match changes with
        | .ok _ => Applies index s t
        | .error _ => t = s
  | .cycles _ outermost _ _ _ _ => s.chronicle.depth ≠ 0 → (outermost ↔ s.chronicle.depth = 1) →
      (s.chronicle.depth ≠ 1 → s.chronicle.Steady → Settles s t) ∧
      (s.chronicle.depth = 1 → s.chronicle.firing? = none → Drained t)
  | .cycle _ _ _ done => s.chronicle.depth ≠ 0 →
      (s.chronicle.depth ≠ 1 → s.chronicle.Steady → Settles s t) ∧
      (s.chronicle.depth = 1 → s.chronicle.firing? = none → Completes done s t)
  | _ => s.chronicle.Steady → Settles s t

namespace KeepsRecord

variable {outcome outcome' : Except EngineError Outcome} {left : Nat} {outermost : Bool}
  {done : Cycle} {event' : Event} {engine : Engine} {changes : Except StoreError NameSet}

/-- A dispatch goes through its cycles. -/
lemma dispatch (before : Recorded s) (during : Recorded (s.enter event data) →
      KeepsRecord (s.enter event data) t (.cycles rules s.engine.isIdle left event data outcome)) :
    KeepsRecord s t.leave (.dispatch event data outcome) := by
  intro steady
  have during := during (before.enter event data)
  rcases Nat.eq_zero_or_pos s.chronicle.depth with outside | inside
  · have began : (s.enter event data).chronicle = ⟨1, event, data, none, none⟩ := if_pos outside
    rw [before.isIdle_iff.2 outside] at during
    obtain ⟨-, outermost⟩ := during (by simp [began]) (by simp [began])
    have drained := outermost (by rw [began]) (by rw [began])
    have left := Recorded.leave drained
    have idle : t.leave.engine.frames.length = 0 :=
      List.length_tail.trans (congrArg (· - 1) drained.frames)
    exact ⟨left, fun inside => absurd outside inside, fun _ => left.frames.symm.trans idle⟩
  · have began : (s.enter event data).chronicle =
        { s.chronicle with depth := s.chronicle.depth + 1 } :=
      Chronicle.step_began inside.ne' event data
    have busy : s.engine.isIdle = false := by
      simpa using mt before.isIdle_iff.1 inside.ne'
    obtain ⟨nested, -⟩ := during (by simp [began]) (by simp [began, busy, inside.ne'])
    refine (nested (by simp [began, inside.ne']) ?_).leave inside.ne'
    rw [began]
    exact steady

/-- After the last cycle. -/
lemma ends (before : Recorded s) (last : KeepsRecord s t (.cycle rules event data (.ok done))) :
    KeepsRecord s (t.recordFired outermost done.fired?)
      (.cycles rules outermost left event data outcome) := by
  intro inside top
  obtain ⟨nested, single⟩ := last inside
  constructor
  · intro deeper steady
    have inner : outermost = false := by simpa using mt top.1 deeper
    exact (nested deeper steady).after (.recordFired t inner _)
  · intro once unfired
    obtain rfl := top.2 once
    have completes := single once unfired
    exact (completes.recordFired before once).drained (completes.depth.trans once)

/-- After a cycle that is not the last one. -/
lemma continues (before : Recorded s) (first : KeepsRecord s t (.cycle rules event data (.ok done)))
    (next : (t.recordFired outermost done.fired?).engine.next = some (event', engine))
    (rest : Recorded ((t.recordFired outermost done.fired?).take event' engine) →
      KeepsRecord ((t.recordFired outermost done.fired?).take event' engine) u
        (.cycles rules outermost left event' [] outcome)) :
    KeepsRecord s u (.cycles rules outermost (left + 1) event data outcome') := by
  intro inside top
  obtain ⟨nested, single⟩ := first inside
  have taken := Unmoved.take next
  constructor
  · intro deeper steady
    have inner : outermost = false := by simpa using mt top.1 deeper
    have settles := ((nested deeper steady).after (.recordFired t inner _)).after taken
    have same := settles.inside inside
    obtain ⟨later, -⟩ := rest settles.recorded (by rwa [same]) (by rwa [same])
    exact settles.trans (later (by rwa [same]) (settles.steady steady))
  · intro once unfired
    obtain rfl := top.2 once
    have completes := single once unfired
    have recorded := taken.recorded (completes.recordFired before once)
    have same : ((t.recordFired true done.fired?).take event' engine).chronicle = t.chronicle :=
      taken.chronicle
    have depth := completes.depth.trans once
    obtain ⟨-, later⟩ := rest recorded (by simp [same, depth]) (by simp [same, depth])
    exact later (by rw [same, depth]) (by rw [same, completes.firing rfl])

/-- A cycle in which no rule answers. -/
lemma unanswered (before : Recorded s) :
    KeepsRecord s (s.considering rules event data)
      (.cycle rules event data (.ok ⟨event, none, []⟩)) := by
  have considered : Unmoved s (s.considering rules event data) := .considering s
  refine fun _ => ⟨fun _ _ => .of_unmoved before considered, fun _ unfired => ?_⟩
  exact ⟨considered.last, considered.frames, congrArg _ considered.chronicle,
    congrArg _ considered.chronicle, fun _ => (congrArg _ considered.chronicle).trans unfired,
    considered.truthful before.truthful⟩

/-- A cycle in which an update of the rule fails. -/
lemma fails {e : EngineError} (before : Recorded s) :
    KeepsRecord s (s.firing rules event data rule) (.cycle rules event data (.error e)) := by
  refine fun _ => ⟨fun nested _ => .of_unmoved before (.firing nested), fun once _ => ?_⟩
  exact (selects_firing before once rules event data rule).completes

/-- A cycle in which a rule fires, unless its update is refused. -/
lemma fires (before : Recorded s) (during : Recorded (s.firing rules event data rule) →
      KeepsRecord (s.firing rules event data rule) t (.update patch changes)) :
    KeepsRecord s t (.cycle rules event data
      ((changes.mapError .store).map fun changes => ⟨event, some rule.index, changes⟩)) := by
  intro inside
  constructor
  · intro nested steady
    have fired : Settles s (s.firing rules event data rule) := .of_unmoved before (.firing nested)
    exact fired.trans ((during fired.recorded).1 (fired.steady steady))
  · intro once _
    have selects := selects_firing before once rules event data rule
    obtain ⟨-, updated⟩ := during selects.recorded
    specialize updated rule.index (by rw [selects.chronicle]) (by rw [selects.chronicle, once])
    cases changes with
    | error e =>
      obtain rfl := updated
      exact selects.completes
    | ok changes =>
      have applied : t.chronicle =
          { s.chronicle with firing? := none, applied? := some rule.index } := by
        rw [updated.chronicle, selects.chronicle]
      refine ⟨updated.last.trans selects.last, updated.frames.trans selects.frames, ?_, ?_,
        fun _ => ?_, updated.truthful⟩
      · rw [applied]
      · rw [applied]
        rfl
      · rw [applied]

end KeepsRecord

variable {depth : Nat} {work : Work} {a b : RuleSet}

/-- What is known is on record again after each piece of work, or is about to be put there. -/
theorem Serves.keepsRecord (h : Serves depth work a s b t) (before : Recorded s) :
    KeepsRecord s t work := by
  induction h with
  | finished => exact fun _ => ⟨.of_unmoved before (.refl _), List.forall_mem_nil _⟩
  | next _ _ ih ih' =>
    intro steady
    obtain ⟨settles, answered⟩ := ih before steady
    obtain ⟨rest, later⟩ := ih' settles.recorded (settles.steady steady)
    refine ⟨settles.trans rest, List.forall_mem_cons.2 ⟨⟨settles, answered⟩, fun step mem => ?_⟩⟩
    obtain ⟨settles', answered'⟩ := later step mem
    exact ⟨settles.trans settles', answered'⟩
  | @plain _ _ _ _ react demand =>
    have unmoved : Unmoved _ (perform react _ _).2 := .perform demand
    exact fun _ => ⟨.of_unmoved before unmoved, fun r answered =>
      (last_of_answer demand answered).trans unmoved.last.symm⟩
  | updates _ _ ih =>
    exact fun steady => ⟨(ih before).1 steady, fun r answered =>
      absurd answered answerOfUpdate_ne_lastDispatch⟩
  | dispatches _ _ ih =>
    exact fun steady => ⟨ih before steady, fun r answered =>
      absurd answered ofDispatch_ne_lastDispatch⟩
  | renders _ _ ih => exact fun steady => ⟨ih before announces_rendering steady, nofun⟩
  | replaces => exact fun _ => ⟨.of_unmoved before (.of_journal_eq rfl rfl rfl), nofun⟩
  | refuses => exact fun _ => ⟨.of_unmoved before (.refl _), nofun⟩
  | silent | idle => exact fun _ => .of_unmoved before (.refl _)
  | told => exact fun _ _ => .of_unmoved before (.refl _)
  | @makes _ _ _ _ _ _ _ listener _ _ _ _ _ ih ih' =>
    intro steady
    obtain ⟨settles, answered⟩ := ih before steady
    have told := settles.after (.answered settles.recorded listener answered)
    exact told.trans (ih' told.recorded (told.steady steady))
  | @reacts _ _ _ s _ listener _ _ _ _ _ ih =>
    intro steady
    have begun : Settles s (s.adjustListener listener fun l => { l with runs := l.runs - 1 }) :=
      .of_unmoved before (.of_journal_eq rfl rfl rfl)
    exact begun.trans (ih begun.recorded (begun.steady steady))
  | passesOver _ _ ih => exact ih before
  | @tells _ _ _ _ _ _ _ _ r _ _ something _ _ ih ih' =>
    intro announces steady
    have told := Settles.of_unmoved before (.told announces something)
    have reacted := told.trans (ih told.recorded (told.steady steady))
    have returned := reacted.after (.returned _ r.listener)
    exact returned.trans (ih' returned.recorded announces (returned.steady steady))
  | full =>
    exact ⟨fun _ => .of_unmoved before (.refl _), fun _ _ _ => rfl⟩
  | commits _ _ ih =>
    have during := ih (before.commit _) announces_message (Chronicle.steady_commit _)
    exact ⟨fun steady => during.close steady, fun index selected inside =>
      during.applies selected inside before⟩
  | tooDeep => exact fun _ => .of_unmoved before (.refl _)
  | enters _ _ _ ih => exact .dispatch before ih
  | spent =>
    exact fun _ _ => ⟨fun _ _ => .of_unmoved before (.refl _), fun once _ => before.drained once⟩
  | breaks _ _ _ ih =>
    intro inside _
    obtain ⟨nested, single⟩ := ih before inside
    exact ⟨nested, fun once unfired => (single once unfired).drained (before.drained once)⟩
  | ends _ _ _ ih => exact .ends before (ih before)
  | continues _ next _ ih ih' => exact .continues before (ih before) next ih'
  | unanswered => exact .unanswered before
  | fails => exact .fails before
  | fires _ _ _ ih => exact .fires before ih

/-! ## What is on record -/

lemma recorded_of_start {options : SessionOptions} {library : Library} {source : RuleSet}
    {text? : Option String} (started : start options library source text? = .ok s) :
    Recorded s ∧ s.chronicle = .start := by
  obtain ⟨document, program, -, -, rfl⟩ := start_eq_ok_iff.1 started
  exact ⟨⟨rfl, rfl, fun _ => rfl, truthful_nil⟩, rfl⟩

/-- **The record follows the updates.**  Whatever requests are made of a session and whatever
listeners do, also in the middle of updates and of dispatches inside of dispatches, what the record
tells to a listener is the latest dispatch that was not nested in another, with the rule of its last
cycle whose update is over.  So this is the rule whose patch was committed last, unless the update
of a cycle is under way; then it is the rule that was fired before, if there is any.  When a request
has been answered, the rule whose patch was committed last is on record, and a request for the
record is answered by it. -/
theorem record_follows_updates {options : SessionOptions} {library : Library} {source : RuleSet}
    {text? : Option String} {first : Session}
    (started : start options library source text? = .ok first) (requests : List Request) :
    ∀ step ∈ first.run requests,
      (∀ name r earlier, .answered name (.lastDispatch r) :: earlier <:+ step.2.journal →
        r = (Chronicle.ofJournal earlier).record ∧
          ((Chronicle.ofJournal earlier).firing? = none →
            (Chronicle.ofJournal earlier).Expects r)) ∧
      step.2.engine.last = step.2.chronicle.record ∧
      step.2.chronicle.Expects step.2.engine.last ∧
      ∀ r, step.1 = .lastDispatch r → r = step.2.engine.last := by
  intro step mem
  obtain ⟨before, chronicle⟩ := recorded_of_start started
  have steady : first.chronicle.Steady := Chronicle.steady_of_none (by rw [chronicle]; rfl)
  obtain ⟨b, served⟩ := yields_runWith (obliging_react _) requests first source
    (inForce_of_start started)
  obtain ⟨-, steps⟩ := served.keepsRecord before steady
  obtain ⟨settles, answered⟩ := steps step mem
  have after := settles.recorded
  have idle := after.idle (settles.outside (by rw [chronicle]; rfl))
  refine ⟨fun name r earlier suffix => ?_, after.last, ?_, answered⟩
  · have told := after.truthful name r earlier suffix
    exact ⟨told, fun idle => told ▸ Chronicle.expects_record idle⟩
  · exact after.last ▸ Chronicle.expects_record idle

/-- Listeners that read the record while rules fire, one of them after a dispatch of its own; and
the record is read once more in the end. -/
def reading : List Request := [
  .observe "first" ["$a"] .callback [.dispatch ⟨"aside", "press"⟩ [], .lastDispatch] 1,
  .observe "second" ["$b"] .callback [.lastDispatch] 1,
  .dispatch ⟨"start", "press"⟩ [],
  .lastDispatch]

/-- The last answer, and what it leaves behind. -/
def lastReading : Answer × Session :=
  (oldSession.run reading).getLast (List.cons_ne_nil _ _)

lemma start_oldSession : start .default .standard oldRules none = .ok oldSession :=
  start_eq_ok_iff.2 ⟨[], oldProgram, rfl, oldProgram.ofRules_source, rfl⟩

lemma lastReading_mem : lastReading ∈ oldSession.run reading :=
  List.getLast_mem _

/-- What the first listener is told in the cycle of the first rule. -/
lemma reading_first :
    .answered "first" (.lastDispatch ⟨"start", "press", [], none⟩) ::
      lastReading.2.journal.drop 11 <:+ lastReading.2.journal := by
  have told : lastReading.2.journal.drop 10 =
      .answered "first" (.lastDispatch ⟨"start", "press", [], none⟩) ::
        lastReading.2.journal.drop 11 := by decide +kernel
  exact told ▸ List.drop_suffix 10 _

lemma reading_current :
    (Chronicle.ofJournal (lastReading.2.journal.drop 11)).current? = some 0 := by
  decide +kernel

/-- What the second listener is told in the cycle of the second rule. -/
lemma reading_second :
    .answered "second" (.lastDispatch ⟨"start", "press", [], some 0⟩) ::
      lastReading.2.journal.drop 4 <:+ lastReading.2.journal := by
  have told : lastReading.2.journal.drop 3 =
      .answered "second" (.lastDispatch ⟨"start", "press", [], some 0⟩) ::
        lastReading.2.journal.drop 4 := by decide +kernel
  exact told ▸ List.drop_suffix 3 _

/-- While the first rule fires no rule is on record, while the second one fires the first one is,
and in the end the second one is. -/
theorem record_follows_start_press :
    start .default .standard oldRules none = .ok oldSession ∧
    lastReading ∈ oldSession.run reading ∧
    (Chronicle.ofJournal (lastReading.2.journal.drop 11)).record = ⟨"start", "press", [], none⟩ ∧
    (Chronicle.ofJournal (lastReading.2.journal.drop 4)).record = ⟨"start", "press", [], some 0⟩ ∧
    lastReading.1 = .lastDispatch ⟨"start", "press", [], some 1⟩ ∧
    lastReading.2.engine.last = ⟨"start", "press", [], some 1⟩ := by
  obtain ⟨told, -, expects, -⟩ :=
    record_follows_updates start_oldSession reading lastReading lastReading_mem
  have current : lastReading.2.chronicle.current? = some 1 := by decide +kernel
  have event : lastReading.2.chronicle.recordOf (some 1) = ⟨"start", "press", [], some 1⟩ := by
    decide +kernel
  exact ⟨start_oldSession, lastReading_mem, (told _ _ _ reading_first).1.symm,
    (told _ _ _ reading_second).1.symm, by decide +kernel, (expects 1 current).trans event⟩

/-- While a rule fires, listeners do not find it on record. -/
theorem record_behind_patch :
    ¬ ∀ (options : SessionOptions) (library : Library) (source : RuleSet) (text? : Option String)
      (first : Session) (requests : List Request),
      start options library source text? = .ok first → ∀ step ∈ first.run requests,
        ∀ name r earlier, .answered name (.lastDispatch r) :: earlier <:+ step.2.journal →
          (Chronicle.ofJournal earlier).Expects r := by
  intro all
  have expected := all .default .standard oldRules none oldSession reading start_oldSession
    lastReading lastReading_mem _ _ _ reading_first 0 reading_current
  have fired : none = some 0 := congrArg DispatchRecord.fired? expected
  cases fired

end Session

end Reflex
