import Mathlib.Data.List.Perm.Basic
import Reflex.Session.Basic

/-!
# Reading a journal

Dispatches, updates and invocations of listeners each write an entry when they begin and one when
they end.  In a `Nested` list of entries, everything that begins also ends, and what begins later
ends earlier.  The lists here are in the order of time.

* `Entry.own` keeps what belongs to the dispatch under way and leaves out the dispatches nested in
  it.
* `Draws` runs a stack of events through entries that put events on it and take the topmost one
  off.  `Draws.perm` says that no event is lost on the way and none is doubled.
* `Entry.latest` is the document that the last update among the entries has made.
-/

namespace Reflex

/-- Whether an entry neither begins nor ends anything. -/
def Entry.isPlain : Entry → Bool
  | .queued _ | .taken _ | .selected _ | .answered _ _ => true
  | _ => false

/-- The entries of the beginning and of the end of an update, or of an invocation. -/
inductive Entry.Encloses : Entry → Entry → Prop
  | update (before after : Fields) (text : String) (written : Bool) :
      Encloses (.committed before after) (.closed text written)
  | callback (listener : String) (values : List Value) :
      Encloses (.notified listener values) (.returned listener)
  | widget (listener : String) : Encloses (.rendered listener) (.returned listener)

/-- Entries among which all that begins ends, the inner before the outer. -/
inductive Nested : List Entry → Prop
  | nil : Nested []
  | plain {entry : Entry} {es : List Entry} (isPlain : entry.isPlain) (rest : Nested es) :
      Nested (entry :: es)
  | enclosed {first last : Entry} {inner es : List Entry} (encloses : first.Encloses last)
      (during : Nested inner) (rest : Nested es) : Nested (first :: (inner ++ last :: es))
  | dispatch (event : Event) (data : Fields) {inner es : List Entry} (during : Nested inner)
      (rest : Nested es) : Nested (.began event data :: (inner ++ .ended :: es))

lemma Nested.append {es fs : List Entry} (h : Nested es) (h' : Nested fs) :
    Nested (es ++ fs) := by
  induction h with
  | nil => exact h'
  | plain isPlain _ ih => exact .plain isPlain ih
  | enclosed encloses during _ _ ih =>
    rw [List.cons_append, List.append_assoc]
    exact .enclosed encloses during ih
  | dispatch event data during _ _ ih =>
    rw [List.cons_append, List.append_assoc]
    exact .dispatch event data during ih

/-! ## What belongs to a dispatch -/

namespace Entry

variable {entry first last : Entry} {es fs : List Entry}

/-- The entries outside of the dispatches that begin among them, where `depth` such dispatches are
under way already. -/
def ownAt : (depth : Nat) → List Entry → List Entry
  | _, [] => []
  | depth, .began _ _ :: es => ownAt (depth + 1) es
  | depth, .ended :: es => ownAt (depth - 1) es
  | 0, entry :: es => entry :: ownAt 0 es
  | depth + 1, _ :: es => ownAt (depth + 1) es

/-- The entries outside of the dispatches that begin among them. -/
def own (es : List Entry) : List Entry :=
  ownAt 0 es

lemma own_cons_of_isPlain (isPlain : entry.isPlain) : own (entry :: es) = entry :: own es := by
  cases entry <;> first | rfl | cases isPlain

lemma ownAt_cons_of_isPlain (isPlain : entry.isPlain) (depth : Nat) :
    ownAt (depth + 1) (entry :: es) = ownAt (depth + 1) es := by
  cases entry <;> first | rfl | cases isPlain

/-- What an update or an invocation encloses is left out along with it, wherever a dispatch is under
way. -/
lemma Encloses.ownAt_succ (encloses : first.Encloses last) (depth : Nat) :
    ownAt (depth + 1) (first :: es) = ownAt (depth + 1) es ∧
      ownAt (depth + 1) (last :: es) = ownAt (depth + 1) es := by
  cases encloses <;> exact ⟨rfl, rfl⟩

lemma Encloses.own (encloses : first.Encloses last) :
    own (first :: es) = first :: own es ∧ Entry.own (last :: es) = last :: Entry.own es := by
  cases encloses <;> exact ⟨rfl, rfl⟩

/-- Entries that are nested leave the number of dispatches under way as it is. -/
lemma ownAt_succ_append (h : Nested es) (depth : Nat) (fs : List Entry) :
    ownAt (depth + 1) (es ++ fs) = ownAt (depth + 1) fs := by
  induction h generalizing depth fs with
  | nil => rfl
  | plain isPlain _ ih => rw [List.cons_append, ownAt_cons_of_isPlain isPlain, ih]
  | enclosed encloses _ _ ihDuring ih =>
    rw [List.cons_append, List.append_assoc, (encloses.ownAt_succ depth).1, ihDuring,
      List.cons_append, (encloses.ownAt_succ depth).2, ih]
  | dispatch event data _ _ ihDuring ih =>
    rw [List.cons_append, List.append_assoc, ownAt, ihDuring, List.cons_append, ownAt]
    exact ih depth fs

lemma own_append (h : Nested es) (fs : List Entry) : own (es ++ fs) = own es ++ own fs := by
  induction h generalizing fs with
  | nil => rfl
  | plain isPlain _ ih =>
    rw [List.cons_append, own_cons_of_isPlain isPlain, own_cons_of_isPlain isPlain, ih]
    rfl
  | @enclosed first last inner es encloses _ _ ihDuring ih =>
    have keep (fs : List Entry) :
        own (first :: (inner ++ last :: fs)) = first :: (own inner ++ last :: own fs) := by
      rw [encloses.own.1, ihDuring, encloses.own.2]
    rw [List.cons_append, List.append_assoc, List.cons_append, keep, keep, ih, List.cons_append,
      List.append_assoc, List.cons_append]
  | @dispatch event data inner es during _ _ ih =>
    have skip (fs : List Entry) : own (.began event data :: (inner ++ .ended :: fs)) = own fs :=
      ownAt_succ_append during 0 (.ended :: fs)
    rw [List.cons_append, List.append_assoc, List.cons_append, skip, skip, ih]

lemma own_enclosed (encloses : first.Encloses last) (during : Nested es) :
    own (first :: (es ++ [last])) = first :: (own es ++ [last]) := by
  rw [encloses.own.1, own_append during, encloses.own.2]
  rfl

lemma own_dispatch (event : Event) (data : Fields) {inner : List Entry} (during : Nested inner) :
    own (.began event data :: (inner ++ [.ended])) = [] :=
  ownAt_succ_append during 0 [.ended]

/-- The event that an entry says was queued. -/
def queued? : Entry → Option Event
  | .queued event => some event
  | _ => none

/-- The event that an entry says was taken. -/
def taken? : Entry → Option Event
  | .taken event => some event
  | _ => none

lemma Encloses.queued?_eq_none (encloses : first.Encloses last) :
    first.queued? = none ∧ last.queued? = none := by
  cases encloses <;> exact ⟨rfl, rfl⟩

lemma Encloses.taken?_eq_none (encloses : first.Encloses last) :
    first.taken? = none ∧ last.taken? = none := by
  cases encloses <;> exact ⟨rfl, rfl⟩

/-- The document after the updates among the entries. -/
def latest (document : Fields) : List Entry → Fields
  | [] => document
  | .committed _ after :: es => latest after es
  | _ :: es => latest document es

lemma latest_append (document : Fields) :
    latest document (es ++ fs) = latest (latest document es) fs := by
  induction es generalizing document with
  | nil => rfl
  | cons entry es ih => cases entry <;> exact ih _

end Entry

/-! ## Stacks of events -/

/-- Entries lead from one stack of events to another, if every queued event is put on top and every
event taken is the topmost one.  The events taken are given in order. -/
inductive Draws : List Event → List Entry → List Event → List Event → Prop
  | nil (stack : List Event) : Draws stack [] [] stack
  | queued {stack stack' taken : List Event} {event : Event} {es : List Entry}
      (rest : Draws (event :: stack) es taken stack') :
      Draws stack (.queued event :: es) taken stack'
  | taken {stack stack' taken : List Event} {event : Event} {es : List Entry}
      (rest : Draws stack es taken stack') :
      Draws (event :: stack) (.taken event :: es) (event :: taken) stack'
  | other {stack stack' taken : List Event} {entry : Entry} {es : List Entry}
      (notQueued : entry.queued? = none) (notTaken : entry.taken? = none)
      (rest : Draws stack es taken stack') : Draws stack (entry :: es) taken stack'

namespace Draws

variable {stack stack' stack'' taken taken' : List Event} {es fs : List Entry}

lemma append (h : Draws stack es taken stack') (h' : Draws stack' fs taken' stack'') :
    Draws stack (es ++ fs) (taken ++ taken') stack'' := by
  induction h with
  | nil => exact h'
  | queued _ ih => exact .queued (ih h')
  | taken _ ih => exact .taken (ih h')
  | other notQueued notTaken _ ih => exact .other notQueued notTaken (ih h')

/-- What encloses entries without being queued or taken changes nothing. -/
lemma enclosed {first last : Entry} (encloses : first.Encloses last)
    (h : Draws stack es taken stack') : Draws stack (first :: (es ++ [last])) taken stack' := by
  have ends : Draws stack (es ++ [last]) (taken ++ []) stack' :=
    h.append (.other encloses.queued?_eq_none.2 encloses.taken?_eq_none.2 (.nil stack'))
  rw [List.append_nil] at ends
  exact .other encloses.queued?_eq_none.1 encloses.taken?_eq_none.1 ends

/-- What was on the stack or was queued was either taken or is on the stack still. -/
theorem perm (h : Draws stack es taken stack') :
    (taken ++ stack').Perm (stack ++ es.filterMap Entry.queued?) := by
  induction h with
  | nil => simp
  | queued _ ih => exact ih.trans List.perm_middle.symm
  | taken _ ih => exact ih.cons _
  | other notQueued _ _ ih => rwa [List.filterMap_cons_none notQueued]

lemma taken_eq (h : Draws stack es taken stack') : es.filterMap Entry.taken? = taken := by
  induction h with
  | nil => rfl
  | queued _ ih => exact ih
  | taken _ ih => exact congrArg _ ih
  | other _ notTaken _ ih => rwa [List.filterMap_cons_none notTaken]

end Draws

end Reflex
