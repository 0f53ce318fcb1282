import Reflex.Proofs.Session.Lockstep

/-!
# The references of the rules are what a dispatch depends on

Two sessions that differ only under keys the rules do not see go through a dispatch side by side:
`Session.Alike` holds at the beginning, every cycle has the same result in both and preserves it,
and so does the whole run of cycles.

* `Session.Keeps` is the part of the invariant that speaks of one session.
* `Session.dispatch_alike_of_agree` is the result.
-/

namespace Reflex.Session

/-- The session with another document. -/
def withDocument (document : Fields) (s : Session) : Session :=
  { s with store := { s.store with document } }

/-- A session without listeners whose document has what a well-formed document `d` has under every
key that is no reference of the rules. -/
structure Keeps (source : RuleSet) (d : Fields) (s : Session) : Prop where
  alone : s.store.registrations = []
  wellFormed : d.WellFormed
  nodup : s.store.document.names.Nodup
  kept : ∀ key ∉ source.references, s.store.document.get? key = d.get? key

/-- Two sessions without listeners, begun with the documents `d` and `e`, that have the same engine
and agree on what the rules see. -/
structure Alike (source : RuleSet) (d e : Fields) (s t : Session) : Prop where
  engine : s.engine = t.engine
  depth : s.store.depth = t.store.depth
  maxDepth : s.store.maxDepth = t.store.maxDepth
  agree : ∀ key, source.Sees key → s.store.document.get? key = t.store.document.get? key
  left : Keeps source d s
  right : Keeps source e t

variable {source : RuleSet} {d e : Fields} {s s' t t' : Session} {patch : Patch}

/-- A key that is no target of a patch does not change. -/
lemma Keeps.notMem_changesOf (h : Keeps source d s)
    (targets : ∀ key ∈ patch.keys, key ∈ source.references) {key : String}
    (other : key ∉ source.references) : key ∉ s.store.changesOf patch := by
  rw [Store.changesOf, Fields.mem_changes (Patch.nodup_apply h.nodup), Patch.get?_apply,
    Patch.nextAt?_of_notMem fun mem => other (targets key mem), h.kept key other]
  cases found : d.get? key with
  | none => simp [Fields.differ]
  | some v => simp [Fields.differ, v.same_self (h.wellFormed.get? found)]

lemma Keeps.close_commit (h : Keeps source d s)
    (targets : ∀ key ∈ patch.keys, key ∈ source.references) :
    Keeps source d (s.commit patch).close where
  alone := h.alone
  wellFormed := h.wellFormed
  nodup := Patch.nodup_apply h.nodup
  kept := by
    intro key other
    have unnamed : key ∉ patch.keys := fun mem => other (targets key mem)
    calc (Patch.apply s.store.document patch).get? key
        = Patch.nextAt? key patch (s.store.document.get? key) := Patch.get?_apply _ patch key
      _ = s.store.document.get? key := Patch.nextAt?_of_notMem unnamed _
      _ = d.get? key := h.kept key other

namespace Alike

/-- Operations on the engines that are the same in both sessions keep them alike. -/
lemma of_store_eq (h : Alike source d e s t) (store : s'.store = s.store)
    (store' : t'.store = t.store) (engine : s'.engine = t'.engine) : Alike source d e s' t' where
  engine := engine
  depth := by rw [store, store', h.depth]
  maxDepth := by rw [store, store', h.maxDepth]
  agree := by rw [store, store']; exact h.agree
  left := ⟨store ▸ h.left.alone, h.left.wellFormed, store ▸ h.left.nodup, store ▸ h.left.kept⟩
  right := ⟨store' ▸ h.right.alone, h.right.wellFormed, store' ▸ h.right.nodup,
    store' ▸ h.right.kept⟩

lemma queueAll (h : Alike source d e s t) (events : List Event) :
    Alike source d e (s.queueAll events) (t.queueAll events) :=
  h.of_store_eq store_queueAll store_queueAll (by simp [h.engine])

lemma record (h : Alike source d e s t) (entry entry' : Entry) :
    Alike source d e (s.record entry) (t.record entry') :=
  h.of_store_eq rfl rfl h.engine

lemma recordFired (h : Alike source d e s t) (outermost : Bool) (fired? : Option Nat) :
    Alike source d e (s.recordFired outermost fired?) (t.recordFired outermost fired?) := by
  refine h.of_store_eq store_recordFired store_recordFired ?_
  cases outermost with
  | false => exact h.engine
  | true => exact congrArg (Engine.recordFired fired?) h.engine

lemma take (h : Alike source d e s t) (event : Event) (engine : Engine) :
    Alike source d e (s.take event engine) (t.take event engine) :=
  h.of_store_eq rfl rfl rfl

/-- Expressions that read what the rules see cannot tell the sessions apart. -/
lemma scope (h : Alike source d e s t) (data : Fields) :
    Scope.Agree source.Sees (s.scope data) (t.scope data) :=
  ⟨congrArg Engine.library h.engine, rfl, h.agree⟩

/-! ## Updates -/

/-- A patch of references changes the same in both sessions. -/
lemma changesOf_eq (h : Alike source d e s t)
    (targets : ∀ key ∈ patch.keys, key ∈ source.references) :
    s.store.changesOf patch = t.store.changesOf patch := by
  refine NameSet.eq_of_mem_iff (Fields.sorted_changes _ _) (Fields.sorted_changes _ _) fun key => ?_
  by_cases seen : key ∈ source.references
  · -- Both sessions find the same under the key before, and so after the patch too.
    rw [Store.changesOf, Store.changesOf, Fields.mem_changes (Patch.nodup_apply h.left.nodup),
      Fields.mem_changes (Patch.nodup_apply h.right.nodup), Patch.get?_apply, Patch.get?_apply,
      h.agree key (.inl seen)]
  · exact iff_of_false (h.left.notMem_changesOf targets seen)
      (h.right.notMem_changesOf targets seen)

lemma close_commit (h : Alike source d e s t)
    (targets : ∀ key ∈ patch.keys, key ∈ source.references) :
    Alike source d e (s.commit patch).close (t.commit patch).close where
  engine := h.engine
  depth := h.depth
  maxDepth := h.maxDepth
  agree := by
    intro key seen
    calc (Patch.apply s.store.document patch).get? key
        = Patch.nextAt? key patch (s.store.document.get? key) := Patch.get?_apply _ patch key
      _ = Patch.nextAt? key patch (t.store.document.get? key) := by rw [h.agree key seen]
      _ = (Patch.apply t.store.document patch).get? key := (Patch.get?_apply _ patch key).symm
  left := h.left.close_commit targets
  right := h.right.close_commit targets

/-- Two steps come to the same result and leave the sessions alike. -/
def Steps {α : Type} (source : RuleSet) (d e : Fields) (x y : α × Session) : Prop :=
  x.1 = y.1 ∧ Alike source d e x.2 y.2

lemma update (h : Alike source d e s t) (react : Reaction)
    (targets : ∀ key ∈ patch.keys, key ∈ source.references) :
    Steps source d e (s.update react patch) (t.update react patch) := by
  rw [update_of_alone h.left.alone, update_of_alone h.right.alone, h.maxDepth, h.depth]
  split
  · exact ⟨rfl, h⟩
  · exact ⟨congrArg Except.ok (h.changesOf_eq targets), h.close_commit targets⟩

/-! ## Dispatches -/

/-- Under rules that see and set no more than `source` does, sessions that are alike go through
cycles side by side. -/
lemma lockstep {rules : List CompiledRule} (react : Reaction)
    (within : ∀ rule ∈ rules, rule.Within source.Sees (· ∈ source.references)) :
    Lockstep react react rules (Alike source d e) where
  engine h := h.engine
  select h origin data := CompiledRule.select_congr (h.scope data) origin within
  patch h rule mem data := CompiledRule.patch_congr (h.scope data) (within rule mem)
  queue h event := h.queueAll [event]
  selected h rule := h.record (.selected rule) (.selected rule)
  recordFired h := h.recordFired
  take h _ _ _ := h.take _ _
  update h rule mem _ _ computed :=
    h.update react fun _ => CompiledRule.mem_targets_of_patch (within rule mem) computed

lemma enter (h : Alike source d e s t) (event : Event) (data : Fields) :
    Alike source d e (s.enter event data) (t.enter event data) :=
  h.of_store_eq rfl rfl (congrArg (Engine.enter event data) h.engine)

lemma leave (h : Alike source d e s t) : Alike source d e s.leave t.leave :=
  h.of_store_eq rfl rfl (congrArg Engine.leave h.engine)

/-- A dispatch under rules of which `source` is the text has the same result in both sessions and
leaves them alike. -/
lemma dispatch (h : Alike source d e s t) (react : Reaction) (event : Event) (data : Fields)
    (inForce : s.engine.program.source = source) :
    Steps source d e (s.dispatch react event data) (t.dispatch react event data) := by
  have within : ∀ rule ∈ s.engine.program.rules,
      rule.Within source.Sees (· ∈ source.references) :=
    RuleSet.within_references (inForce ▸ s.engine.program.compiled)
  rw [Session.dispatch, Session.dispatch, ← h.engine]
  split
  · exact ⟨rfl, h⟩
  · obtain ⟨same, after⟩ := (lockstep react within).drain (h.enter event data) s.engine.isIdle
      s.engine.maxCycles event data
    exact ⟨same, after.leave⟩

end Alike

/-- Sessions that differ in their documents only, and there under keys that the rules do not see,
are alike. -/
lemma alike_withDocument (alone : s.store.registrations = []) (hd : d.WellFormed)
    (he : e.WellFormed)
    (agree : ∀ key, s.engine.program.source.Sees key → d.get? key = e.get? key) :
    Alike s.engine.program.source d e (s.withDocument d) (s.withDocument e) where
  engine := rfl
  depth := rfl
  maxDepth := rfl
  agree := agree
  left := ⟨alone, hd, hd.1, fun _ _ => rfl⟩
  right := ⟨alone, he, he.1, fun _ _ => rfl⟩

/-- **The references of the rules are a footprint of every dispatch.**  Where nobody is registered,
a dispatch has the same result for any two documents that agree on the references of the rules in
force and on the keys without a dollar sign in front.  The documents it leaves behind agree on
these keys again, and under a key that is no reference each of them has what it had.  A document
is a map, so neither it nor an object in it repeats a key. -/
theorem dispatch_alike_of_agree (s : Session) (alone : s.store.registrations = [])
    (react : Reaction) (event : Event) (data : Fields) {d e : Fields} (hd : d.WellFormed)
    (he : e.WellFormed)
    (agree : ∀ key, s.engine.program.source.Sees key → d.get? key = e.get? key) :
    let source := s.engine.program.source
    let x := (s.withDocument d).dispatch react event data
    let y := (s.withDocument e).dispatch react event data
    x.1 = y.1 ∧
    (∀ key, source.Sees key → x.2.store.document.get? key = y.2.store.document.get? key) ∧
    ∀ key ∉ source.references,
      x.2.store.document.get? key = d.get? key ∧ y.2.store.document.get? key = e.get? key := by
  obtain ⟨same, after⟩ := (alike_withDocument alone hd he agree).dispatch react event data rfl
  exact ⟨same, after.agree, fun key other => ⟨after.left.kept key other, after.right.kept key other⟩⟩

/-- Rules that turn `$mode` off. -/
def switchOff : Program where
  source := [.ofParts "button" ["$mode == 'on'"] [("$mode", "'off'")]]
  rules := [Rule.compile 0 (.ofParts "button" ["$mode == 'on'"] [("$mode", "'off'")])]
  compiled := if_pos (by decide +kernel)

/-- A session without listeners under the rules that turn `$mode` off. -/
def switchSession : Session :=
  .ofParts ⟨[], [], [], 0, 64, "4.state", .holding none⟩ (.ofProgram switchOff .standard 1000 32)

/-- Rules that turn `$mode` off do not see `$theme`. -/
theorem dispatch_alike_of_themes :
    let d : Fields := [("$mode", .string "on"), ("$theme", .string "dark")]
    let e : Fields := [("$mode", .string "on"), ("$theme", .string "light")]
    let x := (switchSession.withDocument d).dispatch (fun _ t => t) ⟨"button", "click"⟩ []
    let y := (switchSession.withDocument e).dispatch (fun _ t => t) ⟨"button", "click"⟩ []
    (∀ key, switchOff.source.Sees key → d.get? key = e.get? key) ∧
      x.1 = .ok [⟨⟨"button", "click"⟩, some 0, ["$mode"]⟩] ∧ x.1 = y.1 ∧
      x.2.store.document.get? "$theme" = some (.string "dark") ∧
      y.2.store.document.get? "$theme" = some (.string "light") := by
  intro d e x y
  have unseen : "$theme" ∉ switchOff.source.references := by decide +kernel
  have agree : ∀ key, switchOff.source.Sees key → d.get? key = e.get? key := by
    intro key seen
    have other : key ≠ "$theme" := by
      rintro rfl
      exact seen.elim unseen (absurd rfl)
    simp [d, e, Fields.get?_cons, other]
  have wellFormed : d.WellFormed ∧ e.WellFormed := by
    constructor <;> refine ⟨by decide, trivial, trivial, trivial⟩
  obtain ⟨same, -, kept⟩ := dispatch_alike_of_agree switchSession rfl (fun _ t => t)
    ⟨"button", "click"⟩ [] wellFormed.1 wellFormed.2 agree
  exact ⟨agree, by decide +kernel, same, kept _ unseen⟩

end Reflex.Session
