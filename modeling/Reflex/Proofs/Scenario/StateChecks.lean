import Reflex.Proofs.Scenario.Steps
import Reflex.Proofs.Value.Extensional

/-!
# Checks of the state

A check of the state compares the value that a path names after the last step with the expected
one.  Two numbers are compared by their values, as binary64 operands; inside of arrays and objects
the comparison is structural, and an integer there never equals a floating number.

* `CaseRun.valueAt` is the value that is found, and `Case.wellFormed_valueAt` says that it repeats
  no name.
* `Value.Comparable` says where structural equality and equality by value are the same.
* `CaseRun.stateEquals_compares` says what a check that passes shows, and
  `CaseRun.nested_numbers_are_told_apart` is a check that fails on equal numbers.
-/

namespace Reflex

/-! ## What a check finds -/

lemma Value.wellFormed_of_step? {v w : Value} {segment : String} (wellFormed : v.WellFormed)
    (found : Path.step? v segment = some w) : w.WellFormed := by
  cases v with
  | object fields => exact Fields.WellFormed.get? wellFormed found
  | array items =>
    obtain ⟨i, -, found⟩ := Option.bind_eq_some_iff.1 found
    exact wellFormedItems_iff.1 wellFormed w (List.mem_of_getElem? found)
  | _ => cases found

lemma Value.wellFormed_of_steps {v w : Value} {rest : List String} (wellFormed : v.WellFormed)
    (found : rest.foldlM Path.step? v = some w) : w.WellFormed := by
  induction rest generalizing v with
  | nil =>
    cases found
    exact wellFormed
  | cons segment rest ih =>
    rw [List.foldlM_cons] at found
    obtain ⟨next, here, found⟩ := Option.bind_eq_some_iff.1 found
    exact ih (wellFormed_of_step? wellFormed here) found

/-- What a path names in a well-formed document is well-formed. -/
lemma Fields.WellFormed.lookup? {document : Fields} (wellFormed : document.WellFormed)
    {path : String} {v : Value} (found : Path.lookup? document path = some v) : v.WellFormed := by
  rw [Path.lookup?] at found
  split at found
  · cases found
  · obtain ⟨first, there, found⟩ := Option.bind_eq_some_iff.1 found
    exact Value.wellFormed_of_steps (wellFormed.get? there) found

/-- The value that a path names after the last step of a run, which is `null` if there is none. -/
def CaseRun.valueAt (run : CaseRun) (path : String) : Value :=
  (Path.lookup? run.state path).getD .null

namespace Case

variable {c : Case} {run : CaseRun}

/-- A run ends with a well-formed document. -/
lemma wellFormed_state (ran : c.run = .ok run) (given : ∀ step ∈ c.steps, step.data.WellFormed) :
    run.state.WellFormed := by
  obtain ⟨first, started, -⟩ := bind_eq_ok_iff.1 ran
  obtain ⟨program, staged, -⟩ := exists_staged_of_start started
  rw [run_eq started] at ran
  obtain rfl := Except.ok.inj ran
  exact (staged.runSteps given).wellFormed

lemma wellFormed_valueAt (ran : c.run = .ok run)
    (given : ∀ step ∈ c.steps, step.data.WellFormed) (path : String) :
    (run.valueAt path).WellFormed := by
  rw [CaseRun.valueAt]
  cases found : Path.lookup? run.state path with
  | none => trivial
  | some v => exact (wellFormed_state ran given).lookup? found

end Case

/-! ## The comparison -/

namespace Value

variable {v w : Value}

/-- Values that structural equality and equality by value do not tell apart: two numbers whose
values are those of binary64 numbers, or values in which the numbers that stand in the same place
are of the same kind. -/
structure Comparable (v w : Value) : Prop where
  exact : ∀ n m, v = .number n → w = .number m → n.IsExact ∧ m.IsExact
  kind : ∀ n m, Facing v w (.number n) (.number m) → v = .number n ∨ n.SameKind m

/-- A value is the expected one when they are two numbers with the same operand, or are
structurally equal. -/
lemma isExpected_iff : w.isExpected v ↔
    (∃ n m, v = .number n ∧ w = .number m ∧ n.sameValue m) ∨ v.same w := by
  constructor
  · intro h
    unfold isExpected at h
    split at h
    · exact .inl ⟨_, _, rfl, rfl, h⟩
    · exact .inr h
  · rintro (⟨n, m, rfl, rfl, same⟩ | same)
    · exact same
    · unfold isExpected
      split
      · exact Number.sameValue_of_same same
      · exact same

/-- The same, with what structural equality says of numbers, objects and arrays. -/
lemma isExpected_iff_equalBy (left : v.WellFormed) (right : w.WellFormed) : w.isExpected v ↔
    (∃ n m, v = .number n ∧ w = .number m ∧ n.sameValue m) ∨
      v.EqualBy (fun n m => n.SameKind m ∧ n.Equals m) w := by
  rw [isExpected_iff, same_iff v left right]
  simp only [Number.same_iff]

/-- The expected value is found up to numbers that are equal as operands. -/
lemma equalBy_of_isExpected (left : v.WellFormed) (right : w.WellFormed)
    (h : w.isExpected v) : v.EqualBy (fun n m => n.sameValue m) w := by
  rcases (isExpected_iff_equalBy left right).1 h with ⟨n, m, rfl, rfl, same⟩ | same
  · exact .number same
  · exact same.imp fun n m _ same => Number.sameValue_of_same (Number.same_iff.2 same)

/-- On comparable values the comparison is by value at every depth. -/
lemma isExpected_iff_of_comparable (left : v.WellFormed) (right : w.WellFormed)
    (comparable : v.Comparable w) : w.isExpected v ↔ v.EqualBy Number.Equals w := by
  rw [isExpected_iff_equalBy left right]
  constructor
  · rintro (⟨n, m, rfl, rfl, same⟩ | same)
    · obtain ⟨exactLeft, exactRight⟩ := comparable.exact n m rfl rfl
      exact .number ((Number.sameValue_iff exactLeft exactRight).1 same)
    · exact same.imp fun n m _ same => same.2
  · intro equal
    by_cases numbers : ∃ n m, v = .number n ∧ w = .number m
    · obtain ⟨n, m, rfl, rfl⟩ := numbers
      obtain ⟨exactLeft, exactRight⟩ := comparable.exact n m rfl rfl
      cases equal with
      | number equals =>
        exact .inl ⟨n, m, rfl, rfl, (Number.sameValue_iff exactLeft exactRight).2 equals⟩
    · refine .inr (equal.imp fun n m facing equals => ⟨?_, equals⟩)
      rcases comparable.kind n m facing with rfl | kind
      · obtain ⟨-, rfl⟩ := facing.of_number
        exact absurd ⟨n, m, rfl, rfl⟩ numbers
      · exact kind

end Value

lemma Check.wellFormed_of_ofDatum? {d : Datum} {path : String} {expected : Value}
    (read : ofDatum? d = some (.stateEquals path expected)) : expected.WellFormed := by
  obtain ⟨_, -, read⟩ := Option.bind_eq_some_iff.1 read
  obtain ⟨⟨kind, d⟩, -, read⟩ := Option.bind_eq_some_iff.1 read
  simp only at read
  split at read
  · obtain ⟨fields, -, read⟩ := Option.bind_eq_some_iff.1 read
    split at read
    · obtain ⟨path', -, read⟩ := Option.bind_eq_some_iff.1 read
      obtain ⟨v, stands, made⟩ := Option.bind_eq_some_iff.1 read
      cases made
      exact Datum.wellFormed_of_toValue? _ stands
    · cases read
  · -- The checks of the other kinds are made with constructors of their own.
    exfalso
    repeat' split at read
    all_goals
      first
      | cases read
      | obtain ⟨fields, -, read⟩ := Option.bind_eq_some_iff.1 read
        split at read
        · simp [Option.bind_eq_some_iff] at read
        · cases read

/-- The expected values of the checks of a scenario that was read are well-formed. -/
theorem Case.wellFormed_of_mem_checks {d : Datum} {c : Case} (read : ofDatum? d = some c)
    {path : String} {expected : Value} (mem : .stateEquals path expected ∈ c.checks) :
    expected.WellFormed := by
  obtain ⟨steps?, checks?, -, listed⟩ := exists_lists_of_ofDatum? read
  obtain ⟨d', read⟩ := exists_of_mem_listOrNil listed mem
  exact Check.wellFormed_of_ofDatum? read

namespace CaseRun

variable {c : Case} {run : CaseRun} {path : String} {expected : Value}

/-- **Numbers are compared by value where they are the whole value.**  A scenario was run, and a
check expects a value under a path.  It passes exactly when the two values are numbers that are equal
as binary64 operands, or are equal with numbers of the same kind and value in the same places.  So
if it passes, the two values are equal up to numbers, and numbers in the same place are equal as
operands.  If the two values are numbers that binary64 represents, or if the numbers in the same
places of them are of the same kind, it passes exactly when the values are equal by the values of
their numbers, at every depth. -/
theorem stateEquals_compares (ran : c.run = .ok run)
    (given : ∀ step ∈ c.steps, step.data.WellFormed) (wellFormed : expected.WellFormed) :
    ((run.judge (.stateEquals path expected)).passed ↔
      (∃ n m, expected = .number n ∧ run.valueAt path = .number m ∧ n.sameValue m) ∨
        expected.EqualBy (fun n m => n.SameKind m ∧ n.Equals m) (run.valueAt path)) ∧
    ((run.judge (.stateEquals path expected)).passed →
      expected.EqualBy (fun n m => n.sameValue m) (run.valueAt path)) ∧
    (expected.Comparable (run.valueAt path) →
      ((run.judge (.stateEquals path expected)).passed ↔
        expected.EqualBy Number.Equals (run.valueAt path))) := by
  have found := Case.wellFormed_valueAt ran given path
  exact ⟨Value.isExpected_iff_equalBy wellFormed found,
    Value.equalBy_of_isExpected wellFormed found,
    Value.isExpected_iff_of_comparable wellFormed found⟩

/-- The integer one. -/
def one : Number :=
  .int 1 (by decide)

/-- The floating number one. -/
def onePointZero : Number :=
  .float (.ofNat 1 (by decide))

lemma equals_one : onePointZero.Equals one := by
  rw [Number.Equals, onePointZero, Number.scaled_float, Binary64.scaled_ofNat, one,
    Number.scaled_int, Nat.one_mul, Int.one_mul]

/-- A scenario that puts a list with the integer one into the state. -/
def listing (checks : List Check) : Case where
  id := "listing"
  description := ""
  limits := ⟨none, none, none⟩
  state := []
  rules := [.ofParts "set" [] [("$list", "#list")]]
  steps := [⟨"set", "go", [("list", .array [.number one])]⟩]
  checks := checks

lemma exists_run_listing (checks : List Check) :
    ∃ run, (listing checks).run = .ok run ∧ run.state = [("$list", .array [.number one])] := by
  -- the checks have no part in a run, so what is computed here is that of a scenario without any
  let program : Program := .ofParsed (listing []).rules (by decide +kernel)
  let first := Session.opened .default .standard program (some "\x7b\x7d") []
  have started : (listing checks).start = .ok first := by
    have text : (Value.object (listing checks).state).compact = "\x7b\x7d" := rfl
    have checked : (listing checks).config.check = .ok () := by
      change (listing []).config.check = .ok ()
      decide
    have stored : Store.storedDocument (listing []).config.sessionOptions.key (some "\x7b\x7d") =
        .ok [] := by decide +kernel
    rw [Case.start, checked, text]
    exact mapError_eq_ok_iff.2 (Session.start_eq_ok_iff.2
      ⟨[], program, stored, program.ofRules_source, rfl⟩)
  have final : (first.runSteps (listing []).steps).2.store.document =
      [("$list", .array [.number one])] := by decide +kernel
  exact ⟨_, Case.run_eq started, final⟩

/-- The first item of the list is the integer one, and a check passes that expects the floating
number there. -/
theorem stateEquals_compares_item : ∃ run, (listing []).run = .ok run ∧
    (Value.number onePointZero).Comparable (run.valueAt "$list.0") ∧
    (run.judge (.stateEquals "$list.0" (.number onePointZero))).passed ∧
    (Value.number onePointZero).EqualBy Number.Equals (run.valueAt "$list.0") := by
  obtain ⟨run, ran, state⟩ := exists_run_listing []
  have found : run.valueAt "$list.0" = .number one := by
    rw [valueAt, state]
    rfl
  have given : ∀ step ∈ (listing []).steps, step.data.WellFormed := by
    simp [listing, Fields.WellFormed, Fields.WellFormedValues, Fields.names, Value.WellFormed,
      Value.WellFormedItems]
  have comparable : (Value.number onePointZero).Comparable (run.valueAt "$list.0") := by
    rw [found]
    refine ⟨fun n m left right => ?_, fun n m facing => .inl facing.of_number.1.symm⟩
    cases left
    cases right
    exact ⟨Number.isExact_float _, Number.isExact_int (by decide)⟩
  have equal : (Value.number onePointZero).EqualBy Number.Equals (run.valueAt "$list.0") := by
    rw [found]
    exact .number equals_one
  have plain : (Value.number onePointZero).WellFormed := by
    simp [Value.WellFormed]
  obtain ⟨-, -, byValue⟩ := stateEquals_compares ran given plain
  exact ⟨run, ran, comparable, (byValue comparable).2 equal, equal⟩

/-- Inside of a list the same two numbers are told apart, so that checks do not compare by value at
every depth. -/
theorem nested_numbers_are_told_apart : ¬ ∀ (c : Case) (run : CaseRun), c.run = .ok run →
    ∀ path expected, .stateEquals path expected ∈ c.checks →
      ((run.judge (.stateEquals path expected)).passed ↔
        expected.EqualBy Number.Equals (run.valueAt path)) := by
  intro byValue
  let expected : Value := .array [.number onePointZero]
  obtain ⟨run, ran, state⟩ := exists_run_listing [.stateEquals "$list" expected]
  have found : run.valueAt "$list" = .array [.number one] := by
    rw [valueAt, state]
    rfl
  have equal : expected.EqualBy Number.Equals (run.valueAt "$list") := by
    rw [found]
    refine .array rfl fun i x y left right => ?_
    cases i with
    | zero =>
      cases left
      cases right
      exact .number equals_one
    | succ i => cases left
  have passed : (run.valueAt "$list").isExpected expected :=
    (byValue _ run ran "$list" expected List.mem_cons_self).2 equal
  rw [found] at passed
  cases passed

end CaseRun

end Reflex
