import Reflex.Proofs.Json.Pretty
import Reflex.Proofs.Value.Data
import Reflex.Scenario.File

/-!
# Results that are read back

A result is stored as the text of its value, and the text is read back as the result.  Parts that
are absent are left out of the value or written as `null`, and each verdict tells its kind by name.

* `Datum.fields?_ofFields` says which fields a table without repeated names gives.
* `Verdict.ofDatum?_toValue` and `CaseResult.ofDatum?_toValue` take a verdict and a result back out
  of their values.
* `CaseResult.parse_text` is the result about texts.
-/

namespace Reflex

/-! ## Parts of records -/

namespace Datum

variable {α : Type} {item? : Datum → Option α} {write : α → Value} {n : Nat}
  {entries : List (String × Datum)} {name tag kind : String}
  {description : List (String × Presence)} {fs : Fields}

/-- A list is read back when each of its items is. -/
lemma list?_ofValue {as : List α} (each : ∀ a ∈ as, item? (ofValue (write a)) = some a) :
    list? item? (ofValue (.array (as.map write))) = some as := by
  rw [ofValue, list?]
  induction as with
  | nil => rfl
  | cons a as ih =>
    obtain ⟨first, others⟩ := List.forall_mem_cons.1 each
    rw [List.map_cons, ofValues, List.mapM_cons, first, ih others]
    rfl

lemma nullable?_of_ne {d : Datum} {a : α} (read : item? d = some a) (there : d ≠ .null) :
    d.nullable? item? = some (some a) := by
  rw [nullable?.eq_2 _ _ there, read]
  rfl

/-- A part that is written as `null` if it is absent is read back, unless it is written so when it
is there. -/
lemma nullableField_ofOption {a? : Option α}
    (each : ∀ a ∈ a?, item? (ofValue (write a)) = some a ∧ ofValue (write a) ≠ .null) :
    nullableField item? (some (ofValue (.ofOption write a?))) = some a? := by
  cases a? with
  | none => rfl
  | some a => exact nullable?_of_ne (each a rfl).1 (each a rfl).2

/-- A part that is left out if it is absent is read back. -/
lemma nullableField_map {a? : Option α}
    (each : ∀ a ∈ a?, item? (ofValue (write a)) = some a ∧ ofValue (write a) ≠ .null) :
    nullableField item? ((a?.map write).map ofValue) = some a? := by
  cases a? with
  | none => rfl
  | some a => exact nullable?_of_ne (each a rfl).1 (each a rfl).2

@[simp] lemma string?_ofValue (s : String) : (ofValue (.string s)).string? = some s := rfl

@[simp] lemma bool?_ofValue (b : Bool) : (ofValue (.bool b)).bool? = some b := rfl

/-- A count of 64 bits is read back. -/
lemma count?_ofNat (fits : n < 2 ^ 64) : (ofValue (.ofNat n)).count? = some n := by
  have isWord : IsWord n := by
    rw [IsWord]
    omega
  have inRange : (decide ((0 : Int) ≤ n) && decide ((n : Int) < 0x10000000000000000)) = true := by
    rw [Bool.and_eq_true, decide_eq_true_eq, decide_eq_true_eq]
    omega
  rw [Value.ofNat, Number.ofNat, dif_pos isWord, ofValue, count?, if_pos inRange]
  rfl

lemma list?_ofNats {ns : List Nat} (fit : ∀ n ∈ ns, n < 2 ^ 64) :
    list? count? (ofValue (.ofNats ns)) = some ns :=
  list?_ofValue fun n mem => count?_ofNat (fit n mem)

lemma nullableField_ofNats {ns? : Option (List Nat)} (fit : ∀ n ∈ ns?.getD [], n < 2 ^ 64) :
    nullableField (list? count?) (some (ofValue (.ofOption .ofNats ns?))) = some ns? := by
  refine nullableField_ofOption fun ns given => ⟨list?_ofNats fun n mem => fit n ?_, nofun⟩
  rwa [Option.mem_def.1 given]

@[simp] lemma list?_ofStrings (ss : List String) :
    list? string? (ofValue (.ofStrings ss)) = some ss :=
  list?_ofValue fun _ _ => rfl

@[simp] lemma nullableField_ofStrings (ss? : Option (List String)) :
    nullableField (list? string?) (some (ofValue (.ofOption .ofStrings ss?))) = some ss? :=
  nullableField_ofOption fun ss _ => ⟨list?_ofStrings ss, nofun⟩

@[simp] lemma nullableField_ofString (s? : Option String) :
    nullableField string? (some (ofValue (.ofOption .string s?))) = some s? :=
  nullableField_ofOption fun _ _ => ⟨rfl, nofun⟩

/-- Under a name that is not repeated stands what a look-up finds. -/
lemma entry_eq_lookup (nodup : (entries.map (·.1)).Nodup) :
    entry? entries name = some (entries.lookup name) := by
  unfold entry?
  induction entries with
  | nil => rfl
  | cons entry entries ih =>
    obtain ⟨key, d⟩ := entry
    obtain ⟨new, nodup⟩ := List.nodup_cons.1 nodup
    by_cases same : key = name
    · subst same
      have others : entries.filter (·.1 == key) = [] := by
        refine List.filter_eq_nil_iff.2 fun entry mem same => new ?_
        exact List.mem_map.2 ⟨entry, mem, by simpa using same⟩
      rw [List.filter_cons_of_pos (by simp), others, List.lookup_cons_self]
    · rw [List.filter_cons_of_neg (by simpa using same), List.lookup_cons,
        beq_false_of_ne (Ne.symm same)]
      exact ih nodup

lemma map_fst_ofFields (fs : Fields) : (ofFields fs).map (·.1) = fs.names := by
  induction fs with
  | nil => rfl
  | cons field fs ih => exact congrArg (field.1 :: ·) ih

lemma lookup_ofFields (fs : Fields) (name : String) :
    (ofFields fs).lookup name = (fs.get? name).map ofValue := by
  induction fs with
  | nil => rfl
  | cons field fs ih =>
    obtain ⟨key, v⟩ := field
    rw [ofFields, List.lookup_cons, Fields.get?_cons, ih]
    by_cases same : name = key
    · rw [if_pos same, beq_iff_eq.2 same]
      rfl
    · rw [if_neg same, beq_false_of_ne same]

/-- The table of fields without repeated names, what is required among them, gives their values. -/
lemma fields?_ofFields (nodup : fs.names.Nodup)
    (given : ∀ part ∈ description, part.2 = .required → fs.has part.1) :
    fields? .names description (.table (ofFields fs)) =
      some (description.map fun part => (fs.get? part.1).map ofValue) := by
  have entry (name : String) : entry? (ofFields fs) name = some ((fs.get? name).map ofValue) := by
    rw [entry_eq_lookup (by rwa [map_fst_ofFields]), lookup_ofFields]
  rw [fields?]
  simp only [entry]
  rw [if_neg (by simp)]
  induction description with
  | nil => rfl
  | cons part description ih =>
    obtain ⟨name, presence⟩ := part
    obtain ⟨first, others⟩ := List.forall_mem_cons.1 given
    rw [List.mapM_cons, ih others, List.map_cons]
    cases found : fs.get? name with
    | none =>
      have optional : presence ≠ .required := by
        intro required
        rw [Fields.has, found] at first
        cases first required
      simp [optional]
    | some v => rfl

/-- The kind of a variant stands under the tag, before its fields. -/
lemma tagged?_ofValue (other : tag ∉ fs.names) :
    tagged? tag (ofValue (.object ((tag, .string kind) :: fs))) =
      some (kind, .table (ofFields fs)) := by
  have free : ∀ entry ∈ ofFields fs, entry.1 ≠ tag := fun entry mem same =>
    other (map_fst_ofFields fs ▸ same ▸ List.mem_map_of_mem mem)
  have found : entry? ((tag, .string kind) :: ofFields fs) tag = some (some (.string kind)) := by
    have others : (ofFields fs).filter (·.1 == tag) = [] :=
      List.filter_eq_nil_iff.2 fun entry mem same => free entry mem (by simpa using same)
    unfold entry?
    rw [List.filter_cons_of_pos (by simp), others]
  have rest : ((tag, Datum.string kind) :: ofFields fs).filter (·.1 != tag) = ofFields fs := by
    rw [List.filter_cons_of_neg (by simp), List.filter_eq_self]
    exact fun entry mem => by simpa using free entry mem
  rw [ofValue, ofFields, ofValue, tagged?]
  simp only [found, rest]

/-- The datum of an object whose first field is the tag is that of a variant, whose datum gives the
values of the other fields. -/
lemma exists_variant {v : Value} (wellFormed : v.WellFormed)
    (whole : v = .object ((tag, .string kind) :: fs)) :
    ∃ d variant, ofValue v = d ∧ d.toValue? = some v ∧ d.tagged? tag = some (kind, variant) ∧
      ∀ description, (∀ part ∈ description, part.2 = .required → fs.has part.1) →
        variant.fields? .names description =
          some (description.map fun part => (fs.get? part.1).map ofValue) := by
  have made := toValue?_ofValue v wellFormed
  rw [whole] at wellFormed
  obtain ⟨other, distinct⟩ := List.nodup_cons.1 wellFormed.1
  exact ⟨_, _, rfl, made, whole ▸ tagged?_ofValue other, fun _ given =>
    fields?_ofFields distinct given⟩

end Datum

namespace Verdict

/-- The counts in a verdict. -/
def counts : Verdict → List Nat
  | .stateEquals _ _ _ _ => []
  | .firedRules step expected actual? _ => step :: (expected ++ actual?.getD [])
  | .cycleOrder step _ _ _ => [step]
  | .noChanges step _ _ => [step]
  | .dispatchFails step _ _ _ => [step]

/-- A verdict whose counts have 64 bits is taken back out of its value. -/
theorem ofDatum?_toValue (v : Verdict) (fit : ∀ n ∈ v.counts, n < 2 ^ 64)
    (wellFormed : v.toValue.WellFormed) : ofDatum? (Datum.ofValue v.toValue) = some v := by
  -- The datum of the whole goes by a name, or else the tests of the kind would unfold it.
  cases v with
  | stateEquals path expected actual passed =>
    obtain ⟨d, variant, same, made, tagged, fields⟩ := Datum.exists_variant wellFormed rfl
    obtain ⟨-, -, -, expectedFine, actualFine, -⟩ := wellFormed
    have expected' := Datum.toValue?_ofValue expected expectedFine
    have actual' := Datum.toValue?_ofValue actual actualFine
    rw [same, ofDatum?, made, Option.bind_eq_bind, Option.bind_some, tagged, Option.bind_eq_bind,
      Option.bind_some]
    dsimp only
    rw [if_pos rfl, fields _ (by simp [Fields.has, Fields.get?_cons]), Option.bind_eq_bind,
      Option.bind_some]
    simp [Fields.get?_cons, expected', actual']
  | firedRules step expected actual? passed =>
    obtain ⟨stepFits, others⟩ := List.forall_mem_cons.1 fit
    obtain ⟨expectedFit, actualFit⟩ := List.forall_mem_append.1 others
    have step' := Datum.count?_ofNat stepFits
    have expected' := Datum.list?_ofNats expectedFit
    have actual' := Datum.nullableField_ofNats actualFit
    obtain ⟨d, variant, same, made, tagged, fields⟩ := Datum.exists_variant wellFormed rfl
    rw [same, ofDatum?, made, Option.bind_eq_bind, Option.bind_some, tagged, Option.bind_eq_bind,
      Option.bind_some]
    dsimp only
    rw [if_neg (by decide), if_pos rfl,
      fields _ (by simp [Fields.has, Fields.get?_cons]), Option.bind_eq_bind, Option.bind_some]
    simp [Fields.get?_cons, step', expected', actual']
  | cycleOrder step expected actual? passed =>
    have step' := Datum.count?_ofNat (fit step List.mem_cons_self)
    obtain ⟨d, variant, same, made, tagged, fields⟩ := Datum.exists_variant wellFormed rfl
    rw [same, ofDatum?, made, Option.bind_eq_bind, Option.bind_some, tagged, Option.bind_eq_bind,
      Option.bind_some]
    dsimp only
    rw [if_neg (by decide), if_neg (by decide), if_pos rfl,
      fields _ (by simp [Fields.has, Fields.get?_cons]), Option.bind_eq_bind, Option.bind_some]
    simp [Fields.get?_cons, step']
  | noChanges step actual? passed =>
    have step' := Datum.count?_ofNat (fit step List.mem_cons_self)
    obtain ⟨d, variant, same, made, tagged, fields⟩ := Datum.exists_variant wellFormed rfl
    rw [same, ofDatum?, made, Option.bind_eq_bind, Option.bind_some, tagged, Option.bind_eq_bind,
      Option.bind_some]
    dsimp only
    rw [if_neg (by decide), if_neg (by decide), if_neg (by decide), if_pos rfl,
      fields _ (by simp [Fields.has, Fields.get?_cons]), Option.bind_eq_bind, Option.bind_some]
    simp [Fields.get?_cons, step']
  | dispatchFails step message actual? passed =>
    have step' := Datum.count?_ofNat (fit step List.mem_cons_self)
    obtain ⟨d, variant, same, made, tagged, fields⟩ := Datum.exists_variant wellFormed rfl
    rw [same, ofDatum?, made, Option.bind_eq_bind, Option.bind_some, tagged, Option.bind_eq_bind,
      Option.bind_some]
    dsimp only
    rw [if_neg (by decide), if_neg (by decide), if_neg (by decide), if_neg (by decide), if_pos rfl,
      fields _ (by simp [Fields.has, Fields.get?_cons]), Option.bind_eq_bind, Option.bind_some]
    simp [Fields.get?_cons, step']

end Verdict

/-- A judgment whose counts have 64 bits is taken back out of its value. -/
theorem Judgment.ofDatum?_toValue (j : Judgment) (fit : ∀ v ∈ j.checks, ∀ n ∈ v.counts, n < 2 ^ 64)
    (wellFormed : j.toValue.WellFormed) : ofDatum? (Datum.ofValue j.toValue) = some j := by
  obtain ⟨-, items, -⟩ := wellFormed
  have checks : Datum.list? Verdict.ofDatum?
      (Datum.ofValue (.array (j.checks.map Verdict.toValue))) = some j.checks := by
    refine Datum.list?_ofValue fun v mem => v.ofDatum?_toValue (fit v mem) ?_
    exact Value.wellFormedItems_iff.1 items _ (List.mem_map_of_mem mem)
  have whole : Datum.ofValue j.toValue =
      .table (Datum.ofFields [("checks", .array (j.checks.map Verdict.toValue))]) := rfl
  rw [whole, ofDatum?, Datum.fields?_ofFields (by simp [Fields.names])
    (by simp [Fields.has, Fields.get?_cons]), Option.bind_eq_bind, Option.bind_some]
  simp [Fields.get?_cons, checks]

/-- The name of an outcome is that of the outcome. -/
lemma Verdict.Overall.ofDatum?_name (outcome : Verdict.Overall) :
    ofDatum? (Datum.ofValue (.string outcome.name)) = some outcome := by
  cases outcome <;> rfl

namespace CaseResult

/-- The fields of the value of a result. -/
lemma exists_fields (r : CaseResult) : ∃ fs : Fields, r.toValue = .object fs ∧ fs.names.Nodup ∧
    fs.get? "case_id" = some (.string r.id) ∧ fs.get? "outcome" = some (.string r.outcome.name) ∧
    fs.get? "error" = r.error?.map .string ∧
    fs.get? "judgment" = r.judgment?.map Judgment.toValue := by
  obtain ⟨id, outcome, error?, judgment?⟩ := r
  refine ⟨_, rfl, ?_⟩
  cases error? <;> cases judgment? <;> simp [Fields.names, Fields.get?_cons]

/-- A result whose counts have 64 bits is taken back out of its value. -/
theorem ofDatum?_toValue (r : CaseResult)
    (fit : ∀ v ∈ Summary.verdicts r, ∀ n ∈ v.counts, n < 2 ^ 64)
    (wellFormed : r.toValue.WellFormed) : ofDatum? (Datum.ofValue r.toValue) = some r := by
  obtain ⟨fs, whole, nodup, id, outcome, error, judgment⟩ := r.exists_fields
  have error' : nullableField Datum.string? ((fs.get? "error").map Datum.ofValue) =
      some r.error? := by
    rw [error]
    exact Datum.nullableField_map fun _ _ => ⟨rfl, nofun⟩
  have judgment' : nullableField Judgment.ofDatum? ((fs.get? "judgment").map Datum.ofValue) =
      some r.judgment? := by
    rw [judgment]
    refine Datum.nullableField_map fun j given => ⟨j.ofDatum?_toValue ?_ ?_, nofun⟩
    · rwa [Summary.verdicts, Option.mem_def.1 given] at fit
    · rw [Option.mem_def.1 given] at judgment
      rw [whole] at wellFormed
      exact Fields.WellFormed.get? wellFormed judgment
  rw [whole, Datum.ofValue, ofDatum?, Datum.fields?_ofFields nodup
    (by simp [Fields.has, id, outcome]), Option.bind_eq_bind, Option.bind_some]
  simp only [List.map_cons, List.map_nil, id, outcome, Option.map_some, error', judgment',
    Datum.string?_ofValue, Verdict.Overall.ofDatum?_name]
  rfl

/-- The text that is stored of a result. -/
def text (r : CaseResult) : String :=
  r.toValue.pretty ++ "\n"

/-- A result of which nothing is lost in its text: its counts have 64 bits, and its value is one
that a reader gives back. -/
structure IsLegible (r : CaseResult) : Prop where
  counts : ∀ v ∈ Summary.verdicts r, ∀ n ∈ v.counts, n < 2 ^ 64
  plain : r.toValue.IsPlain Json.maxDepth

/-- **A result is read back from its text.** -/
theorem parse_text {r : CaseResult} (legible : r.IsLegible) : parse r.text = .ok r := by
  have read : Json.read r.text = .ok (Datum.ofValue r.toValue) :=
    Value.read_pretty legible.plain.legible legible.plain.nesting Json.isBlank_lineEnd
  rw [parse, read]
  simp only [r.ofDatum?_toValue legible.counts legible.plain.wellFormed]

end CaseResult

end Reflex
