import Reflex.Proofs.Ordered
import Reflex.Scenario.Report

/-!
# What a summary counts

A summary counts every result once by its outcome, and every verdict once under the label of its
check.  What is counted under a label depends on the verdicts of that label only, so the summary of
two lists of results is the sum of their summaries and the order of results makes no difference.

* `Summary.marks` are the verdicts of results with their labels, and `PassRate.ofMarks?` is the rate
  of the verdicts under one label.
* `Summary.lookup_rates` says what a summary holds under a label.
* `Summary.counts_once` is the result.
-/

namespace Reflex

namespace PassRate

/-- The rate of two groups of checks together. -/
def plus (rate other : PassRate) : PassRate :=
  ⟨rate.passed + other.passed, rate.total + other.total⟩

/-- The rate of some verdicts, each with its label, if there are any. -/
def ofMarks? (marks : List (String × Bool)) : Option PassRate :=
  if marks.isEmpty then none else some ⟨marks.countP (·.2), marks.length⟩

variable {marks others : List (String × Bool)} {rate : PassRate}

lemma ofMarks?_append :
    ofMarks? (marks ++ others) = Option.merge plus (ofMarks? marks) (ofMarks? others) := by
  cases marks with
  | nil => simp [ofMarks?]
  | cons mark marks =>
    cases others with
    | nil => simp [ofMarks?]
    | cons other others =>
      rw [ofMarks?, ofMarks?, ofMarks?, List.countP_append, List.length_append]
      rfl

lemma ofMarks?_of_perm (perm : marks.Perm others) : ofMarks? marks = ofMarks? others := by
  rw [ofMarks?, ofMarks?, perm.isEmpty_eq, perm.countP_eq, perm.length_eq]

lemma passed_le_total (counted : ofMarks? marks = some rate) : rate.passed ≤ rate.total := by
  rw [ofMarks?] at counted
  split at counted
  · cases counted
  · cases counted
    exact List.countP_le_length

end PassRate

namespace Summary

/-! ## Verdicts under their labels -/

/-- The verdicts of results, each as its label and whether the check passed. -/
def marks (results : List CaseResult) : List (String × Bool) :=
  results.flatMap fun r => (verdicts r).map fun v => (r.id ++ "/" ++ v.label, v.passed)

/-- Counts one mark. -/
def addMark (rates : List (String × PassRate)) (mark : String × Bool) :
    List (String × PassRate) :=
  Ordered.adjust mark.1
    (fun rate? => (rate?.getD ⟨0, 0⟩).plus ⟨if mark.2 then 1 else 0, 1⟩) rates

variable {label : String} {results a b c : List CaseResult} {ms : List (String × Bool)}

lemma ofResults_concat (results : List CaseResult) (r : CaseResult) :
    ofResults (results ++ [r]) = (ofResults results).add r :=
  List.foldl_concat ..

lemma marks_append : marks (a ++ b) = marks a ++ marks b :=
  List.flatMap_append

lemma rates_ofResults (results : List CaseResult) :
    (ofResults results).rates = (marks results).foldl addMark [] := by
  induction results using List.reverseRecOn with
  | nil => rfl
  | append_singleton results r ih =>
    have last : marks [r] = (verdicts r).map fun v => (r.id ++ "/" ++ v.label, v.passed) :=
      List.append_nil _
    rw [ofResults_concat, marks_append, List.foldl_append, ← ih, last, List.foldl_map]
    rfl

lemma sorted_foldl_addMark (ms : List (String × Bool)) :
    ((ms.foldl addMark []).map (·.1)).Pairwise (· < ·) :=
  List.foldlRecOn (motive := fun rates : List (String × PassRate) =>
    (rates.map (·.1)).Pairwise (· < ·)) ms _ .nil
    fun _ before _ _ => Ordered.sorted_adjust before

/-- Under a label stands the rate of the marks that bear it. -/
lemma lookup_foldl_addMark (ms : List (String × Bool)) (label : String) :
    (ms.foldl addMark []).lookup label = PassRate.ofMarks? (ms.filter (·.1 == label)) := by
  induction ms using List.reverseRecOn with
  | nil => rfl
  | append_singleton ms mark ih =>
    rw [List.foldl_concat, List.filter_append, PassRate.ofMarks?_append, ← ih, addMark]
    by_cases same : label = mark.1
    · subst same
      have one : PassRate.ofMarks? ([mark].filter (·.1 == mark.1)) =
          some ⟨if mark.2 then 1 else 0, 1⟩ := by simp [PassRate.ofMarks?, List.countP_singleton]
      rw [Ordered.lookup_adjust_self (sorted_foldl_addMark ms), one]
      cases (ms.foldl addMark []).lookup mark.1 <;> simp [PassRate.plus]
    · have none : PassRate.ofMarks? ([mark].filter (·.1 == label)) = none := by
        simp [PassRate.ofMarks?, Ne.symm same]
      rw [Ordered.lookup_adjust_of_ne same, none, Option.merge_none_right]

lemma total_foldl_addMark (ms : List (String × Bool)) :
    ((ms.foldl addMark []).map fun entry => entry.2.total).sum = ms.length := by
  induction ms using List.reverseRecOn with
  | nil => rfl
  | append_singleton ms mark ih =>
    rw [List.foldl_concat, addMark, Ordered.sum_adjust (g := PassRate.total) (n := 1), ih,
      List.length_append, List.length_singleton]
    rintro (_ | rate) <;> simp [PassRate.plus]

lemma passed_foldl_addMark (ms : List (String × Bool)) :
    ((ms.foldl addMark []).map fun entry => entry.2.passed).sum = ms.countP (·.2) := by
  induction ms using List.reverseRecOn with
  | nil => rfl
  | append_singleton ms mark ih =>
    rw [List.foldl_concat, addMark, Ordered.sum_adjust (g := PassRate.passed)
      (n := if mark.2 then 1 else 0), ih, List.countP_append, List.countP_singleton]
    rintro (_ | rate) <;> simp [PassRate.plus]

/-! ## The summary of results -/

lemma sorted_rates (results : List CaseResult) :
    ((ofResults results).rates.map (·.1)).Pairwise (· < ·) := by
  rw [rates_ofResults]
  exact sorted_foldl_addMark _

/-- What a summary holds under a label. -/
theorem lookup_rates (results : List CaseResult) (label : String) :
    (ofResults results).rates.lookup label =
      PassRate.ofMarks? ((marks results).filter (·.1 == label)) := by
  rw [rates_ofResults, lookup_foldl_addMark]

/-- Every result is counted, and counted by its outcome. -/
structure Counts (results : List CaseResult) (s : Summary) : Prop where
  cases : s.cases = results.length
  success : s.success = results.countP (·.outcome = .success)
  fail : s.fail = results.countP (·.outcome = .fail)
  error : s.error = results.countP (·.outcome = .error)

lemma counts_ofResults (results : List CaseResult) : Counts results (ofResults results) := by
  induction results using List.reverseRecOn with
  | nil => exact ⟨rfl, rfl, rfl, rfl⟩
  | append_singleton results r ih =>
    rw [ofResults_concat]
    constructor <;>
      simp [add, ih.cases, ih.success, ih.fail, ih.error, List.countP_append, List.countP_singleton]

lemma Counts.of_perm {s : Summary} (counts : Counts a s) (perm : a.Perm b) : Counts b s where
  cases := counts.cases.trans perm.length_eq
  success := counts.success.trans (perm.countP_eq _)
  fail := counts.fail.trans (perm.countP_eq _)
  error := counts.error.trans (perm.countP_eq _)

/-- Counters and rates are all that there is to a summary. -/
lemma Counts.unique {s t : Summary} (first : Counts a s) (second : Counts a t)
    (rates : s.rates = t.rates) : s = t := by
  cases s
  cases t
  rw [Summary.mk.injEq]
  exact ⟨first.cases.trans second.cases.symm, first.success.trans second.success.symm,
    first.fail.trans second.fail.symm, first.error.trans second.error.symm, rates⟩

/-- Every result has one of the three outcomes. -/
lemma length_eq_outcomes (results : List CaseResult) :
    results.length = results.countP (·.outcome = .success) + results.countP (·.outcome = .fail) +
      results.countP (·.outcome = .error) := by
  induction results with
  | nil => rfl
  | cons r results ih =>
    simp only [List.length_cons, List.countP_cons, ih]
    cases r.outcome <;> simp <;> omega

/-- The third summary is the sum of the other two: its counters are the sums, and under each label
stands the sum of the rates of those that have one. -/
structure IsSum (s t sum : Summary) : Prop where
  cases : sum.cases = s.cases + t.cases
  success : sum.success = s.success + t.success
  fail : sum.fail = s.fail + t.fail
  error : sum.error = s.error + t.error
  rates (label : String) : sum.rates.lookup label =
    Option.merge PassRate.plus (s.rates.lookup label) (t.rates.lookup label)
  sorted : (sum.rates.map (·.1)).Pairwise (· < ·)

theorem isSum_append (a b : List CaseResult) :
    IsSum (ofResults a) (ofResults b) (ofResults (a ++ b)) := by
  have both := counts_ofResults (a ++ b)
  have first := counts_ofResults a
  have second := counts_ofResults b
  refine ⟨?_, ?_, ?_, ?_, fun label => ?_, sorted_rates _⟩
  · rw [both.cases, first.cases, second.cases, List.length_append]
  · rw [both.success, first.success, second.success, List.countP_append]
  · rw [both.fail, first.fail, second.fail, List.countP_append]
  · rw [both.error, first.error, second.error, List.countP_append]
  · simp only [lookup_rates, marks_append, List.filter_append, PassRate.ofMarks?_append]

theorem ofResults_of_perm (perm : a.Perm b) : ofResults a = ofResults b := by
  refine ((counts_ofResults a).of_perm perm).unique (counts_ofResults b) ?_
  refine Ordered.eq_of_lookup_eq (sorted_rates a) (sorted_rates b) fun label => ?_
  rw [lookup_rates, lookup_rates]
  exact PassRate.ofMarks?_of_perm ((perm.flatMap_right _).filter _)

lemma length_marks (results : List CaseResult) :
    (marks results).length = (results.flatMap verdicts).length := by
  simp [marks, List.length_flatMap]

lemma countP_marks (results : List CaseResult) :
    (marks results).countP (·.2) = (results.flatMap verdicts).countP Verdict.passed := by
  simp [marks, List.countP_flatMap, List.countP_map, Function.comp_def]

/-- **A summary counts every result and every check once.**  The summary of two lists is the sum of
their summaries, and the order of results makes no difference; the cases are the results, and they
split into the three outcomes; under each label no more checks passed than were made, and over all
labels the checks made are the verdicts of all judgments, the checks passed those that passed. -/
theorem counts_once (a b : List CaseResult) :
    IsSum (ofResults a) (ofResults b) (ofResults (a ++ b)) ∧
    (∀ c, c.Perm a → ofResults c = ofResults a) ∧
    Counts a (ofResults a) ∧
    (ofResults a).cases = (ofResults a).success + (ofResults a).fail + (ofResults a).error ∧
    (∀ entry ∈ (ofResults a).rates, entry.2.passed ≤ entry.2.total) ∧
    ((ofResults a).rates.map fun entry => entry.2.total).sum = (a.flatMap verdicts).length ∧
    ((ofResults a).rates.map fun entry => entry.2.passed).sum =
      (a.flatMap verdicts).countP Verdict.passed := by
  have counted := counts_ofResults a
  refine ⟨isSum_append a b, fun c perm => ofResults_of_perm perm, counted, ?_, ?_, ?_, ?_⟩
  · rw [counted.cases, counted.success, counted.fail, counted.error]
    exact length_eq_outcomes a
  · rintro ⟨label, rate⟩ mem
    have found := (Ordered.lookup_eq_some_iff ((sorted_rates a).imp ne_of_lt)).2 mem
    rw [lookup_rates] at found
    exact PassRate.passed_le_total found
  · rw [rates_ofResults, total_foldl_addMark, length_marks]
  · rw [rates_ofResults, passed_foldl_addMark, countP_marks]

/-- A scenario whose check passed in one run and failed in another, and one that could not be
run. -/
def flakyResults : List CaseResult :=
  [⟨"a", .success, none, some ⟨[.noChanges 0 (some []) true]⟩⟩,
    ⟨"a", .fail, none, some ⟨[.noChanges 0 none false]⟩⟩, ⟨"b", .error, some "read rules", none⟩]

/-- The label that two results share is counted twice, whichever comes first. -/
theorem counts_flakyResults :
    flakyResults.reverse.Perm flakyResults ∧
    ofResults flakyResults.reverse = ofResults flakyResults ∧
    ("a/no_changes(step 0)", (⟨1, 2⟩ : PassRate)) ∈ (ofResults flakyResults).rates ∧
    (⟨1, 2⟩ : PassRate).passed ≤ (⟨1, 2⟩ : PassRate).total := by
  obtain ⟨-, anyOrder, -, -, bounded, -⟩ := counts_once flakyResults []
  have reversed : flakyResults.reverse.Perm flakyResults := List.reverse_perm _
  have counted : ("a/no_changes(step 0)", (⟨1, 2⟩ : PassRate)) ∈
      (ofResults flakyResults).rates := by decide +kernel
  exact ⟨reversed, anyOrder _ reversed, counted, bounded _ counted⟩

end Summary

end Reflex
