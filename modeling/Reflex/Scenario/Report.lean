import Reflex.Scenario.Result

/-!
# Reports over results

A `Summary` counts the results of scenarios by their outcome, and for each check how often it
passed. Checks are told apart by the name of the scenario and the label of the check.
-/

namespace Reflex

/-- How often a check passed, and how often it was made. -/
structure PassRate where
  passed : Nat
  total : Nat
deriving DecidableEq

/-- Counts over results. -/
structure Summary where
  cases : Nat
  success : Nat
  fail : Nat
  error : Nat
  /-- By the names of the checks, in order. -/
  rates : List (String × PassRate)
deriving DecidableEq

namespace Summary

/-- The summary of no results. -/
def empty : Summary := ⟨0, 0, 0, 0, []⟩

/-- Counts a verdict. -/
def addVerdict (id : String) (rates : List (String × PassRate)) (v : Verdict) :
    List (String × PassRate) :=
  Ordered.adjust (id ++ "/" ++ v.label)
    (fun rate? =>
      let rate := rate?.getD ⟨0, 0⟩
      ⟨rate.passed + (if v.passed then 1 else 0), rate.total + 1⟩)
    rates

/-- The verdicts of a result. -/
def verdicts (r : CaseResult) : List Verdict :=
  match r.judgment? with
  | some j => j.checks
  | none => []

/-- Counts a result. -/
def add (s : Summary) (r : CaseResult) : Summary where
  cases := s.cases + 1
  success := s.success + (if r.outcome = .success then 1 else 0)
  fail := s.fail + (if r.outcome = .fail then 1 else 0)
  error := s.error + (if r.outcome = .error then 1 else 0)
  rates := (verdicts r).foldl (addVerdict r.id) s.rates

/-- The summary of results. -/
def ofResults (results : List CaseResult) : Summary :=
  results.foldl add empty

end Summary

end Reflex
