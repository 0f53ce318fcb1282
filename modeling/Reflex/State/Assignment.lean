import Reflex.Reading
import Reflex.Text.Blank
import Reflex.Text.Word

/-!
# Assignment texts

An assignment text such as `$mode = $next, $key = label` lists state variables and what they are
assigned. `Assignment.scan` finds the assignments in a text and passes over everything else.
-/

namespace Reflex

/-- What a state variable is assigned. -/
inductive AssignmentSource where
  /-- The text of a state variable. -/
  | state (name : String)
  /-- A field of the event data. -/
  | field (name : String)
deriving DecidableEq

/-- An assignment to a state variable; both names are given as they are written. -/
structure Assignment where
  target : String
  source : AssignmentSource
deriving DecidableEq

namespace Assignment

/-- What is left of a text after a class of characters at its head is no longer than the text. -/
theorem dropWhile_length_le (p : Char → Bool) (cs : List Char) :
    (cs.dropWhile p).length ≤ cs.length :=
  (List.dropWhile_suffix p).length_le

/-- The word at the head of a text, which must not be empty. -/
def word? : (cs : List Char) → Option (Reading (List Char) cs)
  | [] => none
  | c :: cs =>
    if Text.isWord c then
      some ⟨c :: cs.takeWhile Text.isWord, cs.dropWhile Text.isWord,
        Nat.lt_succ_of_le (dropWhile_length_le _ _)⟩
    else none

/-- The source of an assignment: a word, with a dollar sign before it or not. -/
def source? : (cs : List Char) → Option (Reading AssignmentSource cs)
  | [] => none
  | c :: cs =>
    if c == '$' then
      (word? cs).map fun r =>
        (r.map fun name => .state (String.ofList ('$' :: name))).within (Nat.le_succ _)
    else (word? (c :: cs)).map fun r => r.map fun name => .field (String.ofList name)

/-- An equals sign with white space around it or not, and the source after it. -/
def equals? (cs : List Char) : Option (Reading AssignmentSource cs) :=
  match h : cs.dropWhile Text.isBlank with
  | [] => none
  | c :: ds =>
    if c == '=' then
      (source? (ds.dropWhile Text.isBlank)).map fun r =>
        r.within (by
          have h₁ := dropWhile_length_le Text.isBlank cs
          have h₂ := dropWhile_length_le Text.isBlank ds
          rw [h] at h₁
          simp only [List.length_cons] at h₁
          omega)
    else none

/-- The assignment at the head of a text that follows a dollar sign. -/
def head? (cs : List Char) : Option (Reading Assignment cs) :=
  (word? cs).bind fun target =>
    (equals? target.rest).map fun source =>
      (target.after source).map fun s => ⟨String.ofList ('$' :: target.value), s⟩

/-- The assignments in a text, from left to right. -/
def scan : List Char → List Assignment
  | [] => []
  | c :: cs =>
    match if c == '$' then head? cs else none with
    | some r => r.value :: scan r.rest
    | none => scan cs
termination_by cs => cs.length
decreasing_by
  · have := r.shorter
    simp only [List.length_cons]
    omega
  · simp

end Assignment

end Reflex
