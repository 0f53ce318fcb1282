/-!
# Readers that consume their input

A reader takes something off the front of a list and says what is left. A `Reading` carries the
proof that what is left is shorter, so that a loop over a reader ends because its input runs out.
-/

namespace Reflex

variable {σ ε α β : Type}

/-- What was read off the front of `input`, and what is left of it. -/
structure Reading (α : Type) (input : List σ) where
  /-- What was read. -/
  value : α
  /-- What is left. -/
  rest : List σ
  /-- Something was consumed. -/
  shorter : rest.length < input.length

/-- A function that reads something off the front of a list, or fails. -/
abbrev Reader (σ ε α : Type) :=
  (input : List σ) → Except ε (Reading α input)

namespace Reading

/-- The same reading with another value. -/
def map {input : List σ} (f : α → β) (r : Reading α input) : Reading β input :=
  ⟨f r.value, r.rest, r.shorter⟩

@[simp] theorem map_value {input : List σ} (f : α → β) (r : Reading α input) :
    (r.map f).value = f r.value := rfl

@[simp] theorem map_rest {input : List σ} (f : α → β) (r : Reading α input) :
    (r.map f).rest = r.rest := rfl

/-- A reading of an ending of the input is a reading of the input. -/
def within {input ending : List σ} (r : Reading α ending)
    (h : ending.length ≤ input.length) : Reading α input :=
  ⟨r.value, r.rest, Nat.lt_of_lt_of_le r.shorter h⟩

@[simp] theorem within_value {input ending : List σ} (r : Reading α ending)
    (h : ending.length ≤ input.length) : (r.within h).value = r.value := rfl

@[simp] theorem within_rest {input ending : List σ} (r : Reading α ending)
    (h : ending.length ≤ input.length) : (r.within h).rest = r.rest := rfl

/-- A reading of what another reading left is a reading of the whole. -/
def after {input : List σ} (first : Reading α input) (r : Reading β first.rest) : Reading β input :=
  r.within (Nat.le_of_lt first.shorter)

end Reading

end Reflex
