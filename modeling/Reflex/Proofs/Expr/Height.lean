import Reflex.Proofs.Expr.Names
import Reflex.Proofs.Expr.Paths

/-!
# How high trees are

An evaluation is under way at once for each node on a way from the root of a tree.  The parser
counts something else, the conditionals and operands that it is in the middle of, and refuses more
than so many.  A chain of operators, or of segments of a path, is read in a loop and counts once,
but makes the tree higher to the left with each of them.  So the parser bounds the steps of a way
that leave these chains, the spines of the tree, and a tree is as high as its spines let it be.

* `Expr.height` and `Expr.evalWithin` say how high a tree is and what its value is when so many
  evaluations may be under way at once; `Expr.evalWithin_of_height_le` ties them together.
* `Expr.height_le` bounds the height of a tree by its `Expr.nesting` and its longest spine.
* `Grammar.Derives.nesting_add_weight_le` bounds the nesting of what the grammar derives.
* `Expr.limit_bounds_nesting` is the result for parsed texts, and `Expr.height_is_unbounded` says
  that the spines cannot be left out of it.
-/

namespace Reflex

open Grammar

namespace Expr

/-! ## Height -/

mutual

/-- How many nodes there are, at most, on a way from the root. -/
def height : Expr → Nat
  | .member base _ => base.height + 1
  | .call _ args => heightAll args + 1
  | .unary _ operand => operand.height + 1
  | .binary _ left right => max left.height right.height + 1
  | .conditional test yes no => max test.height (max yes.height no.height) + 1
  | _ => 1

/-- The height of the highest of several trees. -/
def heightAll : List Expr → Nat
  | [] => 0
  | e :: es => max e.height (heightAll es)

end

/-- How many steps lead from the root to a left operand or the base of a member, one after the
other. -/
def spine : Expr → Nat
  | .member base _ => base.spine + 1
  | .binary _ left _ => left.spine + 1
  | _ => 0

mutual

/-- The longest spine anywhere in a tree. -/
def longestSpine : Expr → Nat
  | .member base _ => max (base.spine + 1) base.longestSpine
  | .call _ args => longestSpineAll args
  | .unary _ operand => operand.longestSpine
  | .binary _ left right => max (left.spine + 1) (max left.longestSpine right.longestSpine)
  | .conditional test yes no => max test.longestSpine (max yes.longestSpine no.longestSpine)
  | _ => 0

/-- The longest spine anywhere in several trees. -/
def longestSpineAll : List Expr → Nat
  | [] => 0
  | e :: es => max e.longestSpine (longestSpineAll es)

end

mutual

/-- How many steps of a way from the root leave the spines, at most. -/
def nesting : Expr → Nat
  | .member base _ => base.nesting
  | .call _ args => nestingAll args
  | .unary _ operand => operand.nesting + 1
  | .binary _ left right => max left.nesting (right.nesting + 1)
  | .conditional test yes no => max test.nesting (max yes.nesting no.nesting) + 1
  | _ => 0

/-- The same of a call with these arguments. -/
def nestingAll : List Expr → Nat
  | [] => 0
  | e :: es => max (e.nesting + 1) (nestingAll es)

end

variable {e : Expr} {n : Nat}

lemma height_pos (e : Expr) : 0 < e.height := by
  cases e <;> exact Nat.succ_pos _

lemma spine_lt_height : ∀ e : Expr, e.spine < e.height
  | .member base _ => Nat.succ_lt_succ base.spine_lt_height
  | .binary _ left _ =>
    Nat.succ_lt_succ (Nat.lt_of_lt_of_le left.spine_lt_height (Nat.le_max_left _ _))
  | .literal _ | .state _ | .field _ | .ident _ => Nat.one_pos
  | .call _ _ | .unary _ _ | .conditional _ _ _ => Nat.succ_pos _

lemma spine_le_longestSpine (e : Expr) : e.spine ≤ e.longestSpine := by
  cases e with
  | member => exact Nat.le_max_left _ _
  | binary => exact Nat.le_max_left _ _
  | _ => exact Nat.zero_le _

lemma height_le_mul_of_le (spines : e.longestSpine ≤ n)
    (h : e.height ≤ e.spine + 1 + e.nesting * (n + 1)) :
    e.height ≤ (e.nesting + 1) * (n + 1) := by
  have spine := e.spine_le_longestSpine
  rw [Nat.succ_mul]
  omega

mutual

/-- A step on the spine makes a tree higher by one, and any other by no more than a whole spine. -/
theorem height_le : ∀ (e : Expr) {n : Nat}, e.longestSpine ≤ n →
    e.height ≤ e.spine + 1 + e.nesting * (n + 1)
  | .literal _, _, _ | .state _, _, _ | .field _, _, _ | .ident _, _, _ => Nat.le_add_right _ _
  | .member base _, n, h => by
    simp only [longestSpine, height, spine, nesting, Nat.max_le] at h ⊢
    have onSpine := height_le base h.2
    omega
  | .call _ args, n, h => by
    simp only [longestSpine, height, spine, nesting] at h ⊢
    have inner := heightAll_le args h
    omega
  | .unary _ operand, n, h => by
    simp only [longestSpine, height, spine, nesting] at h ⊢
    have offSpine := height_le_mul_of_le h (height_le operand h)
    omega
  | .binary _ left right, n, h => by
    simp only [longestSpine, height, spine, nesting, Nat.max_le] at h ⊢
    have onSpine := height_le left h.2.1
    have offSpine := height_le_mul_of_le h.2.2 (height_le right h.2.2)
    have first := Nat.mul_le_mul_right (n + 1) (Nat.le_max_left left.nesting (right.nesting + 1))
    have second := Nat.mul_le_mul_right (n + 1) (Nat.le_max_right left.nesting (right.nesting + 1))
    omega
  | .conditional test yes no, n, h => by
    simp only [longestSpine, height, spine, nesting, Nat.max_le] at h ⊢
    have ofTest := height_le_mul_of_le h.1 (height_le test h.1)
    have ofYes := height_le_mul_of_le h.2.1 (height_le yes h.2.1)
    have ofNo := height_le_mul_of_le h.2.2 (height_le no h.2.2)
    have widen {m : Nat} (le : m ≤ max test.nesting (max yes.nesting no.nesting)) :
        (m + 1) * (n + 1) ≤ (max test.nesting (max yes.nesting no.nesting) + 1) * (n + 1) :=
      Nat.mul_le_mul_right _ (Nat.succ_le_succ le)
    have first := widen (m := test.nesting) (by omega)
    have second := widen (m := yes.nesting) (by omega)
    have third := widen (m := no.nesting) (by omega)
    omega

theorem heightAll_le : ∀ (es : List Expr) {n : Nat}, longestSpineAll es ≤ n →
    heightAll es ≤ nestingAll es * (n + 1)
  | [], _, _ => Nat.zero_le _
  | e :: es, n, h => by
    simp only [longestSpineAll, heightAll, nestingAll, Nat.max_le] at h ⊢
    have here := height_le_mul_of_le h.1 (height_le e h.1)
    have others := heightAll_le es h.2
    have first := Nat.mul_le_mul_right (n + 1) (Nat.le_max_left (e.nesting + 1) (nestingAll es))
    have second := Nat.mul_le_mul_right (n + 1) (Nat.le_max_right (e.nesting + 1) (nestingAll es))
    omega

end

/-! ## Evaluations under way -/

mutual

/-- The value of an expression when at most so many evaluations may be under way at once; none if
these are not enough. -/
def evalWithin (scope : Scope) : Nat → Expr → OptionT Eval Value
  | 0, _ => failure
  | n + 1, .member base segment => do
    let v ← evalWithin scope n base
    return v.member segment
  | n + 1, .call name args =>
    match scope.library.get? name with
    | none => OptionT.lift (throw (.unknownFunction name))
    | some f => do
      let vs ← evalAllWithin scope n args
      OptionT.lift (Eval.collect (f.events vs))
      OptionT.lift (Eval.ofExcept (f.result vs))
  | n + 1, .unary op operand => do
    let v ← evalWithin scope n operand
    OptionT.lift (Eval.ofExcept (Value.unary op v))
  | n + 1, .binary .and left right => do
    let v ← evalWithin scope n left
    if v.truthy then evalWithin scope n right else return v
  | n + 1, .binary .or left right => do
    let v ← evalWithin scope n left
    if v.truthy then return v else evalWithin scope n right
  | n + 1, .binary op left right => do
    let v ← evalWithin scope n left
    let w ← evalWithin scope n right
    OptionT.lift (Eval.ofExcept (Value.binary op v w))
  | n + 1, .conditional test yes no => do
    let v ← evalWithin scope n test
    if v.truthy then evalWithin scope n yes else evalWithin scope n no
  | _ + 1, leaf => OptionT.lift (leaf.eval scope)

/-- The values of expressions, from left to right, each evaluated when the one before it is done. -/
def evalAllWithin (scope : Scope) : Nat → List Expr → OptionT Eval (List Value)
  | _, [] => pure []
  | n, e :: es => do
    let v ← evalWithin scope n e
    let vs ← evalAllWithin scope n es
    return v :: vs

end

mutual

/-- The height of a tree is room enough for its evaluation. -/
theorem evalWithin_of_height_le (scope : Scope) : ∀ (e : Expr) {n : Nat}, e.height ≤ n →
    e.evalWithin scope n = OptionT.lift (e.eval scope)
  | e, 0, h => absurd e.height_pos (Nat.not_lt.2 h)
  | .literal _, _ + 1, _ | .state _, _ + 1, _ | .field _, _ + 1, _ | .ident _, _ + 1, _ => by
    rw [evalWithin] <;> nofun
  | .member base _, n + 1, h => by
    simp only [height, Nat.add_le_add_iff_right] at h
    simp only [evalWithin, eval, evalWithin_of_height_le scope base h, OptionT.lift_bind,
      OptionT.lift_pure]
  | .call name args, n + 1, h => by
    simp only [height, Nat.add_le_add_iff_right] at h
    rw [evalWithin, eval]
    cases scope.library.get? name with
    | none => rfl
    | some f => simp only [evalAllWithin_of_heightAll_le scope args h, OptionT.lift_bind]
  | .unary _ operand, n + 1, h => by
    simp only [height, Nat.add_le_add_iff_right] at h
    simp only [evalWithin, eval, evalWithin_of_height_le scope operand h, OptionT.lift_bind]
  | .binary op left right, n + 1, h => by
    simp only [height, Nat.add_le_add_iff_right, Nat.max_le] at h
    have ofLeft := evalWithin_of_height_le scope left h.1
    have ofRight := evalWithin_of_height_le scope right h.2
    cases op with
    | and | or =>
      rw [evalWithin, eval, ofLeft, ofRight, OptionT.lift_bind]
      refine bind_congr fun v => ?_
      split <;> rfl
    | _ =>
      rw [evalWithin, eval, ofLeft, ofRight]
      · simp only [OptionT.lift_bind]
      all_goals nofun
  | .conditional test yes no, n + 1, h => by
    simp only [height, Nat.add_le_add_iff_right, Nat.max_le] at h
    rw [evalWithin, eval, evalWithin_of_height_le scope test h.1,
      evalWithin_of_height_le scope yes h.2.1, evalWithin_of_height_le scope no h.2.2,
      OptionT.lift_bind]
    refine bind_congr fun v => ?_
    split <;> rfl

theorem evalAllWithin_of_heightAll_le (scope : Scope) : ∀ (es : List Expr) {n : Nat},
    heightAll es ≤ n → evalAllWithin scope n es = OptionT.lift (evalAll scope es)
  | [], _, _ => rfl
  | e :: es, n, h => by
    simp only [heightAll, Nat.max_le] at h
    simp only [evalAllWithin, evalAll, evalWithin_of_height_le scope e h.1,
      evalAllWithin_of_heightAll_le scope es h.2, OptionT.lift_bind, OptionT.lift_pure]

end

/-- A computation that has no room for its evaluations comes to no value. -/
lemma failure_ne_lift {x : Eval Value} : (failure : OptionT Eval Value) ≠ OptionT.lift x := by
  intro same
  have found : (OptionT.lift x).run.collected.1 = x.collected.1.map some := by
    rw [Eval.collected, OptionT.run_lift, bind_pure_comp, ExceptT.run_map, StateT.run_map]
    rfl
  rw [← same] at found
  cases result : x.collected.1 with
  | error e =>
    rw [result] at found
    cases found
  | ok v =>
    rw [result] at found
    cases found

/-- The evaluations along the spine are under way at once, whatever can be seen. -/
theorem evalWithin_of_le_spine (scope : Scope) : ∀ (e : Expr) {n : Nat}, n ≤ e.spine →
    e.evalWithin scope n = failure
  | e, 0, _ => by cases e <;> rfl
  | .member base _, n + 1, h => by
    rw [evalWithin, evalWithin_of_le_spine scope base (Nat.le_of_succ_le_succ h)]
    rfl
  | .binary op left _, n + 1, h => by
    have ofLeft := evalWithin_of_le_spine scope left (Nat.le_of_succ_le_succ h)
    cases op with
    | and | or =>
      rw [evalWithin, ofLeft]
      rfl
    | _ =>
      rw [evalWithin, ofLeft]
      · rfl
      all_goals nofun

end Expr

/-! ## What the limit bounds -/

namespace Grammar

/-- By how many steps a phrase has to stay below four for each level and two more. -/
def Phrase.weight : Phrase → Nat
  | .conditional => 3
  | .chain level => level
  | .signed => 6
  | .path | .primary | .arguments _ => 2

/-- A conditional and an operand take a level each, and between the two there are at most six steps
to right operands, since these bind tighter and tighter.  So there are at most four steps for each
level. -/
theorem Derives.nesting_add_weight_le {d : Nat} {phrase : Phrase} {ts : List TokenKind} {e : Expr}
    (h : Derives d phrase ts e) : e.nesting + phrase.weight ≤ 4 * d + 2 := by
  induction h with
  | call _ _ ih => exact ih
  | _ => simp only [Expr.nesting, Expr.nestingAll, Phrase.weight] at *; omega

end Grammar

namespace Expr

/-- **The limit of the parser bounds the nesting of a tree.**  A way from the root of a parsed tree
has fewer than four steps for each level that may be open, those on spines left out.  So the height
of the tree is at most so many spines, and evaluating it never has more evaluations under way at
once. -/
theorem limit_bounds_nesting {source : String} {e : Expr} (parsed : Expr.parse source = .ok e) :
    e.nesting < 4 * maxNesting ∧ e.height ≤ 4 * maxNesting * (e.longestSpine + 1) ∧
      ∀ scope, e.evalWithin scope (4 * maxNesting * (e.longestSpine + 1)) =
        OptionT.lift (e.eval scope) := by
  obtain ⟨tokens, -, derives⟩ := exists_derives_of_parse parsed
  have nesting : e.nesting < 4 * maxNesting := by
    have bound := derives.nesting_add_weight_le
    rw [Phrase.weight] at bound
    omega
  have height : e.height ≤ 4 * maxNesting * (e.longestSpine + 1) :=
    (height_le_mul_of_le le_rfl (height_le e le_rfl)).trans (Nat.mul_le_mul_right _ nesting)
  exact ⟨nesting, height, fun scope => evalWithin_of_height_le scope e height⟩

/-- A conditional with signs, operators, members and calls in it has room enough. -/
theorem limit_bounds_choice : ∃ e,
    Expr.parse "max(!$a, $b.c + #d) ? f($b.c.e) || $a : null" = .ok e ∧
      e.nesting = 3 ∧ e.longestSpine = 2 ∧ e.height = 6 ∧
      e.nesting < 4 * maxNesting ∧ e.height ≤ 4 * maxNesting * (e.longestSpine + 1) ∧
      ∀ scope, e.evalWithin scope (4 * maxNesting * (e.longestSpine + 1)) =
        OptionT.lift (e.eval scope) := by
  let member : Expr := .member (.state "$b") "c"
  have parsed : Expr.parse "max(!$a, $b.c + #d) ? f($b.c.e) || $a : null" = .ok
      (.conditional (.call "max" [.unary .not (.state "$a"), .binary .add member (.field "d")])
        (.binary .or (.call "f" [.member member "e"]) (.state "$a")) (.literal .null)) := by
    decide +kernel
  exact ⟨_, parsed, rfl, rfl, rfl, limit_bounds_nesting parsed⟩

lemma spine_members (e : Expr) (segments : List (List Char)) :
    (segments.foldl (fun e s => .member e (String.ofList (Path.unpadded s))) e).spine =
      e.spine + segments.length := by
  induction segments generalizing e with
  | nil => rfl
  | cons segment segments ih =>
    rw [List.foldl_cons, ih, spine, List.length_cons]
    omega

/-- There is a path with a spine of any length. -/
lemma exists_spine (n : Nat) : ∃ source e, Expr.parse source = .ok e ∧ e.spine = n := by
  have named : ∀ c ∈ ['a'], Text.isName c := List.all_eq_true.1 rfl
  have each : ∀ s ∈ List.replicate n ['a'], Path.IsSegment s := by
    intro s mem
    rw [List.eq_of_mem_replicate mem]
    exact .name rfl (List.all_eq_true.1 rfl) (by decide)
  have exact : ∀ s ∈ List.replicate n ['a'], Path.IsExact s := by
    intro s mem
    rw [List.eq_of_mem_replicate mem]
    nofun
  refine ⟨_, _, Path.parse_text (List.cons_ne_nil _ _) named each exact, ?_⟩
  rw [Path.expr, spine_members, List.length_replicate]
  exact Nat.zero_add n

/-- No limit that is the same for all texts bounds the height of parsed trees, nor the evaluations
that are under way at once: paths are parsed however long they are. -/
theorem height_is_unbounded :
    (¬ ∃ bound, ∀ source e, Expr.parse source = .ok e → e.height ≤ bound) ∧
    ¬ ∃ bound, ∀ source e scope, Expr.parse source = .ok e →
      e.evalWithin scope bound = OptionT.lift (e.eval scope) := by
  constructor
  · rintro ⟨bound, bounded⟩
    obtain ⟨source, e, parsed, spine⟩ := exists_spine bound
    have height := bounded source e parsed
    have higher := e.spine_lt_height
    omega
  · rintro ⟨bound, enough⟩
    obtain ⟨source, e, parsed, spine⟩ := exists_spine bound
    have value := enough source e ⟨.standard, [], []⟩ parsed
    rw [evalWithin_of_le_spine _ e spine.ge] at value
    exact failure_ne_lift value

end Expr

end Reflex
