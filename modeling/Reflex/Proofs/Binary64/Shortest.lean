import Reflex.Binary64.Shortest
import Reflex.Proofs.Binary64.Rounding

/-!
# The shortest decimal rounds back

The shortest decimal of a magnitude is looked for among the decimals of up to 17 digits that lie in
the interval of reals which round to the magnitude.  One of 17 digits always does, so that the
search succeeds, and what it finds is read as the magnitude again.

* `Binary64.roundUnits_of_roundsTo` says that the interval is the right one.
* `Binary64.isSome_nearest?` says that 17 digits are enough.
* `Binary64.rounded_shortest` is the result.
* `Binary64.length_shortest_le_iff` says which magnitudes have decimals of so many digits.
-/

namespace Reflex

namespace Binary64

variable {n num den num' den' c s m p q : Nat}

/-! ## The interval of reals that round to a magnitude -/

/-- A power of two with a smaller spacing below it. -/
def IsEdge (n : Nat) : Prop :=
  n = 2 ^ n.log2 ∧ 52 < n.log2

lemma lowerQuarters_mul_of_edge (edge : IsEdge n) :
    lowerQuarters n * q = 4 * (n * q) - spacing n * q := by
  have isEdge : (n = Nat.pow 2 n.log2 && n.log2 > 52) = true := by simpa [IsEdge] using edge
  rw [lowerQuarters, if_pos isEdge, Nat.sub_mul, Nat.mul_assoc]

lemma lowerQuarters_mul_of_not_edge (inner : ¬ IsEdge n) :
    lowerQuarters n * q = 4 * (n * q) - 2 * (spacing n * q) := by
  have notEdge : ¬ (n = Nat.pow 2 n.log2 && n.log2 > 52) = true := by simpa [IsEdge] using inner
  rw [lowerQuarters, if_neg notEdge, Nat.sub_mul, Nat.mul_assoc, Nat.mul_assoc]

lemma upperQuarters_mul : upperQuarters n * q = 4 * (n * q) + 2 * (spacing n * q) := by
  rw [upperQuarters, Nat.add_mul, Nat.mul_assoc, Nat.mul_assoc]

lemma roundsTo_iff : roundsTo n m p q = true ↔
    (lowerQuarters n * q < 4 * (m * p) ∧ 4 * (m * p) < upperQuarters n * q) ∨
      (lowerQuarters n * q = 4 * (m * p) ∨ 4 * (m * p) = upperQuarters n * q) ∧
        n / spacing n % 2 = 0 := by
  simp only [roundsTo, Nat.mul_assoc 4 m p, Bool.or_eq_true, Bool.and_eq_true, decide_eq_true_eq,
    beq_iff_eq]

/-- The interval reaches half a spacing to either side, or half of the smaller spacing below an
edge.  Its ends belong to it if the magnitude is an even multiple of its spacing. -/
lemma bounds_of_roundsTo (rounds : roundsTo n m p q) :
    (IsEdge n → 4 * (n * q) ≤ 4 * (m * p) + spacing n * q) ∧
    2 * (n * q) ≤ 2 * (m * p) + spacing n * q ∧ 2 * (m * p) ≤ 2 * (n * q) + spacing n * q ∧
    (n / spacing n % 2 = 0 ∨
      (IsEdge n ∨ 2 * (n * q) < 2 * (m * p) + spacing n * q) ∧
      2 * (m * p) < 2 * (n * q) + spacing n * q) := by
  rw [roundsTo_iff, upperQuarters_mul] at rounds
  by_cases edge : IsEdge n
  · rw [lowerQuarters_mul_of_edge edge] at rounds
    simp only [edge, true_implies, true_or, true_and]
    omega
  · rw [lowerQuarters_mul_of_not_edge edge] at rounds
    simp only [edge, false_implies, true_and, false_or]
    omega

/-- A magnitude is so many times its spacing. -/
lemma exists_eq_mul_spacing (h : Representable n) : ∃ s, n = s * spacing n :=
  ⟨n / spacing n, (Nat.div_mul_cancel h.2).symm⟩

/-- Between a magnitude and the next power of two there is room for its spacing. -/
lemma add_spacing_le (h : Representable n) (pos : 0 < n) : n + spacing n ≤ 2 ^ (n.log2 + 1) := by
  have below : n < 2 ^ (n.log2 + 1) := (Nat.log2_lt pos.ne').1 (Nat.lt_succ_self _)
  have divides : spacing n ∣ 2 ^ (n.log2 + 1) - n :=
    Nat.dvd_sub (Nat.pow_dvd_pow 2 (by omega)) h.2
  have := Nat.le_of_dvd (Nat.sub_pos_of_lt below) divides
  omega

/-- A magnitude that is no power of two is beyond one by its spacing. -/
lemma two_pow_add_spacing_le (h : Representable n) (pos : 0 < n) (other : n ≠ 2 ^ n.log2) :
    2 ^ n.log2 + spacing n ≤ n := by
  have above : 2 ^ n.log2 < n := lt_of_le_of_ne (Nat.log2_self_le pos.ne') (Ne.symm other)
  have divides : spacing n ∣ n - 2 ^ n.log2 :=
    Nat.dvd_sub h.2 (Nat.pow_dvd_pow 2 (by omega))
  have := Nat.le_of_dvd (Nat.sub_pos_of_lt above) divides
  omega

/-- Just below an edge the spacing is half of that of the edge. -/
lemma roundUnits_of_below_edge (edge : IsEdge n) (pos : 0 < q) (less : num < n * q)
    (lower : 4 * (n * q) ≤ 4 * num + spacing n * q) : roundUnits num q = n := by
  obtain ⟨power, high⟩ := edge
  obtain ⟨k, digits⟩ : ∃ k, n.log2 = 53 + k := Nat.exists_eq_add_of_le high
  have gap : spacing n = 2 * 2 ^ k := by
    rw [spacing, digits, Nat.pow_eq, ← Nat.pow_succ']
    congr 1
    omega
  rw [digits] at power
  have whole : n = 2 ^ 53 * 2 ^ k := by rw [power, Nat.pow_add]
  have half : n * q = 2 * (2 ^ (52 + k) * q) := by
    rw [power, ← Nat.mul_assoc, ← Nat.pow_succ']
    congr 2
    omega
  have small : 2 ^ k * q ≤ 2 ^ (52 + k) * q :=
    Nat.mul_le_mul_right q (Nat.pow_le_pow_right Nat.two_pos (Nat.le_add_left k 52))
  rw [gap, Nat.mul_assoc] at lower
  have near : spacing (num / q) = 2 ^ k := by
    have between : spacing (num / q) = 2 ^ (52 + k - 52) := by
      refine spacing_of_between ?_ ?_
      · rw [Nat.le_div_iff_mul_le pos]
        omega
      · rw [Nat.div_lt_iff_lt_mul pos, Nat.pow_succ', Nat.mul_assoc, ← half]
        exact less
    rw [between, Nat.add_sub_cancel_left]
  have rounded : roundUnits num q = 2 ^ 53 * 2 ^ k := by
    refine roundUnits_of_near pos near ?_ ?_ (.inl (by decide))
    · rw [← whole]
      omega
    · rw [← whole]
      omega
  rw [rounded, ← whole]

/-- What lies in the interval of a magnitude is rounded to it. -/
lemma roundUnits_of_roundsTo (h : Representable n) (pos : 0 < n) (pos' : 0 < q)
    (rounds : roundsTo n m p q) : roundUnits (m * p) q = n := by
  obtain ⟨edge, lower, upper, tie⟩ := bounds_of_roundsTo rounds
  obtain ⟨s, whole⟩ := exists_eq_mul_spacing h
  have gap : 0 < spacing n * q := Nat.mul_pos (spacing_pos n) pos'
  generalize m * p = num at *
  by_cases below : IsEdge n ∧ num < n * q
  · exact roundUnits_of_below_edge below.1 pos' below.2 (edge below.1)
  have room : num / q < 2 ^ (n.log2 + 1) := by
    have := Nat.mul_le_mul_right q (add_spacing_le h pos)
    rw [Nat.add_mul] at this
    rw [Nat.div_lt_iff_lt_mul pos']
    omega
  have near : spacing (num / q) = spacing n := by
    rcases Nat.lt_or_ge 52 n.log2 with high | low
    · refine spacing_of_between ((Nat.le_div_iff_mul_le pos').2 ?_) room
      by_cases power : n = 2 ^ n.log2
      · rw [← power]
        exact Nat.not_lt.1 fun less => below ⟨⟨power, high⟩, less⟩
      · have := Nat.mul_le_mul_right q (two_pow_add_spacing_le h pos power)
        rw [Nat.add_mul] at this
        omega
    · have small : 2 ^ (n.log2 + 1) ≤ 2 ^ 53 := Nat.pow_le_pow_right Nat.two_pos (by omega)
      rw [spacing_of_lt (Nat.lt_of_lt_of_le room small),
        spacing_of_lt (Nat.lt_of_lt_of_le ((Nat.log2_lt pos.ne').1 (Nat.lt_succ_self _)) small)]
  have quotient : n / spacing n = s := Nat.div_eq_of_eq_mul_left (spacing_pos n) whole
  have rounded : roundUnits num q = s * spacing n := by
    refine roundUnits_of_near pos' near ?_ ?_ ?_
    · rwa [← whole]
    · rwa [← whole]
    · rw [← whole, ← quotient]
      refine tie.imp_right fun ⟨strict, above⟩ => ⟨?_, above⟩
      rcases strict with isEdge | strict
      · have := Nat.not_lt.1 fun less => below ⟨isEdge, less⟩
        omega
      · exact strict
  rw [rounded, ← whole]

/-! ## Decimals and the magnitudes that they round to -/

/-- The magnitude that a decimal is rounded to. -/
def Decimal.rounded (d : Decimal) : Nat :=
  roundUnits (d.significand * (one * 10 ^ d.exponent.toNat)) (10 ^ (-d.exponent).toNat)

variable {k e : Int} {d : Decimal} {length : Nat}

/-- Zeros at the end of the significand may be moved into the exponent. -/
lemma Decimal.rounded_shift (s j : Nat) (e : Int) :
    (Decimal.mk (s * 10 ^ j) (e - j)).rounded = (Decimal.mk s e).rounded := by
  refine roundUnits_congr (Nat.pow_pos (by decide)) (Nat.pow_pos (by decide)) ?_
  dsimp only
  have exponents : j + (e - j).toNat + (-e).toNat = e.toNat + (-(e - j)).toNat := by omega
  calc s * 10 ^ j * (one * 10 ^ (e - j).toNat) * 10 ^ (-e).toNat
      = s * one * 10 ^ (j + (e - j).toNat + (-e).toNat) := by
        rw [Nat.pow_add, Nat.pow_add]
        ring
    _ = s * (one * 10 ^ e.toNat) * 10 ^ (-(e - j)).toNat := by
        rw [exponents, Nat.pow_add]
        ring

lemma Decimal.rounded_strip (d : Decimal) (fuel : Nat) : (d.strip fuel).rounded = d.rounded := by
  induction fuel generalizing d with
  | zero => rfl
  | succ fuel ih =>
    rw [strip]
    split
    · rename_i zero
      rw [ih]
      have whole : d.significand / 10 * 10 ^ 1 = d.significand := by
        rw [Nat.pow_one, Nat.div_mul_cancel (Nat.dvd_of_mod_eq_zero (beq_iff_eq.1 zero))]
      have shifted := rounded_shift (d.significand / 10) 1 (d.exponent + 1)
      rw [whole] at shifted
      rw [← shifted]
      congr 2
      omega
    · rfl

/-- The decimal that is chosen from `below` and `below + 1`, the multiples of `p / q` next to `n`. -/
def chosen (n p q : Nat) (e : Int) : Option Decimal :=
  let below := n * q / p
  let gap := n * q % p
  match roundsTo n below p q, roundsTo n (below + 1) p q with
  | true, true =>
    some ⟨if 2 * gap < p || (2 * gap == p && below % 2 == 0) then below else below + 1, e⟩
  | true, false => some ⟨below, e⟩
  | false, true => some ⟨below + 1, e⟩
  | false, false => none

/-- For a length, the choice is between multiples of a power of ten. -/
lemma nearest?_eq (he : e = k - length + 1) :
    nearest? n k length = chosen n (one * 10 ^ e.toNat) (10 ^ (-e).toNat) e := by
  subst he
  have scale : (if k - length + 1 < 0 then one else one * Nat.pow 10 (k - length + 1).toNat) =
      one * 10 ^ (k - length + 1).toNat := by
    split
    · rw [Int.toNat_of_nonpos (by omega), Nat.pow_zero, Nat.mul_one]
    · rfl
  have unit : (if k - length + 1 < 0 then Nat.pow 10 (k - length + 1).natAbs else 1) =
      10 ^ (-(k - length + 1)).toNat := by
    split
    · rw [Nat.pow_eq]
      congr 1
      omega
    · rw [Int.toNat_of_nonpos (by omega), Nat.pow_zero]
  rw [← scale, ← unit]
  rfl

/-- What is found for a length is rounded to the magnitude. -/
lemma rounded_of_nearest? (h : Representable n) (pos : 0 < n)
    (found : nearest? n k length = some d) : d.rounded = n := by
  rw [nearest?_eq rfl, chosen] at found
  have rounds {m : Nat} (rounds : roundsTo n m (one * 10 ^ (k - length + 1).toNat)
      (10 ^ (-(k - length + 1)).toNat)) : (Decimal.mk m (k - length + 1)).rounded = n :=
    roundUnits_of_roundsTo h pos (Nat.pow_pos (by decide)) rounds
  split at found
  · rename_i lower upper
    obtain rfl := Option.some.inj found
    split
    · exact rounds lower
    · exact rounds upper
  · rename_i lower upper
    obtain rfl := Option.some.inj found
    exact rounds lower
  · rename_i lower upper
    obtain rfl := Option.some.inj found
    exact rounds upper
  · cases found

/-! ## Seventeen digits are enough -/

lemma spacing_le (pos : 0 < n) : spacing n ≤ n := by
  rw [spacing, Nat.pow_eq]
  exact (Nat.pow_le_pow_right Nat.two_pos (Nat.sub_le _ 52)).trans (Nat.log2_self_le pos.ne')

/-- What lies well inside the interval is rounded to the magnitude. -/
lemma roundsTo_of_between (pos : 0 < n) (edge : IsEdge n → n * q ≤ m * p)
    (lower : 2 * (n * q) < 2 * (m * p) + spacing n * q)
    (upper : 2 * (m * p) < 2 * (n * q) + spacing n * q) : roundsTo n m p q := by
  have above : lowerQuarters n * q < 4 * (m * p) := by
    have := Nat.mul_le_mul_right q (spacing_le pos)
    by_cases isEdge : IsEdge n
    · rw [lowerQuarters_mul_of_edge isEdge]
      have := edge isEdge
      omega
    · rw [lowerQuarters_mul_of_not_edge isEdge]
      omega
  rw [roundsTo_iff, upperQuarters_mul]
  exact .inl ⟨above, by omega⟩

/-- A number of so many digits reaches the power of ten with as many. -/
lemma exists_length_toDigits (pos : 0 < s) :
    ∃ l, (Nat.toDigits 10 s).length = l + 1 ∧ 10 ^ l ≤ s := by
  obtain ⟨l, length⟩ : ∃ l, (Nat.toDigits 10 s).length = l + 1 :=
    Nat.exists_eq_succ_of_ne_zero Nat.length_toDigits_pos.ne'
  refine ⟨l, length, ?_⟩
  rcases Nat.eq_zero_or_pos l with rfl | more
  · exact pos
  · rw [← Nat.not_lt, ← Nat.length_toDigits_le_iff (by decide) more, length]
    omega

/-- The search for the exponent of a magnitude below one ends where the power of ten is reached. -/
lemma exists_exponentBelowOne {fuel j : Nat} (reached : one ≤ n * 10 ^ (j + fuel)) :
    ∃ i : Nat, exponentBelowOne n fuel j = -(i : Int) ∧ one ≤ n * 10 ^ i := by
  induction fuel generalizing j with
  | zero => exact ⟨j, rfl, reached⟩
  | succ fuel ih =>
    rw [exponentBelowOne]
    split
    · rename_i here
      exact ⟨j, rfl, here⟩
    · exact ih (by rwa [Nat.add_right_comm, Nat.add_assoc])

/-- The decimal exponent is that of a power of ten which the magnitude reaches. -/
lemma le_of_decimalExponent (pos : 0 < n) :
    one * 10 ^ (decimalExponent n).toNat ≤ n * 10 ^ (-decimalExponent n).toNat := by
  rw [decimalExponent]
  split
  · rename_i large
    have whole : 0 < n / one := Nat.div_pos large one_pos
    obtain ⟨l, length, reached⟩ := exists_length_toDigits whole
    rw [length, Int.toNat_of_nonpos (z := -(((l + 1 : Nat) : Int) - 1)) (by omega), Nat.pow_zero,
      Nat.mul_one]
    calc one * 10 ^ (((l + 1 : Nat) : Int) - 1).toNat = 10 ^ l * one := by
          rw [Nat.mul_comm]
          congr 2
          omega
      _ ≤ n / one * one := Nat.mul_le_mul_right one reached
      _ ≤ n := Nat.div_mul_le_self n one
  · have least : one ≤ 10 ^ (1 + 324) := by decide +kernel
    obtain ⟨i, found, reached⟩ := @exists_exponentBelowOne n 324 1
      (least.trans (Nat.le_mul_of_pos_left _ pos))
    rw [found, neg_neg, Int.toNat_natCast, Int.toNat_of_nonpos (by omega), Nat.pow_zero,
      Nat.mul_one]
    exact reached

/-- An edge is `2 ^ 52` times its spacing. -/
lemma IsEdge.eq_mul_spacing (edge : IsEdge n) : n = 2 ^ 52 * spacing n := by
  obtain ⟨power, high⟩ := edge
  rw [spacing, Nat.pow_eq, ← Nat.pow_add, Nat.add_sub_of_le high.le]
  exact power

/-- Of two neighbouring decimals one is rounded to the magnitude between them, if they are so close
to each other. -/
lemma roundsTo_below_or_above (pos : 0 < n) (pos' : 0 < q) (pos'' : 0 < p)
    (close : 10 ^ 16 * p ≤ n * q) :
    roundsTo n (n * q / p) p q ∨ roundsTo n (n * q / p + 1) p q := by
  have split : n * q = n * q / p * p + n * q % p := (Nat.div_add_mod' _ _).symm
  have rest : n * q % p < p := Nat.mod_lt _ pos''
  have next : (n * q / p + 1) * p = n * q / p * p + p := Nat.succ_mul _ _
  have narrow : n * q < 2 ^ 53 * (spacing n * q) := by
    rw [← Nat.mul_assoc]
    exact Nat.mul_lt_mul_of_pos_right (lt_mul_spacing pos) pos'
  by_cases edge : IsEdge n
  · -- The decimal above an edge is always close enough.
    have power : n * q = 2 ^ 52 * (spacing n * q) := by
      rw [← Nat.mul_assoc, ← edge.eq_mul_spacing]
    refine .inr (roundsTo_of_between pos (fun _ => ?_) ?_ ?_) <;> omega
  · rcases Nat.lt_or_ge (2 * (n * q % p)) p with near | far
    · refine .inl (roundsTo_of_between pos (fun isEdge => absurd isEdge edge) ?_ ?_) <;> omega
    · refine .inr (roundsTo_of_between pos (fun isEdge => absurd isEdge edge) ?_ ?_) <;> omega

/-- With 17 digits one of the two decimals is rounded to the magnitude. -/
lemma isSome_nearest? (pos : 0 < n) (reached : one * 10 ^ k.toNat ≤ n * 10 ^ (-k).toNat) :
    (nearest? n k 17).isSome := by
  have close : 10 ^ 16 * (one * 10 ^ (k - 16).toNat) ≤ n * 10 ^ (-(k - 16)).toNat := by
    obtain ⟨j, up, down⟩ : ∃ j, 16 + (k - 16).toNat = k.toNat + j ∧
        (-(k - 16)).toNat = (-k).toNat + j := ⟨(-(k - 16)).toNat - (-k).toNat, by omega, by omega⟩
    calc 10 ^ 16 * (one * 10 ^ (k - 16).toNat) = one * 10 ^ k.toNat * 10 ^ j := by
          rw [Nat.mul_left_comm, ← Nat.pow_add, up, Nat.pow_add, Nat.mul_assoc]
      _ ≤ n * 10 ^ (-k).toNat * 10 ^ j := Nat.mul_le_mul_right _ reached
      _ = n * 10 ^ (-(k - 16)).toNat := by rw [down, Nat.pow_add, Nat.mul_assoc]
  rw [nearest?_eq (e := k - 16) (by omega), chosen]
  rcases roundsTo_below_or_above pos (Nat.pow_pos (by decide))
    (Nat.mul_pos one_pos (Nat.pow_pos (by decide))) close with here | here
  · rw [here]
    split <;> simp_all
  · rw [here]
    split <;> simp_all

/-- The search succeeds if it does so for one of the lengths that it goes through. -/
lemma exists_nearest?_eq_shortestFrom {fuel i : Nat} (small : i < fuel)
    (found : (nearest? n k (length + i)).isSome) :
    ∃ l, nearest? n k l = some (shortestFrom n k fuel length) := by
  induction fuel generalizing length i with
  | zero => cases small
  | succ fuel ih =>
    rw [shortestFrom]
    cases here : nearest? n k length with
    | some d => exact ⟨length, here⟩
    | none =>
      cases i with
      | zero => simp [here] at found
      | succ i =>
        have later : (nearest? n k (length + 1 + i)).isSome := by
          rwa [Nat.add_right_comm, Nat.add_assoc]
        exact ih (Nat.lt_of_succ_lt_succ small) later

/-- **The shortest decimal of a magnitude is rounded to it.** -/
theorem rounded_shortest (h : Representable n) (pos : 0 < n) : (shortest n).rounded = n := by
  rw [shortest, Decimal.rounded_strip]
  have last : (nearest? n (decimalExponent n) (1 + 16)).isSome :=
    isSome_nearest? pos (le_of_decimalExponent pos)
  obtain ⟨l, found⟩ := exists_nearest?_eq_shortestFrom (by decide : 16 < 17) last
  exact rounded_of_nearest? h pos found

/-! ## Powers of ten -/

lemma Decimal.rounded_mono {d d' : Decimal}
    (le : d.significand * 10 ^ d.exponent.toNat * 10 ^ (-d'.exponent).toNat ≤
      d'.significand * 10 ^ d'.exponent.toNat * 10 ^ (-d.exponent).toNat) :
    d.rounded ≤ d'.rounded := by
  refine roundUnits_mono (Nat.pow_pos (by decide)) (Nat.pow_pos (by decide)) ?_
  calc d.significand * (one * 10 ^ d.exponent.toNat) * 10 ^ (-d'.exponent).toNat
      = one * (d.significand * 10 ^ d.exponent.toNat * 10 ^ (-d'.exponent).toNat) := by ring
    _ ≤ one * (d'.significand * 10 ^ d'.exponent.toNat * 10 ^ (-d.exponent).toNat) :=
        Nat.mul_le_mul_left one le
    _ = d'.significand * (one * 10 ^ d'.exponent.toNat) * 10 ^ (-d.exponent).toNat := by ring

/-- A power of ten with no more digits than a decimal is not rounded to a larger magnitude. -/
lemma Decimal.rounded_ten_pow_le {j : Int} (pos : 0 < s)
    (reached : j < e + (Nat.toDigits 10 s).length) :
    (Decimal.mk 1 j).rounded ≤ (Decimal.mk s e).rounded := by
  obtain ⟨l, length, digits⟩ := exists_length_toDigits pos
  refine rounded_mono ?_
  dsimp only
  rw [length] at reached
  calc 1 * 10 ^ j.toNat * 10 ^ (-e).toNat = 10 ^ (j.toNat + (-e).toNat) := by
        rw [Nat.one_mul, Nat.pow_add]
    _ ≤ 10 ^ (l + e.toNat + (-j).toNat) := Nat.pow_le_pow_right (by decide) (by omega)
    _ = 10 ^ l * 10 ^ e.toNat * 10 ^ (-j).toNat := by rw [Nat.pow_add, Nat.pow_add]
    _ ≤ s * 10 ^ e.toNat * 10 ^ (-j).toNat :=
        Nat.mul_le_mul_right _ (Nat.mul_le_mul_right _ digits)

/-- A power of ten with more digits than a decimal is not rounded to a smaller magnitude. -/
lemma Decimal.rounded_le_ten_pow {j : Int} (beyond : e + (Nat.toDigits 10 s).length ≤ j) :
    (Decimal.mk s e).rounded ≤ (Decimal.mk 1 j).rounded := by
  have digits : s < 10 ^ (Nat.toDigits 10 s).length :=
    (Nat.length_toDigits_le_iff (by decide) Nat.length_toDigits_pos).1 (Nat.le_refl _)
  generalize (Nat.toDigits 10 s).length = l at *
  refine rounded_mono ?_
  dsimp only
  calc s * 10 ^ e.toNat * 10 ^ (-j).toNat ≤ 10 ^ l * 10 ^ e.toNat * 10 ^ (-j).toNat :=
        Nat.mul_le_mul_right _ (Nat.mul_le_mul_right _ digits.le)
    _ = 10 ^ (l + e.toNat + (-j).toNat) := by rw [Nat.pow_add, Nat.pow_add]
    _ ≤ 10 ^ (j.toNat + (-e).toNat) := Nat.pow_le_pow_right (by decide) (by omega)
    _ = 1 * 10 ^ j.toNat * 10 ^ (-e).toNat := by rw [Nat.one_mul, Nat.pow_add]

/-- The shortest decimal of a magnitude has fewer digits than a power of ten exactly when the
magnitude is less than what the power is rounded to, if the power is the shortest decimal of
that. -/
lemma length_shortest_le_iff {j : Int} (h : Representable n) (pos : 0 < n)
    (found : shortest n = ⟨s, e⟩) (own : (shortest (Decimal.mk 1 j).rounded).significand = 1)
    (own' : (shortest (Decimal.mk 1 j).rounded).exponent = j) :
    e + (Nat.toDigits 10 s).length ≤ j ↔ n < (Decimal.mk 1 j).rounded := by
  have rounded : (Decimal.mk s e).rounded = n := found ▸ rounded_shortest h pos
  constructor
  · intro beyond
    refine Nat.lt_of_le_of_ne (rounded ▸ Decimal.rounded_le_ten_pow beyond) ?_
    intro same
    rw [← same, found] at own own'
    subst own own'
    simp at beyond
  · intro less
    by_contra reached
    have nonzero : 0 < s := by
      refine Nat.pos_of_ne_zero fun none => pos.ne ?_
      rw [← rounded, none, Decimal.rounded, Nat.zero_mul, roundUnits_zero (Nat.pow_pos (by decide))]
    have := Decimal.rounded_ten_pow_le nonzero (Int.not_le.1 reached)
    omega

end Binary64

namespace Extended

open Binary64

variable {n s : Nat} {e : Int} {negative : Bool}

/-- A decimal fraction that is rounded to a magnitude is read as that magnitude. -/
lemma ofDecimal_of_rounded (h : Representable n) (pos : 0 < n)
    (rounded : (Decimal.mk s e).rounded = n) (fraction : e < 0)
    (short : -400 - (Nat.toDigits 10 s).length ≤ e) :
    ofDecimal negative s e = .finite ⟨negative, n, h⟩ := by
  have nonzero : s ≠ 0 := by
    rintro rfl
    rw [Decimal.rounded, Nat.zero_mul, roundUnits_zero (Nat.pow_pos (by decide))] at rounded
    exact pos.ne rounded
  have ratio : roundUnits (s * one) (Nat.pow 10 e.natAbs) = n := by
    have unit : (-e).toNat = e.natAbs := by omega
    rw [← rounded, Decimal.rounded, Int.toNat_of_nonpos fraction.le, Nat.pow_zero, Nat.mul_one,
      unit, Nat.pow_eq]
  rw [ofDecimal, if_neg nonzero, if_neg (by omega), if_neg (by omega), ofRatio]
  simp only [ratio]
  rw [dif_pos h]

end Extended

end Reflex
