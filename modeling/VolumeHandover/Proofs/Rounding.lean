import VolumeHandover.Double
import Mathlib.Algebra.Order.Floor.Semifield
import Mathlib.Data.Rat.Floor
import Mathlib.Tactic.Linarith
import Mathlib.Tactic.Positivity
import Mathlib.Tactic.Ring

set_option autoImplicit false

/-! # Rounding to doubles

What the arithmetic of doubles comes to, as functions of rational numbers: each operation is the
exact one followed by `Double.rounded` (`value_mul` and its relatives). Rounding is monotone, and
leaves alone what a double can be (`rounded_mono`, `rounded_of_representable`); these two facts are
enough wherever results are compared. How far rounding can go, `Rounds` says in terms of the unit in
the last place.
-/

namespace VolumeHandover

namespace Double

/-! ## Powers of two -/

theorem unit_pos (e : Int) : (0 : ℚ) < 2 ^ e := zpow_pos two_pos e

theorem units_nonneg (m : Nat) (e : Int) : (0 : ℚ) ≤ m * 2 ^ e :=
  mul_nonneg (Nat.cast_nonneg m) (unit_pos e).le

theorem unit_add (e : Int) (k : Nat) : (2 : ℚ) ^ (e + k) = 2 ^ k * 2 ^ e := by
  rw [zpow_add₀ two_ne_zero, zpow_natCast, mul_comm]

theorem unit_succ (e : Int) : (2 : ℚ) ^ (e + 1) = 2 * 2 ^ e := by
  rw [zpow_add_one₀ two_ne_zero, mul_comm]

theorem two_mul_unit_le {e e' : Int} (less : e < e') : 2 * (2 : ℚ) ^ e ≤ 2 ^ e' := by
  rw [← unit_succ]
  exact zpow_le_zpow_right₀ one_le_two less

/-! ## Sizes as numbers -/

/-- The size of a double. -/
def value (x : Double) : ℚ := x.significand * 2 ^ x.exponent

theorem value_nonneg (x : Double) : 0 ≤ x.value := units_nonneg _ _

theorem scaled_pos (n : Nat) (e : Int) : 0 < (scaled n 2 e).2 := by
  unfold scaled
  by_cases h : 0 ≤ e
  · rw [if_pos h]
    exact Nat.one_pos
  · rw [if_neg h]
    exact Nat.pow_pos (by decide)

theorem scaled_value (n : Nat) (e : Int) :
    ((scaled n 2 e).1 : ℚ) / (scaled n 2 e).2 = n * 2 ^ e := by
  unfold scaled
  by_cases h : 0 ≤ e
  · obtain ⟨k, rfl⟩ := Int.eq_ofNat_of_zero_le h
    rw [if_pos h]
    simp
  · obtain ⟨k, hk⟩ := Int.eq_ofNat_of_zero_le (Int.neg_nonneg_of_nonpos (not_le.mp h).le)
    obtain rfl : e = -k := by omega
    rw [if_neg h]
    simp [div_eq_mul_inv]

theorem size_value (x : Double) : (x.size.1 : ℚ) / x.size.2 = x.value := scaled_value _ _

theorem size_pos (x : Double) : 0 < x.size.2 := scaled_pos _ _

theorem fractionLe_iff {a b : Nat × Nat} (ha : 0 < a.2) (hb : 0 < b.2) :
    fractionLe a b = true ↔ (a.1 : ℚ) / a.2 ≤ (b.1 : ℚ) / b.2 := by
  have ha' : (0 : ℚ) < a.2 := Nat.cast_pos.mpr ha
  have hb' : (0 : ℚ) < b.2 := Nat.cast_pos.mpr hb
  rw [fractionLe, decide_eq_true_iff, div_le_div_iff₀ ha' hb']
  exact_mod_cast Iff.rfl

theorem le_iff (x y : Double) : x.le y = true ↔ x.value ≤ y.value := by
  rw [le, fractionLe_iff x.size_pos y.size_pos, size_value, size_value]

theorem floor_eq (x : Double) : x.floor = ⌊x.value⌋₊ := by
  rw [← size_value, Nat.floor_div_eq_div]
  rfl

/-! ## The nearest integer -/

/-- The nearest integer is at most half away, and even if it is just that. -/
theorem nearestQuotient_spec {n d : Nat} (hd : 0 < d) :
    (nearestQuotient n d : ℚ) - 1 / 2 ≤ (n : ℚ) / d ∧
    (n : ℚ) / d ≤ nearestQuotient n d + 1 / 2 ∧
    ((n : ℚ) / d = nearestQuotient n d - 1 / 2 ∨ (n : ℚ) / d = nearestQuotient n d + 1 / 2 →
      Even (nearestQuotient n d)) := by
  have hd' : (0 : ℚ) < d := Nat.cast_pos.mpr hd
  -- the same in natural numbers, where the product of the quotient and `d` counts as one number
  have whole : 2 * (nearestQuotient n d * d) ≤ 2 * n + d ∧
      2 * n ≤ 2 * (nearestQuotient n d * d) + d ∧
      (2 * n + d = 2 * (nearestQuotient n d * d) ∨ 2 * n = 2 * (nearestQuotient n d * d) + d →
        nearestQuotient n d % 2 = 0) := by
    have split : n = n / d * d + n % d := (Nat.div_add_mod' n d).symm
    have rest : n % d < d := Nat.mod_lt n hd
    unfold nearestQuotient
    generalize n / d = below at split
    generalize n % d = left at split rest
    have next : (below + 1) * d = below * d + d := Nat.succ_mul below d
    dsimp only
    split
    case isTrue close =>
      simp only [Bool.or_eq_true, Bool.and_eq_true, decide_eq_true_eq] at close
      omega
    case isFalse far =>
      simp only [Bool.or_eq_true, Bool.and_eq_true, decide_eq_true_eq] at far
      omega
  obtain ⟨lower, upper, tie⟩ := whole
  have lower' : 2 * ((nearestQuotient n d : ℚ) * d) ≤ 2 * n + d := by exact_mod_cast lower
  have upper' : 2 * (n : ℚ) ≤ 2 * (nearestQuotient n d * d) + d := by exact_mod_cast upper
  refine ⟨?_, ?_, fun halfway => Nat.even_iff.mpr (tie ?_)⟩
  · rw [le_div_iff₀ hd']
    linarith
  · rw [div_le_iff₀ hd']
    linarith
  · rcases halfway with below | above
    · rw [div_eq_iff hd'.ne'] at below
      have same : 2 * (n : ℚ) + d = 2 * (nearestQuotient n d * d) := by linarith
      exact .inl (by exact_mod_cast same)
    · rw [div_eq_iff hd'.ne'] at above
      have same : 2 * (n : ℚ) = 2 * (nearestQuotient n d * d) + d := by linarith
      exact .inr (by exact_mod_cast same)

/-! ## The nearest double -/

/-- The number `q` is rounded to `m` units of `2 ^ e`. -/
structure Rounds (q : ℚ) (m : Nat) (e : Int) : Prop where
  least : leastExponent ≤ e
  below : q < 2 ^ 53 * 2 ^ e
  above : e = leastExponent ∨ 2 ^ 52 * 2 ^ e ≤ q
  lower : (m - 1 / 2) * 2 ^ e ≤ q
  upper : q ≤ (m + 1 / 2) * 2 ^ e
  tie : q = (m - 1 / 2) * 2 ^ e ∨ q = (m + 1 / 2) * 2 ^ e → Even m

/-- The unit in the last place: a fraction has 53 binary places from there on, or the exponent is
the least one. -/
theorem lastPlace_spec {n d : Nat} (hn : n ≠ 0) (hd : 0 < d) :
    leastExponent ≤ lastPlace n d ∧ (n : ℚ) / d < 2 ^ 53 * 2 ^ lastPlace n d ∧
      (lastPlace n d = leastExponent ∨ 2 ^ 52 * 2 ^ lastPlace n d ≤ (n : ℚ) / d) := by
  have hd' : (0 : ℚ) < d := Nat.cast_pos.mpr hd
  -- `n / d` lies between the quotients of the powers of two around `n` and `d`
  let e : Int := (n.log2 : Int) - d.log2 - 52
  have power (k : Nat) (j : Int) (A B : Nat) (h : (k : Int) + j = A - B) :
      (2 : ℚ) ^ k * 2 ^ j = 2 ^ A / 2 ^ B := by
    rw [← zpow_natCast, ← zpow_natCast, ← zpow_natCast, ← zpow_add₀ two_ne_zero,
      ← zpow_sub₀ two_ne_zero, h]
  have below : (n : ℚ) / d < 2 ^ 53 * 2 ^ e := by
    have top : (n : ℚ) < 2 ^ (n.log2 + 1) := by exact_mod_cast Nat.lt_log2_self
    have bottom : (2 : ℚ) ^ d.log2 ≤ d := by exact_mod_cast Nat.log2_self_le hd.ne'
    rw [power 53 e (n.log2 + 1) d.log2 (by omega)]
    exact div_lt_div₀ top bottom (by positivity) (by positivity)
  have under : 2 ^ 52 * 2 ^ (e - 1) ≤ (n : ℚ) / d := by
    have top : (2 : ℚ) ^ n.log2 ≤ n := by exact_mod_cast Nat.log2_self_le hn
    have bottom : (d : ℚ) < 2 ^ (d.log2 + 1) := by exact_mod_cast Nat.lt_log2_self
    rw [power 52 (e - 1) n.log2 (d.log2 + 1) (by omega)]
    exact div_le_div₀ (Nat.cast_nonneg n) top hd' bottom.le
  have full_iff : fractionLe (scaled (Nat.pow 2 52) 2 e) (n, d) = true ↔
      2 ^ 52 * 2 ^ e ≤ (n : ℚ) / d := by
    rw [fractionLe_iff (scaled_pos _ _) hd, scaled_value]
    norm_num
  have place : ∃ e' : Int, lastPlace n d = max leastExponent e' ∧
      (n : ℚ) / d < 2 ^ 53 * 2 ^ e' ∧ 2 ^ 52 * 2 ^ e' ≤ (n : ℚ) / d := by
    by_cases full : fractionLe (scaled (Nat.pow 2 52) 2 e) (n, d) = true
    · refine ⟨e, ?_, below, full_iff.mp full⟩
      exact congrArg (max leastExponent) (if_pos full)
    · refine ⟨e - 1, congrArg (max leastExponent) (if_neg full), ?_, under⟩
      have short : (n : ℚ) / d < 2 ^ 52 * 2 ^ e := not_le.mp fun le => full (full_iff.mpr le)
      have double : (2 : ℚ) ^ 53 * 2 ^ (e - 1) = 2 ^ 52 * 2 ^ e := by
        rw [zpow_sub_one₀ two_ne_zero]
        ring
      rwa [double]
  obtain ⟨e', place, below, above⟩ := place
  rw [place]
  refine ⟨le_max_left _ _, below.trans_le ?_, ?_⟩
  · have grows : (2 : ℚ) ^ e' ≤ 2 ^ max leastExponent e' :=
      zpow_le_zpow_right₀ one_le_two (le_max_right _ _)
    linarith
  · rcases le_total leastExponent e' with h | h
    · rw [max_eq_right h]
      exact .inr above
    · exact .inl (max_eq_left h)

theorem rounds_zero : Rounds 0 0 leastExponent := by
  have unit := unit_pos leastExponent
  refine ⟨le_refl _, by positivity, .inl rfl, ?_, ?_, fun _ => Even.zero⟩
  · rw [Nat.cast_zero]
    linarith
  · rw [Nat.cast_zero]
    linarith

theorem nearest_rounds (n : Nat) {d : Nat} (hd : 0 < d) :
    ∃ m e, Rounds (n / d) m e ∧ (nearest n d).value = m * 2 ^ e := by
  by_cases hn : n = 0
  · subst hn
    refine ⟨0, leastExponent, ?_, ?_⟩
    · rw [Nat.cast_zero, zero_div]
      exact rounds_zero
    · rw [nearest, if_pos rfl]
      rfl
  have hd' : (0 : ℚ) < d := Nat.cast_pos.mpr hd
  obtain ⟨least, below, above⟩ := lastPlace_spec hn hd
  have whole_pos := scaled_pos 1 (lastPlace n d)
  have unit := scaled_value 1 (lastPlace n d)
  have shown : nearest n d =
      let m := nearestQuotient (n * (scaled 1 2 (lastPlace n d)).2)
        (d * (scaled 1 2 (lastPlace n d)).1)
      if m = Nat.pow 2 53 then ⟨false, Nat.pow 2 52, lastPlace n d + 1⟩
      else ⟨false, m, lastPlace n d⟩ := by
    rw [nearest, if_neg hn]
  generalize lastPlace n d = e at *
  generalize scaled 1 2 e = u at *
  have hu : (0 : ℚ) < u.2 := Nat.cast_pos.mpr whole_pos
  rw [Nat.cast_one, one_mul] at unit
  have hu₁ : (0 : ℚ) < u.1 := by
    rw [div_eq_iff hu.ne'] at unit
    rw [unit]
    exact mul_pos (unit_pos e) hu
  -- in units of the last place the fraction is what the nearest integer is taken of
  have units : ((n * u.2 : Nat) : ℚ) / (d * u.1 : Nat) = n / d / 2 ^ e := by
    rw [← unit]
    push_cast
    rw [div_div_div_eq]
  have den : 0 < d * u.1 := Nat.mul_pos hd (by exact_mod_cast hu₁)
  obtain ⟨lower, upper, tie⟩ := nearestQuotient_spec (n := n * u.2) den
  rw [units] at lower upper tie
  refine ⟨nearestQuotient (n * u.2) (d * u.1), e, ⟨least, below, above, ?_, ?_, ?_⟩, ?_⟩
  · exact (le_div_iff₀ (unit_pos e)).mp lower
  · exact (div_le_iff₀ (unit_pos e)).mp upper
  · intro halfway
    refine tie (halfway.imp (fun h => ?_) fun h => ?_)
    · rw [h, mul_div_cancel_right₀ _ (unit_pos e).ne']
    · rw [h, mul_div_cancel_right₀ _ (unit_pos e).ne']
  · rw [shown]
    dsimp only
    by_cases carry : nearestQuotient (n * u.2) (d * u.1) = Nat.pow 2 53
    · rw [if_pos carry, carry, value, unit_succ]
      norm_num
      ring
    · rw [if_neg carry]
      rfl

namespace Rounds

variable {q q' : ℚ} {m m' : Nat} {e e' : Int}

theorem significand_le (h : Rounds q m e) : m ≤ 2 ^ 53 := by
  have unit := unit_pos e
  have bound : (m - 1 / 2 : ℚ) < 2 ^ 53 :=
    lt_of_mul_lt_mul_right (h.lower.trans_lt h.below) unit.le
  by_contra more
  have step : (2 ^ 53 + 1 : ℚ) ≤ m := by exact_mod_cast Nat.lt_of_not_le more
  linarith

theorem le_significand (h : Rounds q m e) (normal : e ≠ leastExponent) : 2 ^ 52 ≤ m := by
  have unit := unit_pos e
  have bound : (2 ^ 52 : ℚ) ≤ m + 1 / 2 :=
    le_of_mul_le_mul_right ((h.above.resolve_left normal).trans h.upper) unit
  by_contra less
  have step : (m + 1 : ℚ) ≤ 2 ^ 52 := by exact_mod_cast Nat.lt_of_not_le less
  linarith

/-- The smaller of two numbers has the smaller unit. -/
theorem exponent_le (h : Rounds q m e) (h' : Rounds q' m' e') (le : q ≤ q') : e ≤ e' := by
  by_contra more
  have least := h'.least
  have unit := two_mul_unit_le (not_le.mp more)
  rcases h.above with same | above
  · omega
  · have below := h'.below
    linarith

/-- Rounding is monotone. -/
theorem mono (h : Rounds q m e) (h' : Rounds q' m' e') (le : q ≤ q') :
    (m * 2 ^ e : ℚ) ≤ m' * 2 ^ e' := by
  have unit := unit_pos e
  rcases (h.exponent_le h' le).lt_or_eq with less | same
  · -- a larger unit has a larger range
    have wider := two_mul_unit_le less
    have most : (m : ℚ) ≤ 2 ^ 53 := by exact_mod_cast h.significand_le
    have least := h.least
    have normal : (2 ^ 52 : ℚ) ≤ m' := by exact_mod_cast h'.le_significand (by omega)
    calc (m * 2 ^ e : ℚ) ≤ 2 ^ 53 * 2 ^ e := mul_le_mul_of_nonneg_right most unit.le
      _ = 2 ^ 52 * (2 * 2 ^ e) := by ring
      _ ≤ 2 ^ 52 * 2 ^ e' := mul_le_mul_of_nonneg_left wider (by positivity)
      _ ≤ m' * 2 ^ e' := mul_le_mul_of_nonneg_right normal (unit_pos e').le
  · subst same
    refine mul_le_mul_of_nonneg_right ?_ unit.le
    by_contra more
    have step : (m' + 1 : ℚ) ≤ m := by exact_mod_cast not_le.mp more
    -- then `q` and `q'` are the number halfway between `m'` and `m`, and both would be even
    have between : (m' + 1 / 2 : ℚ) * 2 ^ e ≤ (m - 1 / 2) * 2 ^ e :=
      mul_le_mul_of_nonneg_right (by linarith) unit.le
    have lower := h.lower
    have upper := h'.upper
    have low : q = (m - 1 / 2) * 2 ^ e := by linarith
    have high : q' = (m' + 1 / 2) * 2 ^ e := by linarith
    have next : (m - 1 / 2 : ℚ) = m' + 1 / 2 := by
      refine mul_right_cancel₀ unit.ne' ?_
      linarith
    have succ : m = m' + 1 := by
      have equal : (m : ℚ) = m' + 1 := by linarith
      exact_mod_cast equal
    have even := h.tie (.inl low)
    rw [succ] at even
    exact Nat.not_even_iff_odd.mpr (h'.tie (.inr high)).add_one even

end Rounds

/-! ## Rounding -/

/-- The size of the double nearest to a number that is not negative. -/
def rounded (q : ℚ) : ℚ := (nearest q.num.toNat q.den).value

theorem rounds_rounded {q : ℚ} (hq : 0 ≤ q) : ∃ m e, Rounds q m e ∧ rounded q = m * 2 ^ e := by
  obtain ⟨m, e, rounds, value⟩ := nearest_rounds q.num.toNat q.den_pos
  have same : ((q.num.toNat : Nat) : ℚ) / q.den = q := by
    have num : ((q.num.toNat : Nat) : Int) = q.num := Int.toNat_of_nonneg (Rat.num_nonneg.mpr hq)
    calc ((q.num.toNat : Nat) : ℚ) / q.den = (q.num : ℚ) / q.den := by
          rw [← Int.cast_natCast, num]
      _ = q := q.num_div_den
  rw [same] at rounds
  exact ⟨m, e, rounds, value⟩

theorem rounded_mono {q q' : ℚ} (hq : 0 ≤ q) (le : q ≤ q') : rounded q ≤ rounded q' := by
  obtain ⟨m, e, rounds, value⟩ := rounds_rounded hq
  obtain ⟨m', e', rounds', value'⟩ := rounds_rounded (hq.trans le)
  rw [value, value']
  exact rounds.mono rounds' le

/-- The nearest double depends on the fraction as a number only. -/
theorem value_nearest (n : Nat) {d : Nat} (hd : 0 < d) :
    (nearest n d).value = rounded (n / d) := by
  obtain ⟨m, e, rounds, value⟩ := nearest_rounds n hd
  obtain ⟨m', e', rounds', value'⟩ := rounds_rounded (q := (n : ℚ) / d) (by positivity)
  rw [value, value']
  exact le_antisymm (rounds.mono rounds' le_rfl) (rounds'.mono rounds le_rfl)

/-- The numbers that are sizes of doubles. -/
def Representable (q : ℚ) : Prop :=
  ∃ (m : Nat) (e : Int), m < 2 ^ 53 ∧ leastExponent ≤ e ∧ q = m * 2 ^ e

theorem representable_nat {n : Nat} (small : n < 2 ^ 53) : Representable n :=
  ⟨n, 0, small, by decide, by rw [zpow_zero, mul_one]⟩

theorem representable_rounded {q : ℚ} (hq : 0 ≤ q) : Representable (rounded q) := by
  obtain ⟨m, e, rounds, value⟩ := rounds_rounded hq
  rcases rounds.significand_le.lt_or_eq with less | carry
  · exact ⟨m, e, less, rounds.least, value⟩
  · refine ⟨2 ^ 52, e + 1, by decide, by have := rounds.least; omega, ?_⟩
    rw [value, carry, unit_succ]
    push_cast
    ring

/-- The sizes of doubles are left alone. -/
theorem rounded_of_representable {q : ℚ} (h : Representable q) : rounded q = q := by
  obtain ⟨k, j, small, least, rfl⟩ := h
  have hq : (0 : ℚ) ≤ k * 2 ^ j := units_nonneg k j
  obtain ⟨m, e, rounds, value⟩ := rounds_rounded hq
  have unit := unit_pos e
  have place : e ≤ j := by
    by_contra more
    have wider := two_mul_unit_le (not_le.mp more)
    have bound : (k : ℚ) < 2 ^ 53 := by exact_mod_cast small
    have size := mul_lt_mul_of_pos_right bound (unit_pos j)
    rcases rounds.above with same | above
    · omega
    · linarith
  -- the number is a multiple of the unit, so that there is nothing to be rounded
  obtain ⟨t, rfl⟩ := Int.le.dest place
  have whole : (k : ℚ) * 2 ^ (e + t) = (k * 2 ^ t : Nat) * 2 ^ e := by
    rw [unit_add]
    push_cast
    ring
  have lower := rounds.lower
  have upper := rounds.upper
  rw [whole] at lower upper
  have lower' := le_of_mul_le_mul_right lower unit
  have upper' := le_of_mul_le_mul_right upper unit
  generalize k * 2 ^ t = total at *
  have same : m = total := by
    have le : m ≤ total := by
      have close : (m : ℚ) < total + 1 := by linarith
      exact Nat.lt_succ_iff.mp (by exact_mod_cast close)
    have ge : total ≤ m := by
      have close : (total : ℚ) < m + 1 := by linarith
      exact Nat.lt_succ_iff.mp (by exact_mod_cast close)
    exact Nat.le_antisymm le ge
  rw [value, whole, same]

theorem le_rounded {q r : ℚ} (hr : Representable r) (pos : 0 ≤ r) (le : r ≤ q) : r ≤ rounded q := by
  rw [← rounded_of_representable hr]
  exact rounded_mono pos le

theorem rounded_le {q r : ℚ} (hr : Representable r) (hq : 0 ≤ q) (le : q ≤ r) : rounded q ≤ r := by
  rw [← rounded_of_representable hr]
  exact rounded_mono hq le

theorem rounded_nonneg (q : ℚ) : 0 ≤ rounded q := value_nonneg _

/-! ## Arithmetic -/

theorem value_ofNat (n : Nat) : (ofNat n).value = rounded n := by
  rw [ofNat, value_nearest n Nat.one_pos, Nat.cast_one, div_one]

theorem value_add (x y : Double) : (x.add y).value = rounded (x.value + y.value) := by
  have hx : (x.size.2 : ℚ) ≠ 0 := Nat.cast_ne_zero.mpr x.size_pos.ne'
  have hy : (y.size.2 : ℚ) ≠ 0 := Nat.cast_ne_zero.mpr y.size_pos.ne'
  rw [add, value_nearest _ (Nat.mul_pos x.size_pos y.size_pos), ← size_value, ← size_value,
    div_add_div _ _ hx hy]
  push_cast
  rw [mul_comm (y.size.1 : ℚ)]

theorem value_mul (x y : Double) : (x.mul y).value = rounded (x.value * y.value) := by
  rw [mul, value_nearest _ (Nat.mul_pos x.size_pos y.size_pos), ← size_value, ← size_value,
    div_mul_div_comm]
  push_cast
  rfl

theorem value_div (x : Double) {y : Double} (hy : 0 < y.value) :
    (x.div y).value = rounded (x.value / y.value) := by
  have some_size : 0 < y.size.1 := by
    rw [← size_value] at hy
    refine Nat.pos_of_ne_zero fun none => ?_
    rw [none, Nat.cast_zero, zero_div] at hy
    exact lt_irrefl 0 hy
  rw [div, value_nearest _ (Nat.mul_pos x.size_pos some_size), ← size_value, ← size_value,
    div_div_div_eq]
  push_cast
  rfl

end Double

end VolumeHandover
