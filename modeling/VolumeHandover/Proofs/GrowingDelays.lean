import VolumeHandover.Backoff
import VolumeHandover.Proofs.Rounding
import Mathlib.Order.Monotone.Basic
import Mathlib.Tactic.NormNum

set_option autoImplicit false

/-! # Delays that grow

The delays of a backoff never get shorter, provided that the longest one is at most `2^62`
nanoseconds, which are 146 years (`Backoff.delayAfter_mono`). Up to there a size in nanoseconds is
cut to a duration without a loss: that seconds and nanoseconds are cut on their own does no harm
(`Duration.ofDouble_eq`), because the quotient by a billion is never rounded up to the next second.
-/

namespace VolumeHandover

open Double

/-! ## Sizes up to `2^62` -/

namespace Double

/-- A number is at most `2^62`, and a multiple of a power of two that is at most `2^9`. -/
def Fits (q : ℚ) : Prop :=
  ∃ (m : Nat) (e : Int), m ≤ 2 ^ 53 ∧ leastExponent ≤ e ∧ e ≤ 9 ∧ q = m * 2 ^ e

theorem representable_bound : Representable (2 ^ 62) :=
  ⟨2 ^ 52, 10, by decide, by decide, by norm_num⟩

theorem fits_rounded {q : ℚ} (hq : 0 ≤ q) (small : q ≤ 2 ^ 62) : Fits (rounded q) := by
  obtain ⟨m, e, rounds, value⟩ := rounds_rounded hq
  by_cases fine : e ≤ 9
  · exact ⟨m, e, rounds.significand_le, rounds.least, fine, value⟩
  · -- the unit is larger only at the bound itself
    have wider : (2 : ℚ) ^ (10 : Int) ≤ 2 ^ e := zpow_le_zpow_right₀ one_le_two (by omega)
    have normal : e ≠ leastExponent := by
      rintro rfl
      exact fine (by decide)
    have above := rounds.above.resolve_left normal
    have bound : (2 : ℚ) ^ 52 * 2 ^ (10 : Int) = 2 ^ 62 := by norm_num
    have same : q = 2 ^ 62 := by linarith
    refine ⟨2 ^ 53, 9, le_refl _, by decide, le_refl _, ?_⟩
    rw [same, rounded_of_representable representable_bound]
    norm_num

theorem Fits.nonneg {q : ℚ} (fits : Fits q) : 0 ≤ q := by
  obtain ⟨m, e, -, -, -, rfl⟩ := fits
  exact units_nonneg m e

theorem Fits.le {q : ℚ} (fits : Fits q) : q ≤ 2 ^ 62 := by
  obtain ⟨m, e, most, -, fine, rfl⟩ := fits
  have most' : (m : ℚ) ≤ 2 ^ 53 := by exact_mod_cast most
  have unit : (2 : ℚ) ^ e ≤ 2 ^ (9 : Int) := zpow_le_zpow_right₀ one_le_two fine
  calc (m * 2 ^ e : ℚ) ≤ 2 ^ 53 * 2 ^ (9 : Int) :=
        mul_le_mul most' unit (unit_pos e).le (by norm_num)
    _ = 2 ^ 62 := by norm_num

theorem Fits.floor_le {q : ℚ} (fits : Fits q) : ⌊q⌋₊ ≤ 2 ^ 62 := by
  have le : (⌊q⌋₊ : ℚ) ≤ 2 ^ 62 := (Nat.floor_le fits.nonneg).trans fits.le
  exact_mod_cast le

/-- Below a multiple of a billion a number that fits keeps the distance of its unit. -/
theorem unit_le_sub {m k : Nat} {e : Int} (fine : e ≤ 9)
    (less : (m * 2 ^ e : ℚ) < (k + 1) * 1000000000) :
    (2 : ℚ) ^ e ≤ (k + 1) * 1000000000 - m * 2 ^ e := by
  have unit := unit_pos e
  -- a billion is a multiple of `2^9`, so the two are multiples of the unit
  obtain ⟨t, ht⟩ := Int.le.dest fine
  have billion : (1000000000 : ℚ) = 1953125 * 2 ^ t * 2 ^ e := by
    rw [mul_assoc, ← unit_add, ht]
    norm_num
  have multiple : ((k + 1) * 1000000000 : ℚ) = ((k + 1) * (1953125 * 2 ^ t) : Nat) * 2 ^ e := by
    rw [billion]
    push_cast
    ring
  rw [multiple] at less ⊢
  generalize (k + 1) * (1953125 * 2 ^ t) = total at *
  have step : (m + 1 : ℚ) ≤ total := by exact_mod_cast lt_of_mul_lt_mul_right less unit.le
  calc (2 : ℚ) ^ e = (m + 1) * 2 ^ e - m * 2 ^ e := by ring
    _ ≤ total * 2 ^ e - m * 2 ^ e :=
        sub_le_sub_right (mul_le_mul_of_nonneg_right step unit.le) _

/-- A unit that is at most half a billion of another one is at most `2^28` of it. -/
theorem unit_le_of_le_billion {e e' : Int} (le : 2 * (2 : ℚ) ^ e ≤ 1000000000 * 2 ^ e') :
    2 * (2 : ℚ) ^ e ≤ 2 ^ 29 * 2 ^ e' := by
  have unit := unit_pos e'
  have less : (2 : ℚ) ^ (e + 1) < 2 ^ (e' + (30 : Nat)) := by
    rw [unit_succ, unit_add]
    linarith
  have places : e + 1 < e' + (30 : Nat) := (zpow_lt_zpow_iff_right₀ one_lt_two).mp less
  calc 2 * (2 : ℚ) ^ e = 2 ^ (e + 1) := (unit_succ e).symm
    _ ≤ 2 ^ (e' + (29 : Nat)) := zpow_le_zpow_right₀ one_le_two (by omega)
    _ = 2 ^ 29 * 2 ^ e' := unit_add e' 29

/-- The quotient by a billion is not rounded up to the next whole number. -/
theorem rounded_div_lt {q : ℚ} {k : Nat} (fits : Fits q) (less : q < (k + 1) * 1000000000) :
    rounded (q / 1000000000) < k + 1 := by
  have nonneg : 0 ≤ q / 1000000000 := div_nonneg fits.nonneg (by norm_num)
  obtain ⟨M, E, rounds, value⟩ := rounds_rounded nonneg
  obtain ⟨m, e, most, -, fine, rfl⟩ := fits
  rw [value]
  by_contra reached
  have reached := not_lt.mp reached
  -- rounding would have to cross the distance to the next second, which is a unit of `q` at least
  have distance := unit_le_sub fine less
  have lower := rounds.lower
  have cross : 2 * (2 : ℚ) ^ e ≤ 1000000000 * 2 ^ E := by
    rw [le_div_iff₀ (by norm_num)] at lower
    linarith
  have unit := unit_pos E
  -- then the unit of the quotient is so large that `q` has too many places
  have coarse := unit_le_of_le_billion cross
  rcases rounds.above with least | above
  · have wide : (M : ℚ) ≤ 2 ^ 53 := by exact_mod_cast rounds.significand_le
    have tiny : (2 : ℚ) ^ E ≤ 2 ^ (-54 : Int) := by
      rw [least]
      exact zpow_le_zpow_right₀ one_le_two (by decide)
    have half : (M * 2 ^ E : ℚ) ≤ 1 / 2 :=
      calc (M * 2 ^ E : ℚ) ≤ 2 ^ 53 * 2 ^ (-54 : Int) := mul_le_mul wide tiny unit.le (by norm_num)
        _ = 1 / 2 := by norm_num
    have positive : (0 : ℚ) ≤ k := Nat.cast_nonneg k
    linarith
  · rw [le_div_iff₀ (by norm_num)] at above
    have wide : (m : ℚ) ≤ 2 ^ 53 := by exact_mod_cast most
    have places := mul_le_mul_of_nonneg_right wide (unit_pos e).le
    linarith

/-- So the seconds in a number of nanoseconds may be cut from the rounded quotient. -/
theorem floor_rounded_div {q : ℚ} (fits : Fits q) :
    ⌊rounded (q / 1000000000)⌋₊ = ⌊q⌋₊ / 1000000000 := by
  have bound := fits.floor_le
  generalize hk : ⌊q⌋₊ / 1000000000 = k
  have first : k * 1000000000 ≤ ⌊q⌋₊ := hk ▸ Nat.div_mul_le_self _ _
  have last : ⌊q⌋₊ + 1 ≤ (k + 1) * 1000000000 := by omega
  have first' : (k : ℚ) ≤ q / 1000000000 := by
    rw [le_div_iff₀ (by norm_num)]
    have cast : (k * 1000000000 : ℚ) ≤ ⌊q⌋₊ := by exact_mod_cast first
    exact cast.trans (Nat.floor_le fits.nonneg)
  have last' : q < (k + 1) * 1000000000 := by
    have cast : (⌊q⌋₊ + 1 : ℚ) ≤ (k + 1) * 1000000000 := by exact_mod_cast last
    exact (Nat.lt_floor_add_one q).trans_le cast
  rw [Nat.floor_eq_iff (rounded_nonneg _)]
  exact ⟨le_rounded (representable_nat (by omega)) (Nat.cast_nonneg k) first',
    rounded_div_lt fits last'⟩

end Double

/-! ## Durations -/

namespace Duration

open Double

theorem value_nanosPerSecond : nanosPerSecond.value = 1000000000 := by
  have exact : Representable ((1000000000 : Nat) : ℚ) := representable_nat (by decide)
  rw [nanosPerSecond, value_ofNat, rounded_of_representable exact]
  norm_num

/-- Up to the bound the length as a double is the length, rounded once. -/
theorem value_toDouble {d : Duration} (small : d.nanos ≤ 2 ^ 62) :
    d.toDouble.value = rounded d.nanos := by
  have split : d.nanos / 1000000000 * 1000000000 + d.nanos % 1000000000 = d.nanos :=
    Nat.div_add_mod' _ _
  have rest : d.nanos % 1000000000 < 1000000000 := Nat.mod_lt _ (by decide)
  have seconds : (Double.ofNat d.seconds).value = d.seconds := by
    rw [value_ofNat, rounded_of_representable (representable_nat ?_)]
    unfold Duration.seconds
    omega
  have nanos : (Double.ofNat (d.nanos % 1000000000)).value = (d.nanos % 1000000000 : Nat) := by
    rw [value_ofNat, rounded_of_representable (representable_nat (by omega))]
  -- whole seconds are multiples of `2^9` nanoseconds
  have whole : Representable (d.seconds * 1000000000) := by
    refine ⟨d.seconds * 1953125, 9, ?_, by decide, ?_⟩
    · unfold Duration.seconds
      omega
    · push_cast
      ring
  have sum : (d.seconds * 1000000000 + (d.nanos % 1000000000 : Nat) : ℚ) = d.nanos := by
    exact_mod_cast split
  rw [toDouble, value_add, value_mul, seconds, value_nanosPerSecond, nanos,
    rounded_of_representable whole, sum]

/-- Up to the bound a length is cut to whole nanoseconds. -/
theorem ofDouble_eq {x : Double} (fits : Fits x.value) : ofDouble x = ⟨⌊x.value⌋₊⟩ := by
  have billion : 0 < nanosPerSecond.value := by
    rw [value_nanosPerSecond]
    norm_num
  have seconds : (x.div nanosPerSecond).floor = ⌊x.value⌋₊ / 1000000000 := by
    rw [floor_eq, value_div x billion, value_nanosPerSecond, floor_rounded_div fits]
  have bound := fits.floor_le
  have power : Nat.pow 2 64 = 18446744073709551616 := rfl
  unfold ofDouble
  rw [seconds, floor_eq]
  generalize ⌊x.value⌋₊ = n at *
  refine congrArg Duration.mk ?_
  omega

end Duration

/-! ## Backoffs -/

namespace Backoff

theorem value_growth : growth.value = 3 / 2 := by
  have exact : Representable (3 / 2) := ⟨3, -1, by decide, by decide, by norm_num⟩
  rw [growth, value_nearest 3 (by decide)]
  norm_num
  exact rounded_of_representable exact

/-- A backoff whose delays are at most the longest, which is within the bound. -/
structure Steady (b : Backoff) : Prop where
  current : b.current.nanos ≤ 2 ^ 62
  maximum : b.maximum.nanos ≤ 2 ^ 62
  le : b.current.toDouble.value ≤ b.maximum.toDouble.value

variable {b : Backoff}

theorem steady_of_le (le : b.current.nanos ≤ b.maximum.nanos) (small : b.maximum.nanos ≤ 2 ^ 62) :
    b.Steady where
  current := le.trans small
  maximum := small
  le := by
    rw [Duration.value_toDouble (le.trans small), Duration.value_toDouble small]
    exact rounded_mono (Nat.cast_nonneg _) (by exact_mod_cast le)

theorem fits_toDouble {d : Duration} (small : d.nanos ≤ 2 ^ 62) : Fits d.toDouble.value := by
  rw [Duration.value_toDouble small]
  exact fits_rounded (Nat.cast_nonneg _) (by exact_mod_cast small)

theorem representable_toDouble {d : Duration} (small : d.nanos ≤ 2 ^ 62) :
    Representable d.toDouble.value := by
  rw [Duration.value_toDouble small]
  exact representable_rounded (Nat.cast_nonneg _)

theorem delay_nanos (steady : b.Steady) : b.delay.nanos = ⌊b.current.toDouble.value⌋₊ := by
  rw [delay, Duration.ofDouble_eq (fits_toDouble steady.current)]

/-- The length of a duration, as a double, is a whole number. -/
theorem exists_nat_toDouble {d : Duration} (small : d.nanos ≤ 2 ^ 62) :
    ∃ n : Nat, d.toDouble.value = n := by
  rw [Duration.value_toDouble small]
  obtain ⟨m, e, rounds, value⟩ := rounds_rounded (q := d.nanos) (Nat.cast_nonneg _)
  rcases le_or_gt 0 e with whole | fraction
  · obtain ⟨t, rfl⟩ := Int.eq_ofNat_of_zero_le whole
    refine ⟨m * 2 ^ t, ?_⟩
    rw [value]
    push_cast
    rfl
  · -- with a unit below one the number is so small that it is not changed
    refine ⟨d.nanos, rounded_of_representable (representable_nat ?_)⟩
    have unit : (2 : ℚ) ^ e ≤ 2 ^ (0 : Int) := zpow_le_zpow_right₀ one_le_two fraction.le
    have below : (d.nanos : ℚ) < 2 ^ 53 := by
      rw [zpow_zero] at unit
      linarith [rounds.below]
    exact_mod_cast below

/-- A delay after which the longest one is not due yet: half as long again is at most that. -/
theorem Steady.product_le (steady : b.Steady)
    (early : (b.maximum.toDouble.div growth).le b.current.toDouble ≠ true) :
    b.current.toDouble.value * (3 / 2) ≤ b.maximum.toDouble.value := by
  have growth_pos : 0 < growth.value := by
    rw [value_growth]
    norm_num
  rw [ne_eq, le_iff, value_div _ growth_pos, value_growth, not_le] at early
  -- otherwise the quotient would be at most the delay, and so would it be when it is rounded
  by_contra more
  have quotient : b.maximum.toDouble.value / (3 / 2) ≤ b.current.toDouble.value := by
    rw [div_le_iff₀ (by norm_num)]
    exact (not_le.mp more).le
  have rounds_down := rounded_le (representable_toDouble steady.current)
    (div_nonneg (value_nonneg _) (by norm_num)) quotient
  exact absurd (rounds_down.trans_lt early) (lt_irrefl _)

/-- A longer duration for the next delay, which is at most the longest, keeps the backoff steady. -/
theorem Steady.next (steady : b.Steady) {next : Duration} (small : next.nanos ≤ 2 ^ 62)
    (up : b.current.toDouble.value ≤ next.nanos)
    (down : (next.nanos : ℚ) ≤ b.maximum.toDouble.value) :
    ({ b with current := next } : Backoff).Steady ∧
      b.current.toDouble.value ≤ next.toDouble.value := by
  have length : next.toDouble.value = rounded next.nanos := Duration.value_toDouble small
  refine ⟨⟨small, steady.maximum, ?_⟩, ?_⟩
  · show next.toDouble.value ≤ b.maximum.toDouble.value
    rw [length]
    exact rounded_le (representable_toDouble steady.maximum) (Nat.cast_nonneg _) down
  · rw [length]
    exact le_rounded (representable_toDouble steady.current) (value_nonneg _) up

/-- One step: the backoff stays steady, and what it hands out does not get less. -/
theorem Steady.grown (steady : b.Steady) :
    b.grown.Steady ∧ b.current.toDouble.value ≤ b.grown.current.toDouble.value := by
  have nonneg := b.current.toDouble.value_nonneg
  by_cases last : (b.maximum.toDouble.div growth).le b.current.toDouble = true
  · have same : b.grown = ⟨b.maximum, b.maximum⟩ := by
      rw [Backoff.grown, if_pos last]
    rw [same]
    exact ⟨⟨steady.maximum, steady.maximum, le_refl _⟩, steady.le⟩
  have short := steady.product_le last
  have product : (b.current.toDouble.mul growth).value =
      rounded (b.current.toDouble.value * (3 / 2)) := by
    rw [value_mul, value_growth]
  have product_nonneg : 0 ≤ b.current.toDouble.value * (3 / 2) :=
    mul_nonneg nonneg (by norm_num)
  have fits : Fits (b.current.toDouble.mul growth).value := by
    rw [product]
    exact fits_rounded product_nonneg (short.trans (fits_toDouble steady.maximum).le)
  have same : b.grown = ⟨⟨⌊(b.current.toDouble.mul growth).value⌋₊⟩, b.maximum⟩ := by
    rw [Backoff.grown, if_neg last, Duration.ofDouble_eq fits]
  rw [same]
  refine steady.next fits.floor_le ?_ ?_
  · -- a whole number that is at most the product is at most the product without its fraction
    obtain ⟨n, whole⟩ := exists_nat_toDouble steady.current
    have up : b.current.toDouble.value ≤ (b.current.toDouble.mul growth).value := by
      rw [product]
      exact le_rounded (representable_toDouble steady.current) nonneg (by linarith)
    rw [whole] at up ⊢
    exact_mod_cast Nat.le_floor up
  · refine (Nat.floor_le fits.nonneg).trans ?_
    rw [product]
    exact rounded_le (representable_toDouble steady.maximum) product_nonneg short

/-- A further delay is not shorter than the one before. -/
theorem delayAfter_le_succ (steady : b.Steady) (count : Nat) :
    (b.delayAfter count).nanos ≤ (b.delayAfter (count + 1)).nanos := by
  induction count generalizing b with
  | zero =>
      obtain ⟨next, grows⟩ := steady.grown
      rw [delayAfter, delayAfter, delayAfter, delay_nanos steady, delay_nanos next]
      exact Nat.floor_mono grows
  | succ count ih =>
      rw [delayAfter, delayAfter]
      exact ih steady.grown.1

/-- **Delays do not get shorter**, if the first one is not longer than the longest, and that is
within the bound. -/
theorem delayAfter_mono (le : b.current.nanos ≤ b.maximum.nanos)
    (small : b.maximum.nanos ≤ 2 ^ 62) {count count' : Nat} (more : count ≤ count') :
    (b.delayAfter count).nanos ≤ (b.delayAfter count').nanos :=
  monotone_nat_of_le_succ (delayAfter_le_succ (steady_of_le le small)) more

-- Beyond the bound a delay can be rounded up past the longest one, which is due next.
example :
    let b : Backoff := ⟨⟨6067764287333332791⟩, ⟨9101646431000000000⟩⟩
    (b.delayAfter 2).nanos < (b.delayAfter 1).nanos := by decide +kernel

end Backoff

end VolumeHandover
