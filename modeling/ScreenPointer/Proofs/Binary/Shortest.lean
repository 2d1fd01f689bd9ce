/-
# The shortest text reads back

Every ratio in the rounding interval of a magnitude rounds to that magnitude; only
below a power of two does the finer spacing of the next binade matter.  A decimal
grid that is no coarser than half the spacing always has a neighbour in the
interval, and the search reaches such a grid.  So the decimal found for a
magnitude is read as that magnitude again.
-/

import ScreenPointer.Proofs.Binary.Ratio

namespace ScreenPointer

/-- Whatever lies within half a step of `q` rounds to `q`, the ends only if `q` is even. -/
theorem nearestEven_eq {num den q : Nat} (hden : 0 < den) (hlow : 2 * (q * den) ≤ 2 * num + den)
    (hhigh : 2 * num ≤ 2 * (q * den) + den)
    (htie : 2 * num + den = 2 * (q * den) ∨ 2 * num = 2 * (q * den) + den → q % 2 = 0) :
    nearestEven num den = q := by
  unfold nearestEven
  dsimp only
  rcases Nat.lt_or_ge num (q * den) with hbelow | habove
  · obtain ⟨p, rfl⟩ : ∃ p, q = p + 1 := by
      cases q with
      | zero => omega
      | succ p => exact ⟨p, rfl⟩
    rw [Nat.add_mul, Nat.one_mul] at hlow hhigh htie hbelow
    obtain ⟨hdiv, hmod⟩ : num / den = p ∧ num % den = num - p * den := by
      rw [Nat.div_mod_unique hden, Nat.mul_comm den p]
      omega
    rw [hdiv, hmod]
    split
    · omega
    · split <;> omega
  · obtain ⟨hdiv, hmod⟩ : num / den = q ∧ num % den = num - q * den := by
      rw [Nat.div_mod_unique hden, Nat.mul_comm den q]
      omega
    rw [hdiv, hmod]
    split
    · rfl
    · split <;> omega

namespace RoundingInterval

/-- The ratio `num / den` lies in the interval. -/
def Has (range : RoundingInterval) (num den : Nat) : Prop :=
  if range.closed then range.low * den ≤ 4 * num ∧ 4 * num ≤ range.high * den
  else range.low * den < 4 * num ∧ 4 * num < range.high * den

theorem has_of_inside {range : RoundingInterval} {num den : Nat}
    (hlow : range.low * den < 4 * num) (hhigh : 4 * num < range.high * den) :
    range.Has num den := by
  unfold Has
  split
  · exact ⟨Nat.le_of_lt hlow, Nat.le_of_lt hhigh⟩
  · exact ⟨hlow, hhigh⟩

/-- The ends are in the interval, and at an end the interval is closed. -/
theorem Has.bounds {range : RoundingInterval} {num den : Nat} (h : range.Has num den) :
    range.low * den ≤ 4 * num ∧ 4 * num ≤ range.high * den ∧
      (range.low * den = 4 * num ∨ 4 * num = range.high * den → range.closed = true) := by
  unfold Has at h
  split at h
  · rename_i hclosed
    exact ⟨h.1, h.2, fun _ => hclosed⟩
  · exact ⟨Nat.le_of_lt h.1, Nat.le_of_lt h.2, by omega⟩

end RoundingInterval

namespace Format

variable (f : Format)

theorem reads_iff (range : RoundingInterval) (d : Decimal) :
    f.reads range d = true ↔ range.Has (d.ratio.1 * 2 ^ f.fraction) d.ratio.2 := by
  unfold reads RoundingInterval.Has
  dsimp only
  rw [Nat.mul_comm 4]
  split <;> simp

/-! ## Spacing around a magnitude -/

theorem shift_ne_zero {m : Nat} (h : f.spacing m ≠ 1) : f.shift m ≠ 0 := by
  intro hzero
  rw [spacing, hzero] at h
  exact h rfl

theorem log2_of_spacing_ne_one {m : Nat} (h : f.spacing m ≠ 1) :
    m.log2 + 1 = f.precision + f.shift m := by
  have hshift := f.shift_ne_zero h
  unfold shift at hshift ⊢
  omega

/-- A whole number of spacings leaves room for one more in its binade. -/
theorem add_spacing_le_binade {m : Nat} (hm : f.spacing m ∣ m) :
    m + f.spacing m ≤ 2 ^ (m.log2 + 1) := by
  have hbinade : f.spacing m ∣ 2 ^ (m.log2 + 1) :=
    Nat.pow_dvd_pow 2 (Nat.le_succ_of_le (f.shift_le_log2 m))
  have hbelow : m < 2 ^ (m.log2 + 1) := Nat.lt_log2_self
  have hroom := Nat.le_of_dvd (Nat.sub_pos_of_lt hbelow) (Nat.dvd_sub hbinade hm)
  omega

theorem spacing_eq_of_log2 {m n : Nat} (h : n.log2 = m.log2) : f.spacing n = f.spacing m := by
  rw [spacing, spacing, shift, shift, h]

/-- Above a magnitude the spacing stays what it is for one step. -/
theorem spacing_above {m n : Nat} (hzero : m ≠ 0) (hm : f.spacing m ∣ m) (hlow : m ≤ n)
    (hhigh : n < m + f.spacing m) : f.spacing n = f.spacing m := by
  apply f.spacing_eq_of_log2
  rw [Nat.log2_eq_iff (by omega)]
  exact ⟨Nat.le_trans (Nat.log2_self_le hzero) hlow,
    Nat.lt_of_lt_of_le hhigh (f.add_spacing_le_binade hm)⟩

/-- The least magnitude of its binade, where the spacing below is half as wide. -/
def Steps (m : Nat) : Prop := f.spacing m ≠ 1 ∧ m = f.spacing m * 2 ^ (f.precision - 1)

/-- Below any other magnitude it stays for a step as well. -/
theorem spacing_below {m n : Nat} (hm : f.spacing m ∣ m) (hstep : ¬ f.Steps m)
    (hlow : m ≤ n + f.spacing m) (hhigh : n ≤ m) : f.spacing n = f.spacing m := by
  by_cases hone : f.spacing m = 1
  · have hshift : f.shift n ≤ f.shift m := by
      have hlog := log2_mono hhigh
      unfold shift
      omega
    have hle : f.spacing n ≤ f.spacing m := Nat.pow_le_pow_right (by decide) hshift
    have hpos := f.spacing_pos n
    omega
  · have hp := f.precision_pos
    have hlog := f.log2_of_spacing_ne_one hone
    have hzero : m ≠ 0 := by
      rintro rfl
      exact hone f.spacing_zero
    have hbinade : 2 ^ m.log2 = f.spacing m * 2 ^ (f.precision - 1) := by
      rw [spacing, ← Nat.pow_add]
      congr 1
      omega
    have hne : 2 ^ m.log2 ≠ m := fun h => hstep ⟨hone, by rw [← hbinade, h]⟩
    have hleast := Nat.log2_self_le hzero
    -- The next whole number of spacings after the least of the binade is not past `m`.
    have hroom : 2 ^ m.log2 + f.spacing m ≤ m := by
      have hdvd : f.spacing m ∣ m - 2 ^ m.log2 :=
        Nat.dvd_sub hm ⟨_, hbinade⟩
      have hgap := Nat.le_of_dvd (by omega) hdvd
      omega
    apply f.spacing_eq_of_log2
    have hpow := Nat.two_pow_pos m.log2
    rw [Nat.log2_eq_iff (by omega)]
    exact ⟨by omega, Nat.lt_of_le_of_lt hhigh Nat.lt_log2_self⟩

theorem Steps.even {f : Format} {m : Nat} (h : f.Steps m) : m % 2 = 0 := by
  obtain ⟨hone, hm⟩ := h
  have htwo : 2 ∣ f.spacing m :=
    Nat.pow_dvd_pow 2 (Nat.pos_of_ne_zero (f.shift_ne_zero hone))
  exact Nat.mod_eq_zero_of_dvd (Nat.dvd_trans htwo ⟨_, hm⟩)

/-- Below the least magnitude of a binade the spacing is half as wide. -/
theorem Steps.spacing_below {f : Format} {m n : Nat} (h : f.Steps m) (hlow : m ≤ 2 * n)
    (hhigh : n < m) : 2 * f.spacing n = f.spacing m := by
  obtain ⟨hone, hm⟩ := h
  have hp := f.precision_pos
  have hlog := f.log2_of_spacing_ne_one hone
  have hshift := f.shift_ne_zero hone
  have hbinade : m = 2 ^ m.log2 := by
    conv => lhs; rw [hm, spacing, ← Nat.pow_add]
    congr 1
    omega
  obtain ⟨k, hk⟩ : ∃ k, m.log2 = k + 1 := ⟨m.log2 - 1, by omega⟩
  rw [hk] at hbinade
  have hn : n.log2 = k := by
    rw [Nat.pow_succ] at hbinade
    rw [Nat.log2_eq_iff (by omega), Nat.pow_succ]
    omega
  rw [spacing, spacing, ← Nat.pow_succ']
  congr 1
  unfold shift at hshift ⊢
  omega

/-! ## Reading back -/

/-- Rounding to a given multiple of the spacing. -/
theorem nearest_eq_of_spacing {m num den step : Nat} (hden : 0 < den)
    (hstep : f.spacing (num / den) = step) (hm : step ∣ m)
    (hlow : 2 * (m * den) ≤ 2 * num + step * den) (hhigh : 2 * num ≤ 2 * (m * den) + step * den)
    (htie : 2 * num + step * den = 2 * (m * den) ∨ 2 * num = 2 * (m * den) + step * den →
      m / step % 2 = 0) :
    f.nearest num den = m := by
  have hpos : 0 < step := hstep ▸ f.spacing_pos _
  have hwhole : m / step * step = m := Nat.div_mul_cancel hm
  have hplace : m / step * (den * step) = m * den := by
    rw [Nat.mul_comm den, ← Nat.mul_assoc, hwhole]
  have hround : nearestEven num (den * step) = m / step := by
    apply nearestEven_eq (Nat.mul_pos hden hpos)
    all_goals rwa [hplace, Nat.mul_comm den]
  unfold nearest
  dsimp only
  rw [hstep, hround, hwhole]

section Interval

variable {f} {m num den : Nat} (hden : 0 < den) (hm : f.spacing m ∣ m)
include hden hm

/-- The upper half of the rounding interval. -/
theorem nearest_of_above (hzero : m ≠ 0) (habove : m * den ≤ num)
    (hhigh : 2 * num ≤ 2 * (m * den) + f.spacing m * den)
    (htie : 2 * num = 2 * (m * den) + f.spacing m * den → m / f.spacing m % 2 = 0) :
    f.nearest num den = m := by
  have hunit := Nat.mul_pos (f.spacing_pos m) hden
  have hnext : num / den < m + f.spacing m := by
    rw [Nat.div_lt_iff_lt_mul hden, Nat.add_mul]
    omega
  have hsame := f.spacing_above hzero hm ((Nat.le_div_iff_mul_le hden).mpr habove) hnext
  exact f.nearest_eq_of_spacing hden hsame hm (by omega) hhigh fun h => htie (by omega)

/-- The lower half, where the spacing does not change. -/
theorem nearest_of_below (hstep : ¬ f.Steps m) (hbelow : num < m * den)
    (hlow : 2 * (m * den) ≤ 2 * num + f.spacing m * den)
    (htie : 2 * num + f.spacing m * den = 2 * (m * den) → m / f.spacing m % 2 = 0) :
    f.nearest num den = m := by
  have hless : num / den < m := (Nat.div_lt_iff_lt_mul hden).mpr hbelow
  have hnear : m ≤ num / den + f.spacing m := by
    rw [← Nat.add_mul_div_right _ _ hden, Nat.le_div_iff_mul_le hden]
    omega
  have hsame := f.spacing_below hm hstep hnear (Nat.le_of_lt hless)
  exact f.nearest_eq_of_spacing hden hsame hm hlow (by omega) fun h => htie (by omega)

/-- The lower half of a binade's least magnitude, which is a quarter of a step wide: half a
step of the grid below.  There the magnitude is an even number of steps. -/
theorem nearest_of_step (hzero : m ≠ 0) (hstep : f.Steps m) (hbelow : num < m * den)
    (hlow : 4 * (m * den) ≤ 4 * num + f.spacing m * den) : f.nearest num den = m := by
  have hless : num / den < m := (Nat.div_lt_iff_lt_mul hden).mpr hbelow
  have hspan : f.spacing m * den ≤ m * den :=
    Nat.mul_le_mul_right den (Nat.le_of_dvd (Nat.pos_of_ne_zero hzero) hm)
  have hhalf : m / 2 ≤ num / den := by
    have htwo : 2 * (m / 2 * den) = m * den := by
      rw [← Nat.mul_assoc, Nat.mul_div_cancel' (Nat.dvd_of_mod_eq_zero hstep.even)]
    rw [Nat.le_div_iff_mul_le hden]
    omega
  have heven := hstep.even
  have hfine := hstep.spacing_below (by omega) hless
  have hcount : m / f.spacing (num / den) % 2 = 0 := by
    obtain ⟨count, hcount⟩ := hm
    rw [← hfine, Nat.mul_comm 2, Nat.mul_assoc] at hcount
    conv => lhs; rw [hcount]
    rw [Nat.mul_div_cancel_left _ (f.spacing_pos _), Nat.mul_mod_right]
  apply f.nearest_eq_of_spacing hden rfl
  · exact Nat.dvd_trans ⟨2, by omega⟩ hm
  · rw [← hfine, Nat.mul_assoc] at hlow
    omega
  · omega
  · exact fun _ => hcount

end Interval

section Ends

variable (m : Nat)

theorem roundingInterval_high (den : Nat) :
    (f.roundingInterval m).high * den = 4 * (m * den) + 2 * (f.spacing m * den) := by
  simp only [roundingInterval, Nat.add_mul, Nat.mul_assoc]

variable {m}

theorem Steps.roundingInterval_low {f : Format} (h : f.Steps m) (den : Nat) :
    (f.roundingInterval m).low * den = 4 * (m * den) - f.spacing m * den := by
  have hlow : (f.roundingInterval m).low = 4 * m - f.spacing m :=
    congrArg (4 * m - ·) (if_pos h)
  rw [hlow, Nat.sub_mul, Nat.mul_assoc]

theorem roundingInterval_low (h : ¬ f.Steps m) (den : Nat) :
    (f.roundingInterval m).low * den = 4 * (m * den) - 2 * (f.spacing m * den) := by
  have hlow : (f.roundingInterval m).low = 4 * m - 2 * f.spacing m :=
    congrArg (4 * m - ·) (if_neg h)
  rw [hlow, Nat.sub_mul, Nat.mul_assoc, Nat.mul_assoc]

/-- The lower end lies below the magnitude itself. -/
theorem roundingInterval_low_lt {den : Nat} (hspan : 0 < m * den) (hden : 0 < den) :
    (f.roundingInterval m).low * den < 4 * (m * den) := by
  have hstep := Nat.mul_pos (f.spacing_pos m) hden
  by_cases h : f.Steps m
  · rw [h.roundingInterval_low]
    omega
  · rw [f.roundingInterval_low h]
    omega

end Ends

/-- Whatever lies in the rounding interval of a magnitude rounds to it. -/
theorem nearest_of_has {m num den : Nat} (hden : 0 < den) (hzero : m ≠ 0)
    (hm : f.spacing m ∣ m) (h : (f.roundingInterval m).Has num den) : f.nearest num den = m := by
  obtain ⟨hlow, hhigh, hclosed⟩ := h.bounds
  have heven : (f.roundingInterval m).closed = true → m / f.spacing m % 2 = 0 := by
    simp only [roundingInterval, decide_eq_true_eq, imp_self]
  rw [f.roundingInterval_high] at hhigh hclosed
  rcases Nat.lt_or_ge num (m * den) with hbelow | habove
  · by_cases hstep : f.Steps m
    · have hfloor := hstep.roundingInterval_low den
      exact nearest_of_step hden hm hzero hstep hbelow (by omega)
    · have hfloor := f.roundingInterval_low hstep den
      exact nearest_of_below hden hm hstep hbelow (by omega)
        fun htie => heven (hclosed (.inl (by omega)))
  · exact nearest_of_above hden hm hzero habove (by omega)
      fun htie => heven (hclosed (.inr (by omega)))

/-! ## Decimal grids -/

/-- The neighbour below a magnitude on a decimal grid. -/
def gridFloor (m : Nat) (exponent : Int) : Decimal :=
  ⟨m * 10 ^ (-exponent).toNat / (2 ^ f.fraction * 10 ^ exponent.toNat), exponent⟩

def gridCeil (m : Nat) (exponent : Int) : Decimal :=
  ⟨(f.gridFloor m exponent).digits + 1, exponent⟩

/-- A hit reads back; without one neither neighbour does. -/
theorem onGrid?_cases (m : Nat) (exponent : Int) :
    (∃ d, f.onGrid? m exponent = some d ∧ f.reads (f.roundingInterval m) d = true) ∨
      (f.onGrid? m exponent = none ∧
        f.reads (f.roundingInterval m) (f.gridFloor m exponent) = false ∧
        f.reads (f.roundingInterval m) (f.gridCeil m exponent) = false) := by
  have hratio : (if exponent < 0 then (m * 10 ^ exponent.natAbs, 2 ^ f.fraction)
      else (m, 2 ^ f.fraction * 10 ^ exponent.natAbs)) =
        (m * 10 ^ (-exponent).toNat, 2 ^ f.fraction * 10 ^ exponent.toNat) := by
    split
    · rw [show exponent.toNat = 0 by omega, show (-exponent).toNat = exponent.natAbs by omega,
        Nat.pow_zero, Nat.mul_one]
    · rw [show (-exponent).toNat = 0 by omega, show exponent.toNat = exponent.natAbs by omega,
        Nat.pow_zero, Nat.mul_one]
  unfold onGrid?
  dsimp only
  rw [hratio]
  split
  · rename_i hlow hhigh
    refine .inl ⟨_, rfl, ?_⟩
    split
    · exact hlow
    · exact hhigh
  · rename_i hlow _
    exact .inl ⟨_, rfl, hlow⟩
  · rename_i _ hhigh
    exact .inl ⟨_, rfl, hhigh⟩
  · rename_i hlow hhigh
    exact .inr ⟨rfl, hlow, hhigh⟩

theorem onGrid?_reads {m : Nat} {exponent : Int} {d : Decimal}
    (h : f.onGrid? m exponent = some d) : f.reads (f.roundingInterval m) d = true := by
  rcases f.onGrid?_cases m exponent with ⟨e, hsome, hreads⟩ | ⟨hnone, -⟩
  · rw [h] at hsome
    cases hsome
    exact hreads
  · rw [h] at hnone
    cases hnone

/-- On a grid no coarser than half the spacing one neighbour reads back: the one below when
the magnitude lies on the grid, else the one above. -/
theorem onGrid?_isSome {m : Nat} {exponent : Int} (hzero : m ≠ 0)
    (hfine : 2 * (2 ^ f.fraction * 10 ^ exponent.toNat) ≤
      f.spacing m * 10 ^ (-exponent).toNat) :
    (f.onGrid? m exponent).isSome = true := by
  have hden : 0 < 10 ^ (-exponent).toNat := Nat.pow_pos (by decide)
  have hunit : 0 < 2 ^ f.fraction * 10 ^ exponent.toNat :=
    Nat.mul_pos (Nat.two_pow_pos _) (Nat.pow_pos (by decide))
  have hspan : 0 < m * 10 ^ (-exponent).toNat := Nat.mul_pos (Nat.pos_of_ne_zero hzero) hden
  have hsplit := Nat.div_add_mod (m * 10 ^ (-exponent).toNat) (2 ^ f.fraction * 10 ^ exponent.toNat)
  have hrest := Nat.mod_lt (m * 10 ^ (-exponent).toNat) hunit
  have hhas (digits : Nat) :
      f.reads (f.roundingInterval m) ⟨digits, exponent⟩ = true ↔
        (f.roundingInterval m).Has (2 ^ f.fraction * 10 ^ exponent.toNat * digits)
          (10 ^ (-exponent).toNat) := by
    rw [reads_iff, Decimal.ratio_eq]
    dsimp only
    rw [show digits * 10 ^ exponent.toNat * 2 ^ f.fraction =
      2 ^ f.fraction * 10 ^ exponent.toNat * digits by ac_rfl]
  have hceil := f.roundingInterval_high m (10 ^ (-exponent).toNat)
  have hfloor := f.roundingInterval_low_lt hspan hden
  rcases f.onGrid?_cases m exponent with ⟨d, hsome, -⟩ | ⟨-, hlow, hhigh⟩
  · rw [hsome]
    rfl
  · exfalso
    rcases Nat.eq_zero_or_pos
      (m * 10 ^ (-exponent).toNat % (2 ^ f.fraction * 10 ^ exponent.toNat)) with hon | hoff
    · apply Bool.eq_false_iff.mp hlow
      exact (hhas _).mpr (RoundingInterval.has_of_inside (by omega) (by omega))
    · apply Bool.eq_false_iff.mp hhigh
      refine (hhas (m * 10 ^ (-exponent).toNat / (2 ^ f.fraction * 10 ^ exponent.toNat) + 1)).mpr
        (RoundingInterval.has_of_inside ?_ ?_)
      all_goals
        rw [Nat.mul_add, Nat.mul_one]
        omega

/-! ## The search -/

theorem firstGrid?_reads {m grids : Nat} {exponent : Int} {d : Decimal}
    (h : f.firstGrid? m exponent grids = some d) : f.reads (f.roundingInterval m) d = true := by
  induction grids generalizing exponent with
  | zero => cases h
  | succ grids ih =>
      unfold firstGrid? at h
      split at h
      · rename_i hit
        cases h
        exact f.onGrid?_reads hit
      · exact ih h

/-- A hit on any grid of the search ends it. -/
theorem firstGrid?_isSome {m grids finer : Nat} {exponent : Int} (hfiner : finer < grids)
    (h : (f.onGrid? m (exponent - finer)).isSome = true) :
    (f.firstGrid? m exponent grids).isSome = true := by
  induction grids generalizing exponent finer with
  | zero => omega
  | succ grids ih =>
      unfold firstGrid?
      split
      · rfl
      · rename_i hmiss
        cases finer with
        | zero =>
            rw [Int.natCast_zero, Int.sub_zero, hmiss] at h
            cases h
        | succ finer =>
            refine ih (Nat.lt_of_succ_lt_succ hfiner) ?_
            rwa [show exponent - 1 - finer = exponent - (finer + 1 : Nat) by omega]

end Format

theorem lt_ten_pow_decimalLength (n : Nat) : n < 10 ^ decimalLength n :=
  (Nat.length_toDigits_le_iff (by decide) Nat.length_toDigits_pos).mp (Nat.le_refl _)

theorem ten_pow_le_of_decimalLength {n : Nat} (h : n ≠ 0) : 10 ^ (decimalLength n - 1) ≤ n := by
  rcases Nat.eq_zero_or_pos (decimalLength n - 1) with hone | hmore
  · rw [hone]
    exact Nat.pos_of_ne_zero h
  · apply Nat.le_of_not_lt
    intro hlt
    have hlength := (Nat.length_toDigits_le_iff (b := 10) (by decide) hmore).mpr hlt
    unfold decimalLength at hmore hlength
    omega

/-- The leading digit of a ratio is not above it. -/
theorem leadingExponent_le {num den : Nat} (hnum : 0 < num) (hden : 0 < den) :
    den * 10 ^ (leadingExponent num den).toNat ≤ num * 10 ^ (-leadingExponent num den).toNat := by
  unfold leadingExponent
  split
  · rename_i hwhole
    have hdiv : num / den ≠ 0 := Nat.ne_of_gt (Nat.div_pos hwhole hden)
    have hlength : 0 < decimalLength (num / den) := Nat.length_toDigits_pos
    rw [show ((decimalLength (num / den) : Int) - 1).toNat = decimalLength (num / den) - 1 by omega,
      show (-((decimalLength (num / den) : Int) - 1)).toNat = 0 by omega, Nat.pow_zero, Nat.mul_one]
    calc den * 10 ^ (decimalLength (num / den) - 1) ≤ den * (num / den) :=
          Nat.mul_le_mul_left den (ten_pow_le_of_decimalLength hdiv)
      _ ≤ num := Nat.mul_div_le num den
  · rw [show (-(decimalLength ((den - 1) / num) : Int)).toNat = 0 by omega, Int.neg_neg,
      Int.toNat_natCast, Nat.pow_zero, Nat.mul_one]
    have hlength := lt_ten_pow_decimalLength ((den - 1) / num)
    rw [Nat.div_lt_iff_lt_mul hnum, Nat.mul_comm] at hlength
    omega

namespace Format

variable (f : Format)

theorem le_precision_mul_spacing (m : Nat) : m ≤ 2 ^ f.precision * f.spacing m := by
  calc m ≤ 2 ^ (m.log2 + 1) := Nat.le_of_lt Nat.lt_log2_self
    _ ≤ 2 ^ (f.precision + f.shift m) :=
        Nat.pow_le_pow_right (by decide) (by unfold shift; omega)
    _ = 2 ^ f.precision * f.spacing m := Nat.pow_add ..

/-- As many decimal digits as there are binary ones are always enough. -/
theorem last_grid_fine (hp : 2 ≤ f.precision) {m : Nat} {lead exponent : Int}
    (hlead : 2 ^ f.fraction * 10 ^ lead.toNat ≤ m * 10 ^ (-lead).toNat)
    (hlast : exponent = lead - (f.precision - 1 : Nat)) :
    2 * (2 ^ f.fraction * 10 ^ exponent.toNat) ≤ f.spacing m * 10 ^ (-exponent).toNat := by
  have hdigits : 2 ^ f.precision * 2 ≤ 10 ^ (f.precision - 1) := by
    obtain ⟨more, hmore⟩ : ∃ more, f.precision = more + 2 := ⟨f.precision - 2, by omega⟩
    rw [hmore]
    calc 2 ^ (more + 2) * 2 = 2 ^ more * 8 := by rw [Nat.pow_add]; omega
      _ ≤ 10 ^ more * 10 := Nat.mul_le_mul (Nat.pow_le_pow_left (by decide) _) (by decide)
      _ = 10 ^ (more + 2 - 1) := by rw [← Nat.pow_succ]; rfl
  have hplaces : 10 ^ lead.toNat * 10 ^ (-exponent).toNat =
      10 ^ exponent.toNat * 10 ^ (-lead).toNat * 10 ^ (f.precision - 1) := by
    rw [← Nat.pow_add, ← Nat.pow_add, ← Nat.pow_add]
    congr 1
    omega
  have hcommon : 0 < 10 ^ (-lead).toNat * 2 ^ f.precision :=
    Nat.mul_pos (Nat.pow_pos (by decide)) (Nat.two_pow_pos _)
  apply Nat.le_of_mul_le_mul_right _ hcommon
  calc 2 * (2 ^ f.fraction * 10 ^ exponent.toNat) * (10 ^ (-lead).toNat * 2 ^ f.precision)
      = 2 ^ f.fraction * (10 ^ exponent.toNat * 10 ^ (-lead).toNat) * (2 ^ f.precision * 2) := by
        ac_rfl
    _ ≤ 2 ^ f.fraction * (10 ^ exponent.toNat * 10 ^ (-lead).toNat) *
          10 ^ (f.precision - 1) := Nat.mul_le_mul_left _ hdigits
    _ = 2 ^ f.fraction * 10 ^ lead.toNat * 10 ^ (-exponent).toNat := by
        rw [Nat.mul_assoc, ← hplaces, Nat.mul_assoc]
    _ ≤ m * 10 ^ (-lead).toNat * 10 ^ (-exponent).toNat := Nat.mul_le_mul_right _ hlead
    _ ≤ 2 ^ f.precision * f.spacing m * 10 ^ (-lead).toNat * 10 ^ (-exponent).toNat :=
        Nat.mul_le_mul_right _ (Nat.mul_le_mul_right _ (f.le_precision_mul_spacing m))
    _ = f.spacing m * 10 ^ (-exponent).toNat * (10 ^ (-lead).toNat * 2 ^ f.precision) := by
        ac_rfl

/-- The shortest decimal of a magnitude is the one that was found, or the same with ten
tenths as one. -/
theorem exists_alike_shortest (hp : 2 ≤ f.precision) {m : Nat} (hzero : m ≠ 0) :
    ∃ d : Decimal, d.Alike (f.shortest m) ∧ f.reads (f.roundingInterval m) d = true := by
  have hlead := leadingExponent_le (Nat.pos_of_ne_zero hzero) (Nat.two_pow_pos f.fraction)
  have hlast := f.onGrid?_isSome hzero (f.last_grid_fine hp hlead rfl)
  have hfound := f.firstGrid?_isSome (Nat.sub_one_lt_of_lt hp) hlast
  obtain ⟨d, hd⟩ := Option.isSome_iff_exists.mp hfound
  refine ⟨d, ?_, f.firstGrid?_reads hd⟩
  unfold shortest
  rw [if_neg hzero]
  dsimp only
  rw [hd]
  dsimp only
  split
  · rename_i hten
    obtain ⟨digits, exponent⟩ := d
    subst hten
    exact Decimal.alike_shift 1 exponent
  · exact rfl

end Format

namespace Binary

variable {f : Format}

/-- The shortest decimal of a number is read as that number. -/
theorem ofDecimal_shortest (hp : 2 ≤ f.precision) (negative : Bool) {m : Nat} (holds : f.Holds m) :
    ofDecimal negative (f.shortest m) = finite negative m holds := by
  by_cases hzero : m = 0
  · subst hzero
    rfl
  obtain ⟨d, halike, hreads⟩ := f.exists_alike_shortest hp hzero
  rw [← ofDecimal_of_alike negative halike, ofDecimal_eq_ofRatio]
  apply ofRatio_of_nearest
  exact f.nearest_of_has d.ratio_den_pos hzero holds.1 ((f.reads_iff _ d).mp hreads)

end Binary

end ScreenPointer
