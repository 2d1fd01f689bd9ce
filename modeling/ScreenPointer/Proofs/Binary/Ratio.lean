/-
# Equal ratios round alike

Rounding reads the value of a ratio and not the way it is written, so a decimal
literal stands for one number however many zeros it carries.  The early answers
for exponents far out of range are what rounding the exact ratio would give, and
a number survives the way through a finer format and back.
-/

import ScreenPointer.Binary.Decimal
import ScreenPointer.Proofs.Binary.Rounding

namespace ScreenPointer

theorem nearestEven_mul_mul {factor : Nat} (hfactor : 0 < factor) (num den : Nat) :
    nearestEven (num * factor) (den * factor) = nearestEven num den := by
  have hdiv : num * factor / (den * factor) = num / den := Nat.mul_div_mul_right _ _ hfactor
  have hmod : num * factor % (den * factor) = num % den * factor := Nat.mul_mod_mul_right ..
  have hscale (a b : Nat) : a * factor < b * factor ↔ a < b := Nat.mul_lt_mul_right hfactor
  unfold nearestEven
  dsimp only
  simp only [hdiv, hmod, ← Nat.mul_assoc, hscale]

namespace Format

variable (f : Format)

theorem nearest_mul_mul {factor : Nat} (hfactor : 0 < factor) (num den : Nat) :
    f.nearest (num * factor) (den * factor) = f.nearest num den := by
  unfold nearest
  dsimp only
  rw [Nat.mul_div_mul_right _ _ hfactor, Nat.mul_right_comm den factor,
    nearestEven_mul_mul hfactor]

/-- Equal ratios have one nearest magnitude. -/
theorem nearest_eq_of_cross {a b c d : Nat} (hb : 0 < b) (hd : 0 < d) (h : a * d = c * b) :
    f.nearest a b = f.nearest c d := by
  calc f.nearest a b = f.nearest (a * d) (b * d) := (f.nearest_mul_mul hd a b).symm
    _ = f.nearest (c * b) (d * b) := by rw [h, Nat.mul_comm b d]
    _ = f.nearest c d := f.nearest_mul_mul hb c d

theorem spacing_zero : f.spacing 0 = 1 := by
  have hp := f.precision_pos
  rw [spacing, shift, Nat.log2_zero, Nat.zero_add, Nat.sub_eq_zero_of_le hp, Nat.pow_zero]

/-- Less than half a unit rounds to nothing. -/
theorem nearest_of_small {num den : Nat} (h : 2 * num < den) : f.nearest num den = 0 := by
  have hdiv : num / den = 0 := Nat.div_eq_of_lt (by omega)
  unfold nearest nearestEven
  dsimp only
  rw [hdiv, f.spacing_zero, Nat.mul_one, Nat.mul_one, hdiv, Nat.mod_eq_of_lt (by omega), if_pos h]

/-- A whole number of units past the ceiling rounds past it. -/
theorem ceiling_le_nearest {units : Nat} (h : 2 ^ f.ceiling ≤ units) :
    2 ^ f.ceiling ≤ f.nearest units 1 := by
  have hsome : units ≠ 0 := Nat.ne_of_gt (Nat.lt_of_lt_of_le (Nat.two_pow_pos _) h)
  calc 2 ^ f.ceiling ≤ 2 ^ units.log2 :=
        Nat.pow_le_pow_right (by decide) ((Nat.le_log2 hsome).mpr h)
    _ = 2 ^ (units / 1).log2 := by rw [Nat.div_one]
    _ ≤ f.nearest units 1 := f.binade_le_nearest (by rwa [Nat.div_one])

end Format

namespace Binary

variable {f : Format} (negative : Bool)

theorem ofRatio_of_nearest {m num den : Nat} (holds : f.Holds m) (h : f.nearest num den = m) :
    ofRatio negative num den = finite negative m holds := by
  subst h
  exact dif_pos holds.2

theorem ofRatio_of_past {num den : Nat} (h : 2 ^ f.ceiling ≤ f.nearest num den) :
    ofRatio negative num den = (infinite negative : Binary f) :=
  dif_neg (Nat.not_lt.mpr h)

theorem ofRatio_eq_of_cross {a b c d : Nat} (hb : 0 < b) (hd : 0 < d) (h : a * d = c * b) :
    (ofRatio negative a b : Binary f) = ofRatio negative c d := by
  have hnearest := f.nearest_eq_of_cross hb hd h
  by_cases hbelow : f.nearest c d < 2 ^ f.ceiling
  · have holds : f.Holds (f.nearest c d) := ⟨f.spacing_dvd_nearest c d, hbelow⟩
    rw [ofRatio_of_nearest negative holds hnearest, ofRatio_of_nearest negative holds rfl]
  · have hpast := Nat.le_of_not_lt hbelow
    rw [ofRatio_of_past negative hpast, ofRatio_of_past negative (hnearest ▸ hpast)]

end Binary

/-! ## Decimals -/

namespace Decimal

/-- Only one side of the ratio has a power of ten. -/
theorem ratio_eq (d : Decimal) :
    d.ratio = (d.digits * 10 ^ d.exponent.toNat, 10 ^ (-d.exponent).toNat) := by
  unfold ratio
  split
  · rename_i hdown
    rw [show d.exponent.toNat = 0 by omega, show (-d.exponent).toNat = d.exponent.natAbs by omega,
      Nat.pow_zero, Nat.mul_one]
  · rename_i hup
    rw [show (-d.exponent).toNat = 0 by omega, show d.exponent.toNat = d.exponent.natAbs by omega,
      Nat.pow_zero]

theorem ratio_den_pos (d : Decimal) : 0 < d.ratio.2 := by
  rw [ratio_eq]
  exact Nat.pow_pos (by decide)

/-- Ten is more than eight, so every decimal place is worth three binary ones. -/
theorem two_pow_le {d : Decimal} (h : d.digits ≠ 0) :
    2 ^ (d.digits.log2 + 3 * d.exponent.toNat) ≤ d.digits * 10 ^ d.exponent.toNat := by
  calc 2 ^ (d.digits.log2 + 3 * d.exponent.toNat)
      = 2 ^ d.digits.log2 * 8 ^ d.exponent.toNat := by rw [Nat.pow_add, Nat.pow_mul]
    _ ≤ d.digits * 10 ^ d.exponent.toNat :=
        Nat.mul_le_mul (Nat.log2_self_le h) (Nat.pow_le_pow_left (by decide) _)

/-- And so it is after the point. -/
theorem digits_lt {d : Decimal} {places : Nat}
    (h : d.digits.log2 + 1 + places ≤ 3 * (-d.exponent).toNat) :
    d.digits * 2 ^ places < 10 ^ (-d.exponent).toNat := by
  calc d.digits * 2 ^ places
      < 2 ^ (d.digits.log2 + 1) * 2 ^ places :=
        Nat.mul_lt_mul_of_pos_right Nat.lt_log2_self (Nat.two_pow_pos _)
    _ = 2 ^ (d.digits.log2 + 1 + places) := (Nat.pow_add ..).symm
    _ ≤ 2 ^ (3 * (-d.exponent).toNat) := Nat.pow_le_pow_right (by decide) h
    _ = 8 ^ (-d.exponent).toNat := by rw [Nat.pow_mul]
    _ ≤ 10 ^ (-d.exponent).toNat := Nat.pow_le_pow_left (by decide) _

/-- The same value, perhaps with other digits. -/
def Alike (d e : Decimal) : Prop := d.ratio.1 * e.ratio.2 = e.ratio.1 * d.ratio.2

/-- A digit more, and the point a place further. -/
theorem alike_shift (digits : Nat) (exponent : Int) :
    Alike ⟨digits * 10, exponent⟩ ⟨digits, exponent + 1⟩ := by
  simp only [Alike, ratio_eq]
  have hpow : 10 * 10 ^ exponent.toNat * 10 ^ (-(exponent + 1)).toNat =
      10 ^ (exponent + 1).toNat * 10 ^ (-exponent).toNat := by
    rw [Nat.mul_comm 10, ← Nat.pow_succ, ← Nat.pow_add, ← Nat.pow_add]
    congr 1
    omega
  calc digits * 10 * 10 ^ exponent.toNat * 10 ^ (-(exponent + 1)).toNat
      = digits * (10 * 10 ^ exponent.toNat * 10 ^ (-(exponent + 1)).toNat) := by ac_rfl
    _ = digits * 10 ^ (exponent + 1).toNat * 10 ^ (-exponent).toNat := by rw [hpow]; ac_rfl

end Decimal

namespace Binary

variable {f : Format} (negative : Bool)

/-- The early answers for exponents far out of range are those of the exact ratio. -/
theorem ofDecimal_eq_ofRatio (d : Decimal) :
    (ofDecimal negative d : Binary f) =
      ofRatio negative (d.ratio.1 * 2 ^ f.fraction) d.ratio.2 := by
  have hzero {num den : Nat} (h : 2 * num < den) :
      (ofRatio negative num den : Binary f) = zero negative :=
    ofRatio_of_nearest negative _ (f.nearest_of_small h)
  unfold ofDecimal
  split
  · rename_i hnone
    have hnum : d.ratio.1 = 0 := by rw [d.ratio_eq, hnone, Nat.zero_mul]
    have hden := d.ratio_den_pos
    exact (hzero (by rw [hnum]; omega)).symm
  rename_i hsome
  dsimp only
  split
  · rename_i hlarge
    obtain ⟨hup, hsize⟩ := hlarge
    refine (ofRatio_of_past negative ?_).symm
    rw [d.ratio_eq, show (-d.exponent).toNat = 0 by omega, Nat.pow_zero]
    apply f.ceiling_le_nearest
    calc 2 ^ f.ceiling ≤ 2 ^ (d.digits.log2 + 3 * d.exponent.toNat) :=
          Nat.pow_le_pow_right (by decide) (by omega)
      _ ≤ d.digits * 10 ^ d.exponent.toNat := Decimal.two_pow_le hsome
      _ ≤ _ := Nat.le_mul_of_pos_right _ (Nat.two_pow_pos _)
  split
  · rename_i hsmall
    obtain ⟨hdown, hsize⟩ := hsmall
    refine (hzero ?_).symm
    rw [d.ratio_eq, show d.exponent.toNat = 0 by omega, Nat.pow_zero, Nat.mul_one]
    calc 2 * (d.digits * 2 ^ f.fraction) = d.digits * 2 ^ (f.fraction + 1) := by
          rw [Nat.pow_succ]
          ac_rfl
      _ < 10 ^ (-d.exponent).toNat := Decimal.digits_lt (by omega)
  · rfl

/-- A number is read from the value of a decimal and not from its digits. -/
theorem ofDecimal_of_alike {d e : Decimal} (h : d.Alike e) :
    (ofDecimal negative d : Binary f) = ofDecimal negative e := by
  rw [ofDecimal_eq_ofRatio, ofDecimal_eq_ofRatio]
  apply ofRatio_eq_of_cross negative d.ratio_den_pos e.ratio_den_pos
  calc d.ratio.1 * 2 ^ f.fraction * e.ratio.2 = d.ratio.1 * e.ratio.2 * 2 ^ f.fraction := by ac_rfl
    _ = e.ratio.1 * d.ratio.2 * 2 ^ f.fraction := by rw [h]
    _ = e.ratio.1 * 2 ^ f.fraction * d.ratio.2 := by ac_rfl

end Binary

/-! ## Finer formats -/

namespace Format

structure Refines (g f : Format) : Prop where
  precision : f.precision ≤ g.precision
  fraction : f.fraction ≤ g.fraction
  ceiling : f.ceiling + (g.fraction - f.fraction) ≤ g.ceiling

theorem double_refines_single : double.Refines single := by
  constructor <;> decide

theorem Refines.holds {g f : Format} (h : g.Refines f) {m : Nat} (hm : f.Holds m) :
    g.Holds (m * 2 ^ (g.fraction - f.fraction)) := by
  obtain ⟨hdvd, hbelow⟩ := hm
  refine ⟨?_, ?_⟩
  · by_cases hzero : m = 0
    · rw [hzero, Nat.zero_mul]
      exact Nat.dvd_zero _
    have hlog : (m * 2 ^ (g.fraction - f.fraction)).log2 <
        m.log2 + 1 + (g.fraction - f.fraction) := by
      rw [Nat.log2_lt (Nat.mul_ne_zero hzero (Nat.ne_of_gt (Nat.two_pow_pos _))), Nat.pow_add]
      exact Nat.mul_lt_mul_of_pos_right Nat.lt_log2_self (Nat.two_pow_pos _)
    have hshift : g.shift (m * 2 ^ (g.fraction - f.fraction)) ≤
        f.shift m + (g.fraction - f.fraction) := by
      have hprecision := h.precision
      unfold shift
      omega
    have hspacing : g.spacing (m * 2 ^ (g.fraction - f.fraction)) ∣
        f.spacing m * 2 ^ (g.fraction - f.fraction) := by
      rw [spacing, spacing, ← Nat.pow_add]
      exact Nat.pow_dvd_pow 2 hshift
    exact Nat.dvd_trans hspacing (Nat.mul_dvd_mul_right hdvd _)
  · calc m * 2 ^ (g.fraction - f.fraction)
        < 2 ^ f.ceiling * 2 ^ (g.fraction - f.fraction) :=
          Nat.mul_lt_mul_of_pos_right hbelow (Nat.two_pow_pos _)
      _ = 2 ^ (f.ceiling + (g.fraction - f.fraction)) := (Nat.pow_add ..).symm
      _ ≤ 2 ^ g.ceiling := Nat.pow_le_pow_right (by decide) h.ceiling

end Format

namespace Binary

variable {f g : Format}

/-- In a finer format a number keeps its value. -/
theorem convert_of_refines (h : g.Refines f) (negative : Bool) {m : Nat} (holds : f.Holds m) :
    (finite negative m holds).convert g =
      finite negative (m * 2 ^ (g.fraction - f.fraction)) (h.holds holds) := by
  apply ofRatio_of_nearest
  have hunits : m * 2 ^ g.fraction = m * 2 ^ (g.fraction - f.fraction) * 2 ^ f.fraction := by
    rw [Nat.mul_assoc, ← Nat.pow_add, Nat.sub_add_cancel h.fraction]
  rw [hunits]
  exact g.nearest_of_dvd (Nat.two_pow_pos _) (h.holds holds).1

/-- A number comes back unchanged from a finer format, its sign included. -/
theorem convert_convert (h : g.Refines f) (x : Binary f) : (x.convert g).convert f = x := by
  cases x with
  | nan => rfl
  | infinite negative => rfl
  | finite negative m holds =>
      rw [convert_of_refines h]
      apply ofRatio_of_nearest
      have hunits : m * 2 ^ (g.fraction - f.fraction) * 2 ^ f.fraction = m * 2 ^ g.fraction := by
        rw [Nat.mul_assoc, ← Nat.pow_add, Nat.sub_add_cancel h.fraction]
      rw [hunits]
      exact f.nearest_of_dvd (Nat.two_pow_pos _) holds.1

end Binary

end ScreenPointer
