/-
# How far rounding goes

The nearest whole number is at most half away, and so a rounded magnitude is at most half a
spacing away.  Up to one the spacing of the four-byte format is at most `2 ^ 125` units, the
24th halving of one: whoever adds or takes away at least that much moves by at least half of
it, however the result is rounded.
-/

import ScreenPointer.Proofs.Display.Bounds

namespace ScreenPointer

/-- The nearest whole number is at most half away. -/
theorem nearestEven_close (num : Nat) {den : Nat} (hden : 0 < den) :
    2 * (nearestEven num den * den) ≤ 2 * num + den ∧
      2 * num ≤ 2 * (nearestEven num den * den) + den := by
  have hsplit : num / den * den + num % den = num := by
    rw [Nat.mul_comm]
    exact Nat.div_add_mod num den
  have hrest := Nat.mod_lt num hden
  have hup : (num / den + 1) * den = num / den * den + den := Nat.succ_mul _ _
  simp only [nearestEven]
  split
  · omega
  · split
    · omega
    · rcases Nat.mod_two_eq_zero_or_one (num / den) with heven | hodd
      · rw [heven, Nat.add_zero]
        omega
      · rw [hodd]
        omega

namespace Format

variable (f : Format)

/-- A rounded magnitude is at most half a spacing away. -/
theorem nearest_close (m : Nat) :
    2 * f.nearest m 1 ≤ 2 * m + f.spacing m ∧ 2 * m ≤ 2 * f.nearest m 1 + f.spacing m := by
  simp only [nearest, Nat.div_one, Nat.one_mul]
  exact nearestEven_close m (f.spacing_pos m)

/-- Below a power of two the spacing is bounded. -/
theorem spacing_le {m k : Nat} (hm : m < 2 ^ k) : f.spacing m ≤ 2 ^ (k - f.precision) := by
  apply Nat.pow_le_pow_right (by decide)
  by_cases hzero : m = 0
  · have hprecision := f.precision_pos
    have hlog : (0 : Nat).log2 = 0 := Nat.log2_zero
    simp only [shift, hzero, hlog]
    omega
  · have hlog := (Nat.log2_lt hzero).mpr hm
    simp only [shift]
    omega

end Format

namespace Binary

/-- Half the widest spacing up to one, in units of the four-byte format. -/
def halfSpacing : Int := 2 ^ 124

/-- Up to one a rounded count of units is at most half the widest spacing away. -/
theorem place_close {n : Int} (hlow : 0 ≤ n) (hhigh : n < 2 * halfPixel) :
    n - halfSpacing ≤ Format.single.place n 1 ∧ Format.single.place n 1 ≤ n + halfSpacing := by
  have hone : (2 * halfPixel) = 2 ^ 149 := by decide +kernel
  have hceiling : 2 ^ 149 + 2 ^ 124 < 2 ^ Format.single.ceiling := by decide +kernel
  have hspacing : Format.single.spacing n.natAbs ≤ 2 * 2 ^ 124 :=
    Format.single.spacing_le (k := 149) (by omega)
  have hclose := Format.single.nearest_close n.natAbs
  rw [Format.place_of_nonneg _ hlow, halfSpacing]
  omega

end Binary

end ScreenPointer
