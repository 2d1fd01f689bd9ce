/-
# Rounding keeps order

Rounding an exact ratio to the nearest held magnitude is monotone, stays inside
the binade of the ratio, and leaves a held magnitude as it is.  `Format.place`
says the same of signed counts of units, with everything past the range standing
at the ceiling, so a bound on an exact result that the format holds is a bound on
the rounded one.
-/

import ScreenPointer.Binary.Basic

namespace ScreenPointer

/-! ## Whole numbers -/

theorem le_nearestEven (num den : Nat) : num / den ≤ nearestEven num den := by
  unfold nearestEven
  dsimp only
  split
  · exact Nat.le_refl _
  · split <;> omega

theorem nearestEven_mul {den : Nat} (hden : 0 < den) (n : Nat) :
    nearestEven (n * den) den = n := by
  unfold nearestEven
  dsimp only
  rw [Nat.mul_mod_left, Nat.mul_div_cancel n hden, if_pos (by omega)]

theorem nearestEven_mono {a b : Nat} (den : Nat) (h : a ≤ b) :
    nearestEven a den ≤ nearestEven b den := by
  have hlow : a / den ≤ b / den := Nat.div_le_div_right h
  rcases Nat.lt_or_eq_of_le hlow with hlt | heq
  · have hup := nearestEven_le a den
    have hdown := le_nearestEven b den
    omega
  · -- On one step of the grid the remainders decide.
    have hrest : a % den ≤ b % den := by
      have ha := Nat.div_add_mod a den
      have hb := Nat.div_add_mod b den
      rw [heq] at ha
      omega
    unfold nearestEven
    dsimp only
    rw [heq]
    split <;> split <;> (try split) <;> (try split) <;> omega

namespace Format

variable (f : Format)

/-! ## Magnitudes -/

theorem shift_le_log2 (m : Nat) : f.shift m ≤ m.log2 := by
  have hp := f.precision_pos
  unfold shift
  omega

/-- The significand before rounding. -/
theorem div_mul_spacing (num den m : Nat) :
    num / (den * f.spacing m) = num / den / f.spacing m :=
  (Nat.div_div_eq_div_mul num den _).symm

theorem nearest_le_binade (num den : Nat) :
    f.nearest num den ≤ 2 ^ ((num / den).log2 + 1) := by
  have hshift := f.shift_le_log2 (num / den)
  have hsplit : 2 ^ ((num / den).log2 + 1) =
      2 ^ ((num / den).log2 + 1 - f.shift (num / den)) * f.spacing (num / den) := by
    rw [spacing, ← Nat.pow_add]
    congr 1
    omega
  have hlow : num / den / f.spacing (num / den) <
      2 ^ ((num / den).log2 + 1 - f.shift (num / den)) := by
    rw [Nat.div_lt_iff_lt_mul (f.spacing_pos _), ← hsplit]
    exact Nat.lt_log2_self
  have hround := nearestEven_le num (den * f.spacing (num / den))
  rw [div_mul_spacing] at hround
  rw [hsplit]
  exact Nat.mul_le_mul_right _ (by omega)

theorem binade_le_nearest {num den : Nat} (h : num / den ≠ 0) :
    2 ^ (num / den).log2 ≤ f.nearest num den := by
  have hshift := f.shift_le_log2 (num / den)
  have hsplit : 2 ^ (num / den).log2 =
      2 ^ ((num / den).log2 - f.shift (num / den)) * f.spacing (num / den) := by
    rw [spacing, ← Nat.pow_add]
    congr 1
    omega
  have hlow : 2 ^ ((num / den).log2 - f.shift (num / den)) ≤
      num / den / f.spacing (num / den) := by
    rw [Nat.le_div_iff_mul_le (f.spacing_pos _), ← hsplit]
    exact Nat.log2_self_le h
  have hround := le_nearestEven num (den * f.spacing (num / den))
  rw [div_mul_spacing] at hround
  rw [hsplit]
  exact Nat.mul_le_mul_right _ (Nat.le_trans hlow hround)

theorem log2_mono {m n : Nat} (h : m ≤ n) : m.log2 ≤ n.log2 := by
  by_cases hm : m = 0
  · subst hm
    exact Nat.zero_le _
  · have hn : n ≠ 0 := by omega
    exact (Nat.le_log2 hn).mpr (Nat.le_trans (Nat.log2_self_le hm) h)

/-- A larger ratio never rounds to a smaller magnitude. -/
theorem nearest_mono {a b : Nat} (den : Nat) (h : a ≤ b) :
    f.nearest a den ≤ f.nearest b den := by
  have hlog := log2_mono (Nat.div_le_div_right (c := den) h)
  by_cases hsame : f.shift (a / den) = f.shift (b / den)
  · unfold nearest spacing
    rw [hsame]
    exact Nat.mul_le_mul_right _ (nearestEven_mono _ h)
  · -- The coarser grid belongs to a higher binade.
    have hhigher : (a / den).log2 + 1 ≤ (b / den).log2 := by
      unfold shift at hsame
      omega
    have hb : b / den ≠ 0 := by
      intro hzero
      rw [hzero] at hhigher
      simp at hhigher
    calc f.nearest a den ≤ 2 ^ ((a / den).log2 + 1) := f.nearest_le_binade a den
      _ ≤ 2 ^ (b / den).log2 := Nat.pow_le_pow_right (by decide) hhigher
      _ ≤ f.nearest b den := f.binade_le_nearest hb

/-- A held magnitude is its own rounding. -/
theorem nearest_of_dvd {m den : Nat} (hden : 0 < den) (hm : f.spacing m ∣ m) :
    f.nearest (m * den) den = m := by
  obtain ⟨q, hq⟩ := hm
  have hratio : m * den / den = m := Nat.mul_div_cancel m hden
  have hexact : m * den = q * (den * f.spacing m) := by
    calc m * den = f.spacing m * q * den := by rw [← hq]
      _ = q * (den * f.spacing m) := by ac_rfl
  unfold nearest
  dsimp only
  rw [hratio, hexact, nearestEven_mul (Nat.mul_pos hden (f.spacing_pos m)), Nat.mul_comm]
  exact hq.symm

/-! ## Places on the line -/

/-- The place of the number nearest to `num / den` units. -/
def place (num : Int) (den : Nat) : Int :=
  Binary.signed (decide (num < 0)) (min (f.nearest num.natAbs den) (2 ^ f.ceiling))

/-- A place that a finite number of the format can have. -/
def HoldsAt (a : Int) : Prop := f.Holds a.natAbs

instance (a : Int) : Decidable (f.HoldsAt a) := inferInstanceAs (Decidable (f.Holds _))

/-- Twice a held magnitude is held, short of the ceiling. -/
theorem HoldsAt.double {f : Format} {a : Int} (h : f.HoldsAt a)
    (hbelow : (2 * a).natAbs < 2 ^ f.ceiling) : f.HoldsAt (2 * a) := by
  refine ⟨?_, hbelow⟩
  by_cases hzero : a.natAbs = 0
  · have htwice : (2 * a).natAbs = 0 := by omega
    rw [htwice]
    exact Nat.dvd_zero _
  have habs : (2 * a).natAbs = 2 * a.natAbs := by omega
  have hlog : (2 * a.natAbs).log2 = a.natAbs.log2 + 1 := Nat.log2_two_mul hzero
  have hshift : f.shift (2 * a.natAbs) ≤ f.shift a.natAbs + 1 := by
    unfold shift
    omega
  have hspacing : f.spacing (2 * a.natAbs) ∣ 2 * f.spacing a.natAbs := by
    rw [spacing, spacing, ← Nat.pow_succ']
    exact Nat.pow_dvd_pow 2 hshift
  rw [habs]
  exact Nat.dvd_trans hspacing (Nat.mul_dvd_mul_left 2 h.1)

theorem place_of_nonneg {num : Int} (h : 0 ≤ num) (den : Nat) :
    f.place num den = (min (f.nearest num.natAbs den) (2 ^ f.ceiling) : Nat) := by
  simp [place, Binary.signed, Int.not_lt.mpr h]

theorem place_of_neg {num : Int} (h : num < 0) (den : Nat) :
    f.place num den = -((min (f.nearest num.natAbs den) (2 ^ f.ceiling) : Nat) : Int) := by
  simp only [place, Binary.signed, decide_eq_true h, if_true]

/-- Rounding keeps order. -/
theorem place_mono {a b : Int} (den : Nat) (h : a ≤ b) : f.place a den ≤ f.place b den := by
  rcases Int.lt_or_le a 0 with ha | ha
  · rw [f.place_of_neg ha]
    rcases Int.lt_or_le b 0 with hb | hb
    · rw [f.place_of_neg hb]
      have hmono := f.nearest_mono den (show b.natAbs ≤ a.natAbs by omega)
      exact Int.neg_le_neg (Int.ofNat_le.mpr (by omega))
    · rw [f.place_of_nonneg hb]
      exact Int.le_trans (Int.neg_nonpos_of_nonneg (Int.natCast_nonneg _)) (Int.natCast_nonneg _)
  · have hb : 0 ≤ b := by omega
    rw [f.place_of_nonneg ha, f.place_of_nonneg hb]
    have hmono := f.nearest_mono den (show a.natAbs ≤ b.natAbs by omega)
    exact Int.ofNat_le.mpr (by omega)

/-- What is held is not moved by rounding. -/
theorem place_of_holdsAt {a : Int} {d : Nat} (hd : 0 < d) (h : f.HoldsAt a) :
    f.place (a * d) d = a := by
  have hnearest : f.nearest (a * d).natAbs d = a.natAbs := by
    rw [Int.natAbs_mul, Int.natAbs_natCast]
    exact f.nearest_of_dvd hd h.1
  have hbelow : a.natAbs < 2 ^ f.ceiling := h.2
  rcases Int.lt_or_le a 0 with ha | ha
  · have hneg : a * d < 0 := Int.mul_neg_of_neg_of_pos ha (by omega)
    rw [f.place_of_neg hneg, hnearest, Nat.min_eq_left (Nat.le_of_lt hbelow)]
    omega
  · rw [f.place_of_nonneg (Int.mul_nonneg ha (by omega)), hnearest,
      Nat.min_eq_left (Nat.le_of_lt hbelow)]
    omega

/-- A held count of whole units is its own place. -/
theorem place_one_of_holdsAt {a : Int} (h : f.HoldsAt a) : f.place a 1 = a := by
  have hplace := f.place_of_holdsAt Nat.one_pos h
  rwa [Int.natCast_one, Int.mul_one] at hplace

/-- Between two held places a rounded result stays between them. -/
theorem place_mem {a b n : Int} {d : Nat} (hd : 0 < d) (ha : f.HoldsAt a) (hb : f.HoldsAt b)
    (hlow : a * d ≤ n) (hhigh : n ≤ b * d) : a ≤ f.place n d ∧ f.place n d ≤ b := by
  constructor
  · calc a = f.place (a * d) d := (f.place_of_holdsAt hd ha).symm
      _ ≤ f.place n d := f.place_mono d hlow
  · calc f.place n d ≤ f.place (b * d) d := f.place_mono d hhigh
      _ = b := f.place_of_holdsAt hd hb

end Format

end ScreenPointer
