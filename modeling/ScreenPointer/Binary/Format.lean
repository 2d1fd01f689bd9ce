/-
# Binary floating-point formats

A format fixes how many binary digits a number keeps and how far its range
reaches.  Magnitudes are counted in units of the format's least positive number,
so a magnitude is a natural number, exact sums are integer sums, and comparing
magnitudes is comparing naturals.

The module supplies the spacing of representable magnitudes, rounding of an exact
ratio to the nearest of them with ties to even, and the proof that a rounded
magnitude is one the format can hold.  It says nothing about signs, infinities or
operations; those are in `ScreenPointer.Binary.Basic`.
-/

namespace ScreenPointer

/-- Powers are those of the core library, whatever else a module imports. -/
scoped instance (priority := 2000) corePow {α : Type} [NatPow α] : Pow α Nat := instPowNat

/-- A binary format with gradual underflow. -/
structure Format where
  /-- Binary digits of a full significand. -/
  precision : Nat
  /-- The unit in which magnitudes are counted is `2 ^ -fraction`. -/
  fraction : Nat
  /-- Magnitudes stay below `2 ^ ceiling` units. -/
  ceiling : Nat
  precision_pos : 0 < precision := by decide
  deriving DecidableEq

namespace Format

/-- Four bytes: 24 significant binary digits. -/
def single : Format where
  precision := 24
  fraction := 149
  ceiling := 277

/-- Eight bytes: 53 significant binary digits. -/
def double : Format where
  precision := 53
  fraction := 1074
  ceiling := 2098

variable (f : Format)

/-- How many low binary digits a magnitude of this size loses. -/
def shift (m : Nat) : Nat := m.log2 + 1 - f.precision

/-- Distance from a magnitude to the next larger representable one. -/
def spacing (m : Nat) : Nat := 2 ^ f.shift m

/-- A magnitude is held exactly when it is a whole number of spacings and below the ceiling. -/
def Holds (m : Nat) : Prop := f.spacing m ∣ m ∧ m < 2 ^ f.ceiling

instance (m : Nat) : Decidable (f.Holds m) := inferInstanceAs (Decidable (_ ∧ _))

theorem spacing_pos (m : Nat) : 0 < f.spacing m := Nat.two_pow_pos _

/-- A significand of at most full length, shifted by whole digits, is a whole
number of its own spacings.  The bound is inclusive: rounding up may reach the
next power of two. -/
theorem spacing_dvd_mul_two_pow {q : Nat} (k : Nat) (hq : q ≤ 2 ^ f.precision) :
    f.spacing (q * 2 ^ k) ∣ q * 2 ^ k := by
  have hp := f.precision_pos
  by_cases hzero : q = 0
  · subst hzero; simp
  have hm : q * 2 ^ k ≠ 0 := Nat.mul_ne_zero hzero (Nat.ne_of_gt (Nat.two_pow_pos k))
  rcases Nat.lt_or_eq_of_le hq with hlt | heq
  · have hlog : (q * 2 ^ k).log2 < f.precision + k := by
      rw [Nat.log2_lt hm, Nat.pow_add]
      exact Nat.mul_lt_mul_of_pos_right hlt (Nat.two_pow_pos k)
    have hle : f.shift (q * 2 ^ k) ≤ k := by unfold shift; omega
    exact Nat.dvd_trans (Nat.pow_dvd_pow 2 hle) (Nat.dvd_mul_left _ _)
  · have hpow : q * 2 ^ k = 2 ^ (f.precision + k) := by rw [heq, Nat.pow_add]
    rw [hpow]
    refine Nat.pow_dvd_pow 2 ?_
    have hlog : (2 ^ (f.precision + k)).log2 = f.precision + k := Nat.log2_two_pow
    unfold shift
    omega

end Format

/-- The whole number nearest to `num / den`; halfway goes to the even neighbour. -/
def nearestEven (num den : Nat) : Nat :=
  let low := num / den
  let rest := num % den
  if 2 * rest < den then low
  else if den < 2 * rest then low + 1
  else low + low % 2

theorem nearestEven_le (num den : Nat) : nearestEven num den ≤ num / den + 1 := by
  unfold nearestEven
  dsimp only
  split
  · omega
  · split <;> omega

namespace Format

variable (f : Format)

/-- The magnitude nearest to `num / den` units among those with the format's
spacing; halfway goes to the even significand.  The ceiling is not applied. -/
def nearest (num den : Nat) : Nat :=
  let step := f.spacing (num / den)
  nearestEven num (den * step) * step

/-- Rounding lands on a whole number of spacings. -/
theorem spacing_dvd_nearest (num den : Nat) :
    f.spacing (f.nearest num den) ∣ f.nearest num den := by
  refine f.spacing_dvd_mul_two_pow (f.shift (num / den)) ?_
  refine Nat.le_trans (nearestEven_le _ _) ?_
  have hdiv : num / (den * f.spacing (num / den)) = num / den / f.spacing (num / den) :=
    (Nat.div_div_eq_div_mul num den _).symm
  rw [hdiv]
  refine Nat.div_lt_of_lt_mul ?_
  refine Nat.lt_of_lt_of_le (Nat.lt_log2_self (n := num / den)) ?_
  rw [spacing, ← Nat.pow_add]
  exact Nat.pow_le_pow_right (by decide) (by unfold shift; omega)

end Format

end ScreenPointer
