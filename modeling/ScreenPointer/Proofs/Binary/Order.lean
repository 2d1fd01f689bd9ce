/-
# Where results stand

Every operation on finite numbers is given by places on the line: the place of
the result is the rounded place of the exact result.  With monotone rounding this
turns bounds on operands into bounds on results, without looking at signs,
zeros or bit patterns again.
-/

import ScreenPointer.Proofs.Binary.Rounding

namespace ScreenPointer

namespace Binary

variable {f : Format} {x y : Binary f} {a b : Int}

/-! ## Signs and magnitudes -/

@[simp]
theorem natAbs_signed (negative : Bool) (m : Nat) : (signed negative m).natAbs = m := by
  cases negative <;> simp [signed]

@[simp]
theorem signed_zero (negative : Bool) : signed negative 0 = 0 := by
  cases negative <;> rfl

theorem signed_pos {negative : Bool} {m : Nat} (h : 0 < signed negative m) :
    negative = false ∧ 0 < m := by
  cases negative with
  | false => exact ⟨rfl, Int.natCast_pos.mp h⟩
  | true =>
      change 0 < -(m : Int) at h
      omega

/-- The magnitude of zero needs no sign. -/
theorem signed_eq_of_ne_zero {first second : Bool} {m : Nat} (h : m ≠ 0 → first = second) :
    signed first m = signed second m := by
  by_cases hm : m = 0
  · simp [hm]
  · rw [h hm]

/-! ## Finite numbers -/

/-- A number below the ceiling is finite, and its place is one the format holds. -/
theorem eq_finite_of_position (hx : x.position = some a) (ha : a.natAbs < 2 ^ f.ceiling) :
    ∃ negative m holds, x = finite negative m holds ∧ signed negative m = a := by
  cases x with
  | nan => cases hx
  | infinite negative =>
      cases hx
      rw [natAbs_signed] at ha
      exact absurd ha (Nat.lt_irrefl _)
  | finite negative m holds => exact ⟨negative, m, holds, rfl, Option.some.inj hx⟩

theorem holdsAt_of_position (hx : x.position = some a) (ha : a.natAbs < 2 ^ f.ceiling) :
    f.HoldsAt a := by
  obtain ⟨negative, m, holds, -, rfl⟩ := eq_finite_of_position hx ha
  rw [Format.HoldsAt, natAbs_signed]
  exact holds

/-- What stands at the ceiling or beyond is infinite. -/
theorem eq_infinite_of_position (hx : x.position = some a) (hpos : 0 ≤ a)
    (ha : ¬ a.natAbs < 2 ^ f.ceiling) : x = infinite false := by
  cases x with
  | nan => cases hx
  | infinite negative =>
      cases hx
      have hceiling := Nat.two_pow_pos f.ceiling
      cases negative with
      | false => rfl
      | true =>
          change 0 ≤ -((2 ^ f.ceiling : Nat) : Int) at hpos
          omega
  | finite negative m holds =>
      cases hx
      rw [natAbs_signed] at ha
      exact absurd holds.2 ha

theorem position_ofRatio (negative : Bool) (num den : Nat) :
    (ofRatio negative num den : Binary f).position =
      some (signed negative (min (f.nearest num den) (2 ^ f.ceiling))) := by
  unfold ofRatio
  split
  · rename_i hbelow
    rw [Nat.min_eq_left (Nat.le_of_lt hbelow)]
    rfl
  · rename_i hpast
    rw [Nat.min_eq_right (Nat.le_of_not_lt hpast)]
    rfl

/-- A rounded ratio with the sign of its numerator stands at the place of the ratio. -/
theorem position_ofRatio_eq_place {negative : Bool} {num : Int} {n den : Nat}
    (hn : num.natAbs = n) (hsign : n ≠ 0 → negative = decide (num < 0)) :
    (ofRatio negative n den : Binary f).position = some (f.place num den) := by
  rw [position_ofRatio, Format.place, hn]
  congr 1
  apply signed_eq_of_ne_zero
  intro hne
  apply hsign
  rintro rfl
  apply hne
  have hzero : f.nearest 0 den = 0 := by simp [Format.nearest, nearestEven]
  rw [hzero, Nat.zero_min]

/-! ## Operations -/

theorem position_ofInt (i : Int) :
    (ofInt i : Binary f).position = some (f.place (i * (2 ^ f.fraction : Nat)) 1) := by
  have hunit : (0 : Int) < (2 ^ f.fraction : Nat) := Int.ofNat_lt.mpr (Nat.two_pow_pos _)
  apply position_ofRatio_eq_place
  · rw [Int.natAbs_mul, Int.natAbs_natCast]
  · intro _
    refine decide_eq_decide.mpr ⟨fun h => Int.mul_neg_of_neg_of_pos h hunit, fun h => ?_⟩
    exact Int.not_le.mp fun hi => Int.not_le.mpr h (Int.mul_nonneg hi (Int.le_of_lt hunit))

theorem position_neg (hx : x.position = some a) : (-x).position = some (-a) := by
  change x.neg.position = _
  cases x with
  | nan => cases hx
  | infinite negative =>
      cases hx
      cases negative <;> simp [neg, position, signed]
  | finite negative m holds =>
      cases hx
      cases negative <;> simp [neg, position, signed]

/-- An exact sum is rounded once. -/
theorem position_add (hx : x.position = some a) (hy : y.position = some b)
    (ha : a.natAbs < 2 ^ f.ceiling) (hb : b.natAbs < 2 ^ f.ceiling) :
    (x + y).position = some (f.place (a + b) 1) := by
  obtain ⟨s, m, hm, rfl, rfl⟩ := eq_finite_of_position hx ha
  obtain ⟨t, n, hn, rfl, rfl⟩ := eq_finite_of_position hy hb
  change (Binary.add _ _).position = _
  unfold Binary.add
  dsimp only
  split
  · rename_i hzero
    rw [hzero, f.place_one_of_holdsAt ⟨Nat.dvd_zero _, Nat.two_pow_pos _⟩]
    exact congrArg some (signed_zero _)
  · exact position_ofRatio_eq_place rfl fun _ => rfl

theorem position_sub (hx : x.position = some a) (hy : y.position = some b)
    (ha : a.natAbs < 2 ^ f.ceiling) (hb : b.natAbs < 2 ^ f.ceiling) :
    (x - y).position = some (f.place (a - b) 1) :=
  position_add hx (position_neg hy) ha (by rw [Int.natAbs_neg]; exact hb)

/-- An exact product is rounded once. -/
theorem position_mul (hx : x.position = some a) (hy : y.position = some b)
    (ha : a.natAbs < 2 ^ f.ceiling) (hb : b.natAbs < 2 ^ f.ceiling) :
    (x * y).position = some (f.place (a * b) (2 ^ f.fraction)) := by
  obtain ⟨s, m, hm, rfl, rfl⟩ := eq_finite_of_position hx ha
  obtain ⟨t, n, hn, rfl, rfl⟩ := eq_finite_of_position hy hb
  change (Binary.mul _ _).position = _
  unfold Binary.mul
  apply position_ofRatio_eq_place
  · rw [Int.natAbs_mul, natAbs_signed, natAbs_signed]
  · intro hne
    obtain ⟨hm0, hn0⟩ := Nat.mul_ne_zero_iff.mp hne
    have hmpos : (0 : Int) < m := by omega
    have hnpos : (0 : Int) < n := by omega
    have hprod : (0 : Int) < m * n := Int.mul_pos hmpos hnpos
    cases s <;> cases t <;>
      simp only [signed, if_true, Bool.false_eq_true, if_false, Int.mul_neg, Int.neg_mul, Int.neg_neg,
        bne_self_eq_false, Bool.true_bne, Bool.false_bne, Bool.not_false] <;>
      simp [hprod, Int.not_lt.mpr (Int.le_of_lt hprod)]

/-! ## Results past the range -/

/-- Taking away what is not negative never leads up, also when it is infinite. -/
theorem exists_position_sub_le (hx : x.position = some a) (hy : y.position = some b)
    (ha : a.natAbs < 2 ^ f.ceiling) (hb : 0 ≤ b) :
    ∃ c, (x - y).position = some c ∧ c ≤ a := by
  by_cases hfinite : b.natAbs < 2 ^ f.ceiling
  · refine ⟨_, position_sub hx hy ha hfinite, ?_⟩
    calc f.place (a - b) 1 ≤ f.place a 1 := f.place_mono 1 (Int.sub_le_self a hb)
      _ = a := f.place_one_of_holdsAt (holdsAt_of_position hx ha)
  · obtain ⟨s, m, hm, rfl, -⟩ := eq_finite_of_position hx ha
    obtain rfl := eq_infinite_of_position hy hb hfinite
    refine ⟨_, rfl, ?_⟩
    change -((2 ^ f.ceiling : Nat) : Int) ≤ a
    omega

/-- Adding what is not negative never leads down, also when it is infinite. -/
theorem exists_le_position_add (hx : x.position = some a) (hy : y.position = some b)
    (ha : a.natAbs < 2 ^ f.ceiling) (hb : 0 ≤ b) :
    ∃ c, (x + y).position = some c ∧ a ≤ c := by
  by_cases hfinite : b.natAbs < 2 ^ f.ceiling
  · refine ⟨_, position_add hx hy ha hfinite, ?_⟩
    calc a = f.place a 1 := (f.place_one_of_holdsAt (holdsAt_of_position hx ha)).symm
      _ ≤ f.place (a + b) 1 := f.place_mono 1 (Int.le_add_of_nonneg_right hb)
  · obtain ⟨s, m, hm, rfl, -⟩ := eq_finite_of_position hx ha
    obtain rfl := eq_infinite_of_position hy hb hfinite
    refine ⟨_, rfl, ?_⟩
    change a ≤ ((2 ^ f.ceiling : Nat) : Int)
    omega

/-! ## Comparison -/

theorem atMost_iff (hx : x.position = some a) (hy : y.position = some b) :
    x.atMost y = true ↔ a ≤ b := by
  rw [atMost, hx, hy]
  exact decide_eq_true_iff

theorem less_iff (hx : x.position = some a) (hy : y.position = some b) :
    x.less y = true ↔ a < b := by
  rw [less, hx, hy]
  exact decide_eq_true_iff

theorem same_iff (hx : x.position = some a) (hy : y.position = some b) :
    x.same y = true ↔ a = b := by
  rw [same, hx, hy]
  exact decide_eq_true_iff

theorem positions_of_atMost (h : x.atMost y = true) :
    ∃ a b, x.position = some a ∧ y.position = some b ∧ a ≤ b := by
  unfold atMost at h
  split at h
  · rename_i a b hx hy
    exact ⟨a, b, hx, hy, of_decide_eq_true h⟩
  · cases h

theorem atMost_of_less (h : x.less y = true) : x.atMost y = true := by
  unfold less at h
  split at h
  · rename_i a b hx hy
    exact (atMost_iff hx hy).mpr (Int.le_of_lt (of_decide_eq_true h))
  · cases h

theorem atMost_trans {z : Binary f} (hxy : x.atMost y = true) (hyz : y.atMost z = true) :
    x.atMost z = true := by
  obtain ⟨a, b, ha, hb, hab⟩ := positions_of_atMost hxy
  obtain ⟨b', c, hb', hc, hbc⟩ := positions_of_atMost hyz
  obtain rfl := Option.some.inj (hb.symm.trans hb')
  exact (atMost_iff ha hc).mpr (Int.le_trans hab hbc)

def Between (low high v : Binary f) : Prop := low.atMost v = true ∧ v.atMost high = true

instance (low high v : Binary f) : Decidable (Between low high v) :=
  inferInstanceAs (Decidable (_ ∧ _))

theorem between_iff {low high v : Binary f} {c : Int} (hlow : low.position = some a)
    (hhigh : high.position = some b) (hv : v.position = some c) :
    Between low high v ↔ a ≤ c ∧ c ≤ b := by
  rw [Between, atMost_iff hlow hv, atMost_iff hv hhigh]

end Binary

theorem position_zero : (0 : Single).position = some 0 := by decide +kernel

end ScreenPointer
