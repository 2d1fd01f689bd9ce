/-
# Numbers without a sign

Rounding a ratio without a sign gives a number without one, be it infinite, and so does dividing
or adding such numbers.  They are never negative, and to add a zero to one of them changes
nothing, which is not so of the negative zero.
-/

import ScreenPointer.Proofs.Binary.Order
import ScreenPointer.Proofs.Binary.Ratio

namespace ScreenPointer

namespace Binary

variable {f : Format} {x y : Binary f} {a : Int}

def Unsigned (x : Binary f) : Prop := x = infinite false ∨ ∃ m holds, x = finite false m holds

theorem Unsigned.exists_position (h : x.Unsigned) : ∃ a, x.position = some a ∧ 0 ≤ a := by
  rcases h with rfl | ⟨m, holds, rfl⟩
  · exact ⟨_, rfl, Int.natCast_nonneg _⟩
  · exact ⟨_, rfl, Int.natCast_nonneg _⟩

theorem unsigned_ofRatio (num den : Nat) : (ofRatio false num den : Binary f).Unsigned := by
  unfold ofRatio
  split
  · exact .inr ⟨_, _, rfl⟩
  · exact .inl rfl

theorem unsigned_ofInt {i : Int} (h : 0 ≤ i) : (ofInt i : Binary f).Unsigned := by
  rw [ofInt, decide_eq_false (Int.not_lt.mpr h)]
  exact unsigned_ofRatio _ _

/-- A quotient by a positive finite number is rounded from magnitudes alone. -/
theorem finite_div {m n : Nat} (hm : f.Holds m) (hn : f.Holds n) (hsome : n ≠ 0) :
    finite false m hm / finite false n hn = ofRatio false (m * 2 ^ f.fraction) n :=
  if_neg hsome

theorem Unsigned.div (h : x.Unsigned) {n : Nat} (hn : f.Holds n) (hsome : n ≠ 0) :
    (x / finite false n hn).Unsigned := by
  rcases h with rfl | ⟨m, hm, rfl⟩
  · exact .inl rfl
  · rw [finite_div hm hn hsome]
    exact unsigned_ofRatio _ _

/-- A sum of something that is not negative and something without a sign has none. -/
theorem Unsigned.add (hy : y.Unsigned) (hx : x.position = some a) (ha : 0 ≤ a)
    (hfinite : a.natAbs < 2 ^ f.ceiling) : (x + y).Unsigned := by
  obtain ⟨s, m, holds, rfl, rfl⟩ := eq_finite_of_position hx hfinite
  rcases hy with rfl | ⟨n, holds', rfl⟩
  · exact .inl rfl
  · have hn : (0 : Int) ≤ signed false n := Int.natCast_nonneg n
    have hsum : 0 ≤ signed s m + signed false n := Int.add_nonneg ha hn
    change (Binary.add _ _).Unsigned
    unfold Binary.add
    dsimp only
    split
    · rw [Bool.and_false]
      exact .inr ⟨_, _, rfl⟩
    · rw [decide_eq_false (Int.not_lt.mpr hsum)]
      exact unsigned_ofRatio _ _

/-! ## Adding nothing -/

theorem ofRatio_zero (negative : Bool) {den : Nat} (hden : 0 < den) :
    (ofRatio negative 0 den : Binary f) = zero negative :=
  ofRatio_of_nearest negative _ (f.nearest_of_small (by omega))

theorem zero_eq : (0 : Binary f) = zero false := by
  change ofRatio false (0 * 2 ^ f.fraction) 1 = _
  rw [Nat.zero_mul]
  exact ofRatio_zero false Nat.one_pos

/-- A sum with a zero is rounded to itself, but for the sign if it is a zero. -/
theorem finite_add_zero {s : Bool} {m : Nat} (holds : f.Holds m) (negative : Bool)
    (hzero : m = 0 → s = (s && negative)) :
    finite s m holds + zero negative = finite s m holds := by
  change Binary.add _ (finite negative 0 _) = _
  unfold Binary.add
  dsimp only
  rw [signed_zero, Int.add_zero]
  split
  · rename_i hsum
    have hm : m = 0 := by
      rw [← natAbs_signed s m, hsum]
      rfl
    subst hm
    rw [← hzero rfl]
    rfl
  · rename_i hsum
    have hsign : decide (signed s m < 0) = s := by
      cases s with
      | false => exact decide_eq_false (Int.not_lt.mpr (Int.natCast_nonneg m))
      | true =>
          change ¬ -(m : Int) = 0 at hsum
          change decide (-(m : Int) < 0) = true
          exact decide_eq_true (by omega)
    have hnearest := f.nearest_of_dvd Nat.one_pos holds.1
    rw [Nat.mul_one] at hnearest
    rw [hsign, natAbs_signed]
    exact ofRatio_of_nearest s holds hnearest

/-- Adding zero changes nothing but the sign of a zero. -/
theorem Unsigned.add_zero (h : x.Unsigned) : x + 0 = x := by
  rw [zero_eq]
  rcases h with rfl | ⟨m, holds, rfl⟩
  · rfl
  · exact finite_add_zero holds false fun _ => rfl

/-- Taking zero away changes nothing. -/
theorem sub_zero (hx : x.position = some a) (hfinite : a.natAbs < 2 ^ f.ceiling) : x - 0 = x := by
  obtain ⟨s, m, holds, rfl, rfl⟩ := eq_finite_of_position hx hfinite
  rw [zero_eq]
  exact finite_add_zero holds true fun _ => (Bool.and_true s).symm

end Binary

end ScreenPointer
