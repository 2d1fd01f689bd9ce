/-
# Inside the bounds

Clamping and centring put a point inside the bounds of a viewport, in rounded
arithmetic and for all edges of 32 bits.  Carrying a point into another turn does
not look at the bounds; it stays inside when both viewports frame the whole device
and no side is longer than 2²³ pixels, because then pixel centres are held exactly.
-/

import Mathlib.Algebra.Group.Int.Defs
import Mathlib.Algebra.Group.Nat.Defs
import ScreenPointer.Display.Reorientation
import ScreenPointer.Proofs.Binary.Order

namespace ScreenPointer

open Binary

/-! ## Coordinates -/

/-- Half a pixel, in units of the least positive number. -/
def halfPixel : Int := 2 ^ 148

theorem position_half : (half : Single).position = some halfPixel := by decide +kernel

/-- Up to 2²⁴ times a power of two, no larger than a pixel, is held. -/
theorem holdsAt_mul_two_pow {q : Int} {j : Nat} (hq : q.natAbs ≤ 2 ^ 24) (hj : j ≤ 149) :
    Format.single.HoldsAt (q * ((2 ^ j : Nat) : Int)) := by
  have habs : (q * ((2 ^ j : Nat) : Int)).natAbs = q.natAbs * 2 ^ j := by
    rw [Int.natAbs_mul, Int.natAbs_natCast]
  rw [Format.HoldsAt, habs]
  refine ⟨Format.single.spacing_dvd_mul_two_pow j hq, ?_⟩
  calc q.natAbs * 2 ^ j ≤ 2 ^ 24 * 2 ^ 149 :=
        Nat.mul_le_mul hq (Nat.pow_le_pow_right (by decide) hj)
    _ < 2 ^ Format.single.ceiling := by decide +kernel

/-- Whole and half pixels up to 2²³ are held. -/
theorem holdsAt_halfPixels {q : Int} (hq : q.natAbs ≤ 2 ^ 24) :
    Format.single.HoldsAt (q * halfPixel) :=
  have hhalf : halfPixel = ((2 ^ 148 : Nat) : Int) := by decide +kernel
  hhalf ▸ holdsAt_mul_two_pow hq (by decide)

theorem position_ofInt_pixels (i : Int) :
    (ofInt i : Single).position = some (Format.single.place (2 * i * halfPixel) 1) := by
  have hunits : i * ((2 ^ Format.single.fraction : Nat) : Int) = 2 * i * halfPixel := by
    have hunit : ((2 ^ Format.single.fraction : Nat) : Int) = 2 * halfPixel := by decide +kernel
    rw [hunit]
    ac_rfl
  rw [position_ofInt, hunits]

/-- A moderate whole number is held exactly. -/
theorem position_ofInt_exact {i : Int} (hi : i.natAbs ≤ 2 ^ 23) :
    (ofInt i : Single).position = some (2 * i * halfPixel) := by
  rw [position_ofInt_pixels, Format.place_one_of_holdsAt _ (holdsAt_halfPixels (by omega))]

theorem ofInt_atMost {i j : Int} (h : i ≤ j) : (ofInt i : Single).atMost (ofInt j) = true := by
  rw [atMost_iff (position_ofInt_pixels i) (position_ofInt_pixels j)]
  have hpos : (0 : Int) ≤ halfPixel := by decide +kernel
  exact Format.place_mono _ 1 (Int.mul_le_mul_of_nonneg_right (by omega) hpos)

/-- Whole numbers of moderate length stand far below the ceiling. -/
theorem position_ofInt_of_le {i : Int} {k : Nat} (hk : k ≤ 100) (hi : i.natAbs ≤ 2 ^ k) :
    ∃ a, (ofInt i : Single).position = some a ∧ a.natAbs ≤ 2 ^ (k + 149) := by
  have hheld : ∀ s : Bool, Format.single.HoldsAt (signed s (2 ^ (k + 149))) := by
    intro s
    rw [Format.HoldsAt, natAbs_signed]
    have hspacing := Format.single.spacing_dvd_mul_two_pow (k + 149) (q := 1) (Nat.one_le_two_pow)
    rw [Nat.one_mul] at hspacing
    have hceiling : Format.single.ceiling = 277 := rfl
    exact ⟨hspacing, Nat.pow_lt_pow_right (by decide) (by omega)⟩
  have hunits : (i * ((2 ^ 149 : Nat) : Int)).natAbs ≤ 2 ^ (k + 149) := by
    rw [Int.natAbs_mul, Int.natAbs_natCast, Nat.pow_add]
    exact Nat.mul_le_mul_right _ hi
  obtain ⟨hlow, hhigh⟩ := Format.place_mem (n := i * ((2 ^ 149 : Nat) : Int)) (d := 1) _
    Nat.one_pos (hheld true) (hheld false) (by simp only [signed, if_true]; omega)
    (by simp only [signed, Bool.false_eq_true, if_false]; omega)
  refine ⟨_, position_ofInt i, ?_⟩
  simp only [signed, if_true, Bool.false_eq_true, if_false] at hlow hhigh
  have hfraction : Format.single.fraction = 149 := rfl
  rw [hfraction]
  omega

namespace Bounds

def Contains (b : Bounds) (p : Point) : Prop :=
  Between b.minX b.maxX p.x ∧ Between b.minY b.maxY p.y

instance (b : Bounds) (p : Point) : Decidable (b.Contains p) :=
  inferInstanceAs (Decidable (_ ∧ _))

/-- Whatever is clamped, also not-a-number, becomes a number that is not beyond the upper edge,
and not beyond the lower one unless the edges cross. -/
theorem exists_position_clampAxis {low high : Single} {a b : Int} (hlow : low.position = some a)
    (hhigh : high.position = some b) (v : Single) :
    ∃ c, (clampAxis low high v).position = some c ∧ c ≤ b ∧ (a ≤ c ∨ c = b) := by
  -- After the lower edge was applied there is a number, and it is not below that edge.
  have hraised : ∃ c, (v.maxNum low).position = some c ∧ a ≤ c := by
    unfold maxNum
    cases hv : v.position with
    | none => exact ⟨a, hlow, Int.le_refl a⟩
    | some c =>
        by_cases hbelow : v.less low = true
        · simp only [Option.isNone_some, Bool.false_eq_true, if_false, if_pos hbelow]
          exact ⟨a, hlow, Int.le_refl a⟩
        · simp only [Option.isNone_some, Bool.false_eq_true, if_false, if_neg hbelow]
          rw [less_iff hv hlow] at hbelow
          exact ⟨c, hv, Int.not_lt.mp hbelow⟩
  obtain ⟨c, hc, hac⟩ := hraised
  unfold clampAxis minNum
  by_cases habove : high.less (v.maxNum low) = true
  · simp only [hc, Option.isNone_some, Bool.false_eq_true, if_false, if_pos habove]
    exact ⟨b, hhigh, Int.le_refl b, .inr rfl⟩
  · simp only [hc, Option.isNone_some, Bool.false_eq_true, if_false, if_neg habove]
    rw [less_iff hhigh hc] at habove
    exact ⟨c, rfl, Int.not_lt.mp habove, .inl hac⟩

/-- Between edges that do not cross, whatever is clamped comes out between them. -/
theorem between_clampAxis {low high : Single} (h : low.atMost high = true) (v : Single) :
    Between low high (clampAxis low high v) := by
  obtain ⟨a, b, hlow, hhigh, hab⟩ := positions_of_atMost h
  obtain ⟨c, hc, hcb, hac⟩ := exists_position_clampAxis hlow hhigh v
  exact (between_iff hlow hhigh hc).mpr ⟨hac.elim id fun heq => heq ▸ hab, hcb⟩

/-- The rounded middle of two edges is between them. -/
theorem between_middle {low high : Single} {a b : Int} (hlow : low.position = some a)
    (hhigh : high.position = some b) (ha : a.natAbs ≤ 2 ^ 180) (hb : b.natAbs ≤ 2 ^ 180)
    (hab : a ≤ b) : Between low high ((low + high) * half) := by
  have hfar : ∀ {c : Int}, c.natAbs ≤ 2 ^ 181 → c.natAbs < 2 ^ Format.single.ceiling := fun hc =>
    Nat.lt_of_le_of_lt hc (by decide +kernel)
  have hheld : ∀ {c : Int}, c.natAbs ≤ 2 ^ 180 → Format.single.HoldsAt c →
      Format.single.HoldsAt (2 * c) := fun hc h => h.double (hfar (by omega))
  have hsum := position_add hlow hhigh (hfar (by omega)) (hfar (by omega))
  obtain ⟨hslow, hshigh⟩ := Format.place_mem (n := a + b) (d := 1) _ Nat.one_pos
    (hheld ha (holdsAt_of_position hlow (hfar (by omega))))
    (hheld hb (holdsAt_of_position hhigh (hfar (by omega)))) (by omega) (by omega)
  generalize Format.single.place (a + b) 1 = s at hsum hslow hshigh
  have hmiddle := position_mul hsum position_half (hfar (by omega)) (by decide +kernel)
  have hunit : ((2 ^ Format.single.fraction : Nat) : Int) = 2 * halfPixel := by decide +kernel
  have hpos : (0 : Int) ≤ halfPixel := by decide +kernel
  rw [between_iff hlow hhigh hmiddle]
  apply Format.place_mem _ (Nat.two_pow_pos _)
    (holdsAt_of_position hlow (hfar (by omega))) (holdsAt_of_position hhigh (hfar (by omega)))
  · rw [hunit, ← Int.mul_assoc, Int.mul_comm a 2]
    exact Int.mul_le_mul_of_nonneg_right hslow hpos
  · rw [hunit, ← Int.mul_assoc, Int.mul_comm b 2]
    exact Int.mul_le_mul_of_nonneg_right hshigh hpos

end Bounds

def IsInt32 (i : Int) : Prop := -2 ^ 31 ≤ i ∧ i < 2 ^ 31

instance (i : Int) : Decidable (IsInt32 i) := inferInstanceAs (Decidable (_ ∧ _))

namespace Viewport

/-- A viewport all of whose edges and sides have 32 bits. -/
structure IsShort (v : Viewport) : Prop where
  left : IsInt32 v.left
  top : IsInt32 v.top
  right : IsInt32 v.right
  bottom : IsInt32 v.bottom
  deviceWidth : IsInt32 v.deviceWidth
  deviceHeight : IsInt32 v.deviceHeight

theorem IsShort.naturalSize {v : Viewport} (h : v.IsShort) :
    IsInt32 v.naturalSize.1 ∧ IsInt32 v.naturalSize.2 := by
  unfold Viewport.naturalSize
  split
  · exact ⟨h.deviceHeight, h.deviceWidth⟩
  · exact ⟨h.deviceWidth, h.deviceHeight⟩

theorem IsShort.rotated {v : Viewport} (h : v.IsShort) (rotation : Rotation) :
    (v.rotated rotation).IsShort := by
  have hzero : IsInt32 0 := by decide
  obtain ⟨hwidth, hheight⟩ := h.naturalSize
  unfold Viewport.rotated
  dsimp only
  split
  · exact ⟨hzero, hzero, hheight, hwidth, hheight, hwidth⟩
  · exact ⟨hzero, hzero, hwidth, hheight, hwidth, hheight⟩

theorem isShort_unset : unset.IsShort := by
  refine ⟨?_, ?_, ?_, ?_, ?_, ?_⟩ <;> decide

/-- The point is a place that the viewport leaves the pointer.  A viewport without a
display or with an empty rectangle leaves it any. -/
def Admits (v : Viewport) (p : Point) : Prop :=
  ∀ b, v.bounds? = some b → v.left < v.right → v.top < v.bottom → b.Contains p

variable {v old new : Viewport} {b : Bounds} {p : Point}

theorem bounds?_eq_some (h : v.bounds? = some b) :
    b = ⟨.ofInt v.left, .ofInt v.top, .ofInt (v.right - 1), .ofInt (v.bottom - 1)⟩ := by
  unfold bounds? at h
  split at h
  · exact (Option.some.inj h).symm
  · cases h

theorem admits_of_isValid_false (h : v.isValid = false) (p : Point) : v.Admits p := by
  intro b hb
  rw [bounds?, h] at hb
  cases hb

/-- A clamped point is inside, wherever it came from. -/
theorem admits_clamp (h : v.bounds? = some b) (p : Point) : v.Admits (b.clamp p) := by
  intro b' hb' hwide hhigh
  cases Option.some.inj (h.symm.trans hb')
  cases bounds?_eq_some h
  have hacross := ofInt_atMost (i := v.left) (j := v.right - 1) (by omega)
  have hdown := ofInt_atMost (i := v.top) (j := v.bottom - 1) (by omega)
  dsimp only [Bounds.Contains, Bounds.clamp]
  exact ⟨Bounds.between_clampAxis hacross p.x, Bounds.between_clampAxis hdown p.y⟩

theorem between_center {low high : Int} (hlow : IsInt32 low) (hhigh : IsInt32 high)
    (h : low < high) : Between (ofInt low : Single) (ofInt (high - 1))
      ((ofInt low + ofInt (high - 1)) * half) := by
  unfold IsInt32 at hlow hhigh
  obtain ⟨a, ha, hanear⟩ := position_ofInt_of_le (k := 31) (i := low) (by decide) (by omega)
  obtain ⟨c, hc, hcnear⟩ := position_ofInt_of_le (k := 31) (i := high - 1) (by decide) (by omega)
  have hac := (atMost_iff ha hc).mp (ofInt_atMost (by omega))
  exact Bounds.between_middle ha hc hanear hcnear hac

/-- The middle is inside. -/
theorem admits_center (hshort : v.IsShort) (h : v.bounds? = some b) : v.Admits b.center := by
  intro b' hb' hwide hhigh
  cases Option.some.inj (h.symm.trans hb')
  cases bounds?_eq_some h
  have hacross := between_center hshort.left hshort.right hwide
  have hdown := between_center hshort.top hshort.bottom hhigh
  dsimp only [Bounds.Contains, Bounds.center]
  exact ⟨hacross, hdown⟩

/-! ## The whole device -/

/-- A viewport that shows the whole device, no side longer than 2²³ pixels. -/
structure FramesDevice (v : Viewport) : Prop where
  left : v.left = 0
  top : v.top = 0
  right : v.right = v.deviceWidth
  bottom : v.bottom = v.deviceHeight
  width : v.deviceWidth ≤ 2 ^ 23
  height : v.deviceHeight ≤ 2 ^ 23

theorem framesDevice_unset : unset.FramesDevice := by
  refine ⟨rfl, rfl, rfl, rfl, ?_, ?_⟩ <;> decide

theorem FramesDevice.rotated (h : v.FramesDevice) (rotation : Rotation) :
    (v.rotated rotation).FramesDevice := by
  have hsides : v.naturalSize.1 ≤ 2 ^ 23 ∧ v.naturalSize.2 ≤ 2 ^ 23 := by
    unfold naturalSize
    split
    · exact ⟨h.height, h.width⟩
    · exact ⟨h.width, h.height⟩
  unfold Viewport.rotated
  dsimp only
  split
  · exact ⟨rfl, rfl, rfl, rfl, hsides.2, hsides.1⟩
  · exact ⟨rfl, rfl, rfl, rfl, hsides.1, hsides.2⟩

/-- The centre of a pixel of a side, or a place between such centres. -/
def Centred (side : Int) (v : Single) : Prop :=
  ∃ c, v.position = some c ∧ halfPixel ≤ c ∧ c ≤ (2 * side - 1) * halfPixel

variable {side : Int} {x y : Single}

/-- Exact sums of half pixels that stay between held ones are rounded between them. -/
theorem place_mem_halfPixels {a b n : Int} (ha : a.natAbs ≤ 2 ^ 24) (hb : b.natAbs ≤ 2 ^ 24)
    (hlow : a * halfPixel ≤ n) (hhigh : n ≤ b * halfPixel) :
    a * halfPixel ≤ Format.single.place n 1 ∧ Format.single.place n 1 ≤ b * halfPixel :=
  Format.place_mem _ Nat.one_pos (holdsAt_halfPixels ha) (holdsAt_halfPixels hb)
    (by omega) (by omega)

theorem natAbs_lt_ceiling {c : Int} (h : 0 ≤ c) (h' : c ≤ 2 ^ 24 * halfPixel) :
    c.natAbs < 2 ^ Format.single.ceiling := by
  have hfar : (2 ^ 24 * halfPixel).natAbs < 2 ^ Format.single.ceiling := by decide +kernel
  exact Nat.lt_of_le_of_lt (by omega) hfar

theorem centred_of_between (hside : 1 ≤ side) (hside' : side ≤ 2 ^ 23)
    (h : Between (ofInt 0) (ofInt (side - 1)) x) : Centred side (x + half) := by
  obtain ⟨a, b, h0, hx, hab⟩ := positions_of_atMost h.1
  obtain ⟨b', c, hx', hedge, hbc⟩ := positions_of_atMost h.2
  cases Option.some.inj (hx.symm.trans hx')
  cases Option.some.inj ((position_ofInt_exact (by decide)).symm.trans h0)
  cases Option.some.inj ((position_ofInt_exact (by omega)).symm.trans hedge)
  have hsum := position_add hx position_half
    (natAbs_lt_ceiling (by omega) (by simp only [halfPixel] at *; omega)) (by decide +kernel)
  obtain ⟨hlow, hhigh⟩ := place_mem_halfPixels (a := 1) (b := 2 * side - 1)
    (n := b + halfPixel) (by decide) (by omega) (by simp only [halfPixel] at *; omega)
    (by simp only [halfPixel] at *; omega)
  exact ⟨_, hsum, by simpa using hlow, hhigh⟩

theorem Centred.flip (hside : 1 ≤ side) (hside' : side ≤ 2 ^ 23) (h : Centred side y) :
    Centred side (ofInt side - y) := by
  obtain ⟨c, hy, hlow, hhigh⟩ := h
  have hdifference := position_sub (position_ofInt_exact (i := side) (by omega)) hy
    (natAbs_lt_ceiling (by simp only [halfPixel] at *; omega)
      (by simp only [halfPixel] at *; omega))
    (natAbs_lt_ceiling (by simp only [halfPixel] at *; omega)
      (by simp only [halfPixel] at *; omega))
  obtain ⟨hlow', hhigh'⟩ := place_mem_halfPixels (a := 1) (b := 2 * side - 1)
    (n := 2 * side * halfPixel - c) (by decide) (by omega) (by simp only [halfPixel] at *; omega)
    (by simp only [halfPixel] at *; omega)
  exact ⟨_, hdifference, by simpa using hlow', hhigh'⟩

theorem Centred.between (hside : 1 ≤ side) (hside' : side ≤ 2 ^ 23) (h : Centred side y) :
    Between (ofInt 0) (ofInt (side - 1)) (y - half) := by
  obtain ⟨c, hy, hlow, hhigh⟩ := h
  have hdifference := position_sub hy position_half
    (natAbs_lt_ceiling (by simp only [halfPixel] at *; omega)
      (by simp only [halfPixel] at *; omega)) (by decide +kernel)
  rw [between_iff (position_ofInt_exact (by decide)) (position_ofInt_exact (by omega)) hdifference]
  exact place_mem_halfPixels (a := 2 * 0) (b := 2 * (side - 1)) (by decide) (by omega)
    (by simp only [halfPixel] at *; omega) (by simp only [halfPixel] at *; omega)

def CentredOn (size : Int × Int) (p : Point) : Prop := Centred size.1 p.x ∧ Centred size.2 p.y

/-- A device that has pixels, none of its sides too long. -/
structure HasPixels (v : Viewport) : Prop where
  width : 1 ≤ v.deviceWidth ∧ v.deviceWidth ≤ 2 ^ 23
  height : 1 ≤ v.deviceHeight ∧ v.deviceHeight ≤ 2 ^ 23

theorem HasPixels.toPanel (hv : v.HasPixels) (h : CentredOn (v.deviceWidth, v.deviceHeight) p) :
    CentredOn v.naturalSize (v.toPanel p) := by
  obtain ⟨hx, hy⟩ := h
  have hx' := hx.flip hv.width.1 hv.width.2
  have hy' := hy.flip hv.height.1 hv.height.2
  unfold Viewport.toPanel Viewport.naturalSize
  cases v.rotation with
  | upright => exact ⟨hx, hy⟩
  | quarter => exact ⟨hy', hx⟩
  | half => exact ⟨hx', hy'⟩
  | threeQuarter => exact ⟨hy, hx'⟩

theorem HasPixels.ofPanel (hv : v.HasPixels) (h : CentredOn v.naturalSize p) :
    CentredOn (v.deviceWidth, v.deviceHeight) (v.ofPanel p) := by
  obtain ⟨hx, hy⟩ := h
  unfold Viewport.ofPanel
  unfold Viewport.naturalSize at hx hy
  cases hr : v.rotation with
  | upright =>
      rw [hr] at hx hy
      exact ⟨hx, hy⟩
  | quarter =>
      rw [hr] at hx hy
      exact ⟨hy, hx.flip hv.height.1 hv.height.2⟩
  | half =>
      rw [hr] at hx hy
      exact ⟨hx.flip hv.width.1 hv.width.2, hy.flip hv.height.1 hv.height.2⟩
  | threeQuarter =>
      rw [hr] at hx hy
      exact ⟨hy.flip hv.width.1 hv.width.2, hx⟩

theorem FramesDevice.bounds? (h : v.FramesDevice) (hvalid : v.isValid = true) :
    v.bounds? = some ⟨.ofInt 0, .ofInt 0, .ofInt (v.deviceWidth - 1),
      .ofInt (v.deviceHeight - 1)⟩ := by
  rw [Viewport.bounds?, if_pos hvalid, h.left, h.top, h.right, h.bottom]

/-- A turned panel has the same sides, perhaps exchanged. -/
theorem sides_of_naturalSize (h : old.naturalSize = new.naturalSize) :
    (old.deviceWidth = new.deviceWidth ∧ old.deviceHeight = new.deviceHeight) ∨
      (old.deviceWidth = new.deviceHeight ∧ old.deviceHeight = new.deviceWidth) := by
  unfold Viewport.naturalSize at h
  split at h <;> split at h <;> obtain ⟨hfirst, hsecond⟩ := Prod.mk.inj h
  · exact .inl ⟨hsecond, hfirst⟩
  · exact .inr ⟨hsecond, hfirst⟩
  · exact .inr ⟨hfirst, hsecond⟩
  · exact .inl ⟨hfirst, hsecond⟩

/-- The same panel in another turn. -/
theorem changeTo_eq_reorient (h : old.changeTo new = .reorient) :
    old.display = new.display ∧ old.naturalSize = new.naturalSize := by
  unfold Viewport.changeTo at h
  split at h
  · cases h
  · rename_i hsame
    simpa [not_or] using hsame

/-- A turn of the whole device carries what is inside to what is inside. -/
theorem admits_carry (hold : old.FramesDevice) (hnew : new.FramesDevice)
    (hturn : old.changeTo new = .reorient) (h : old.Admits p) :
    new.Admits (old.carry new p) := by
  intro b hb hwide hhigh
  obtain ⟨hdisplay, hsize⟩ := changeTo_eq_reorient hturn
  have hvalid : new.isValid = true := by
    simp only [Viewport.bounds?] at hb
    split at hb
    · assumption
    · cases hb
  have hvalid' : old.isValid = true := by
    rw [Viewport.isValid, hdisplay]
    exact hvalid
  rw [hnew.left, hnew.right] at hwide
  rw [hnew.top, hnew.bottom] at hhigh
  have hpixels : new.HasPixels := ⟨⟨by omega, hnew.width⟩, ⟨by omega, hnew.height⟩⟩
  have hpixels' : old.HasPixels := by
    rcases sides_of_naturalSize hsize with ⟨hw, hh⟩ | ⟨hw, hh⟩
    · exact ⟨by rw [hw]; exact hpixels.width, by rw [hh]; exact hpixels.height⟩
    · exact ⟨by rw [hw]; exact hpixels.height, by rw [hh]; exact hpixels.width⟩
  -- Inside the old bounds a point is centred, and centred it stays.
  have hcontains := h _ (hold.bounds? hvalid')
    (by rw [hold.left, hold.right]; exact hpixels'.width.1)
    (by rw [hold.top, hold.bottom]; exact hpixels'.height.1)
  dsimp only [Bounds.Contains] at hcontains
  obtain ⟨hx, hy⟩ := hcontains
  have hcentred : CentredOn (old.deviceWidth, old.deviceHeight) ⟨p.x + half, p.y + half⟩ :=
    ⟨centred_of_between hpixels'.width.1 hpixels'.width.2 hx,
      centred_of_between hpixels'.height.1 hpixels'.height.2 hy⟩
  have hturned := hpixels'.toPanel hcentred
  rw [hsize] at hturned
  obtain ⟨hx', hy'⟩ := hpixels.ofPanel hturned
  have hinside := And.intro (hx'.between hpixels.width.1 hpixels.width.2)
    (hy'.between hpixels.height.1 hpixels.height.2)
  rw [hnew.bounds? hvalid] at hb
  obtain rfl := Option.some.inj hb
  dsimp only [Bounds.Contains, Viewport.carry]
  exact hinside

theorem FramesDevice.eq_whole (h : v.FramesDevice) :
    v = ⟨v.display, v.rotation, 0, 0, v.deviceWidth, v.deviceHeight, v.deviceWidth,
      v.deviceHeight⟩ := by
  obtain ⟨hleft, htop, hright, hbottom, -, -⟩ := h
  obtain ⟨display, rotation, left, top, right, bottom, width, height⟩ := v
  cases hleft
  cases htop
  cases hright
  cases hbottom
  rfl

/-- Of two views of a whole device, one that does not differ in display, panel size or
turn does not differ at all. -/
theorem FramesDevice.eq_of_unchanged (hold : old.FramesDevice) (hnew : new.FramesDevice)
    (h : old.changeTo new = .unchanged) : old = new := by
  unfold changeTo at h
  split at h
  · cases h
  split at h
  · cases h
  rename_i hsame hturn
  obtain ⟨hdisplay, hsize⟩ := not_or.mp hsame
  have hdisplay : old.display = new.display := Decidable.of_not_not hdisplay
  have hsize : old.naturalSize = new.naturalSize := Decidable.of_not_not hsize
  have hturn : old.rotation = new.rotation := Decidable.of_not_not hturn
  have hsides : old.deviceWidth = new.deviceWidth ∧ old.deviceHeight = new.deviceHeight := by
    unfold naturalSize at hsize
    rw [hturn] at hsize
    split at hsize <;> obtain ⟨hfirst, hsecond⟩ := Prod.mk.inj hsize
    · exact ⟨hsecond, hfirst⟩
    · exact ⟨hfirst, hsecond⟩
  have heq := hold.eq_whole
  rw [hdisplay, hturn, hsides.1, hsides.2, ← hnew.eq_whole] at heq
  exact heq

end Viewport

end ScreenPointer
