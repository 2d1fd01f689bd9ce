/-
# Turning a panel

A place on a panel is a place on the upright panel, whichever way the panel is turned.
Where coordinates are whole parts of a pixel, and a side has no more than 2²³ of them,
every sum and difference of a turn is exact.  So the pointer is `Pinned`: its place on
the upright panel and the turn determine its position, and any number of turns keeps
that place.
-/

import ScreenPointer.Proofs.Layout
import ScreenPointer.Proofs.Display.Bounds
import ScreenPointer.Proofs.Shading

namespace ScreenPointer

open Binary

/-! ## Parts of a pixel -/

/-- One of the `2 ^ digits` parts of a pixel, in units of the least positive number. -/
def pixelPart (digits : Nat) : Int := ((2 ^ (149 - digits) : Nat) : Int)

def halfParts (digits : Nat) : Int := ((2 ^ (digits - 1) : Nat) : Int)

def sideParts (digits : Nat) (side : Int) : Int := 2 * side * halfParts digits

def IsParts (digits : Nat) (n : Int) (x : Single) : Prop :=
  x.position = some (n * pixelPart digits)

section Parts

variable {digits : Nat} {m n side : Int} {x y : Single}

theorem pixelPart_pos (digits : Nat) : 0 < pixelPart digits :=
  Int.ofNat_lt.mpr (Nat.two_pow_pos _)

theorem halfParts_pos (digits : Nat) : 0 < halfParts digits :=
  Int.ofNat_lt.mpr (Nat.two_pow_pos _)

theorem halfParts_mul_pixelPart (hpos : 1 ≤ digits) (hdigits : digits ≤ 149) :
    halfParts digits * pixelPart digits = halfPixel := by
  have hsum : digits - 1 + (149 - digits) = 148 := by omega
  rw [halfParts, pixelPart, ← Int.natCast_mul, ← Nat.pow_add, hsum]
  decide +kernel

theorem holdsAt_parts (hn : n.natAbs ≤ 2 ^ 24) :
    Format.single.HoldsAt (n * pixelPart digits) :=
  holdsAt_mul_two_pow hn (Nat.sub_le 149 digits)

theorem IsParts.add (hx : IsParts digits m x) (hy : IsParts digits n y)
    (hm : m.natAbs ≤ 2 ^ 24) (hn : n.natAbs ≤ 2 ^ 24) (hsum : (m + n).natAbs ≤ 2 ^ 24) :
    IsParts digits (m + n) (x + y) := by
  rw [IsParts, position_add hx hy (holdsAt_parts hm).2 (holdsAt_parts hn).2, ← Int.add_mul,
    Format.place_one_of_holdsAt _ (holdsAt_parts hsum)]

theorem IsParts.sub (hx : IsParts digits m x) (hy : IsParts digits n y)
    (hm : m.natAbs ≤ 2 ^ 24) (hn : n.natAbs ≤ 2 ^ 24) (hdiff : (m - n).natAbs ≤ 2 ^ 24) :
    IsParts digits (m - n) (x - y) := by
  rw [IsParts, position_sub hx hy (holdsAt_parts hm).2 (holdsAt_parts hn).2, ← Int.sub_mul,
    Format.place_one_of_holdsAt _ (holdsAt_parts hdiff)]

/-- Numbers of as many parts are numerically equal. -/
theorem IsParts.same (hx : IsParts digits n x) (hy : IsParts digits n y) : x.same y = true := by
  rw [Binary.same, hx, hy]
  exact decide_eq_true rfl

theorem isParts_half (hpos : 1 ≤ digits) (hdigits : digits ≤ 149) :
    IsParts digits (halfParts digits) half := by
  rw [IsParts, halfParts_mul_pixelPart hpos hdigits, position_half]

theorem isParts_ofInt (hpos : 1 ≤ digits) (hdigits : digits ≤ 149) (hside : side.natAbs ≤ 2 ^ 23) :
    IsParts digits (sideParts digits side) (ofInt side) := by
  rw [IsParts, sideParts, Int.mul_assoc, halfParts_mul_pixelPart hpos hdigits,
    position_ofInt_exact hside]

/-- Coordinates inside a side, counted in parts. -/
theorem IsParts.between_iff (hx : IsParts digits n x) (hpos : 1 ≤ digits) (hdigits : digits ≤ 149)
    (hside : 1 ≤ side) (hside' : side ≤ 2 ^ 23) :
    Between (ofInt 0) (ofInt (side - 1)) x ↔
      0 ≤ n ∧ n ≤ sideParts digits side - 2 * halfParts digits := by
  have hlast : sideParts digits (side - 1) = sideParts digits side - 2 * halfParts digits := by
    rw [sideParts, sideParts, Int.mul_sub, Int.sub_mul, Int.mul_one]
  have hzero : sideParts digits 0 = 0 := by simp [sideParts]
  rw [Binary.between_iff (isParts_ofInt hpos hdigits (by decide))
    (isParts_ofInt hpos hdigits (by omega)) hx, hzero, hlast,
    Int.mul_le_mul_right (pixelPart_pos digits), Int.mul_le_mul_right (pixelPart_pos digits)]

/-- The centre of a pixel of a side, or a place between such centres, in parts. -/
def IsMiddle (digits : Nat) (side n : Int) : Prop :=
  halfParts digits ≤ n ∧ n ≤ sideParts digits side - halfParts digits

theorem IsMiddle.flip (h : IsMiddle digits side n) :
    IsMiddle digits side (sideParts digits side - n) := by
  obtain ⟨hlow, hhigh⟩ := h
  exact ⟨by omega, by omega⟩

end Parts

def Point.same (p p' : Point) : Bool := p.x.same p'.x && p.y.same p'.y

/-! ## Panels -/

/-- A panel on a display, with a division of its pixels so fine that a side still has no
more than 2²³ parts. -/
structure FinePanel where
  display : DisplayId
  width : Int
  height : Int
  digits : Nat
  present : display ≠ .absent
  digits_mem : 1 ≤ digits ∧ digits ≤ 22
  width_mem : 1 ≤ width ∧ width ≤ 2 ^ (23 - digits)
  height_mem : 1 ≤ height ∧ height ≤ 2 ^ (23 - digits)

namespace FinePanel

variable (panel : FinePanel)

def turned (r : Rotation) : Viewport :=
  (Viewport.whole panel.display panel.width panel.height).rotated r

/-- Turning a turned panel is turning the panel. -/
@[simp]
theorem turned_rotated (r r' : Rotation) : (panel.turned r).rotated r' = panel.turned r' := by
  cases r <;> cases r' <;> rfl

theorem turned_isValid (r : Rotation) : (panel.turned r).isValid = true :=
  bne_iff_ne.mpr panel.present

theorem turned_changeTo {r r' : Rotation} (h : r ≠ r') :
    (panel.turned r).changeTo (panel.turned r') = .reorient := by
  have hsize : (panel.turned r).naturalSize = (panel.turned r').naturalSize := by
    cases r <;> cases r' <;> rfl
  unfold Viewport.changeTo
  rw [if_neg (not_or.mpr ⟨fun hne => hne rfl, fun hne => hne hsize⟩)]
  exact if_pos h

/-! ### Sides -/

variable {panel}

/-- A side has a pixel, and no more parts than are held. -/
theorem sideParts_mem {side : Int} (h : 1 ≤ side ∧ side ≤ 2 ^ (23 - panel.digits)) :
    side ≤ 2 ^ 23 ∧ 2 * halfParts panel.digits ≤ sideParts panel.digits side ∧
      sideParts panel.digits side ≤ 2 ^ 23 := by
  obtain ⟨hpos, hdigits⟩ := panel.digits_mem
  have hhalf := halfParts_pos panel.digits
  have hpixel : 2 ^ (23 - panel.digits) * (2 * halfParts panel.digits) = (2 ^ 23 : Int) := by
    have hnat : 2 ^ (23 - panel.digits) * (2 * 2 ^ (panel.digits - 1)) = 2 ^ 23 := by
      rw [← Nat.pow_succ', ← Nat.pow_add]
      congr 1
      omega
    rw [halfParts]
    exact_mod_cast hnat
  have hparts : sideParts panel.digits side = side * (2 * halfParts panel.digits) := by
    rw [sideParts, Int.mul_comm 2 side, Int.mul_assoc]
  have hlow := Int.mul_le_mul_of_nonneg_right h.1 (show 0 ≤ 2 * halfParts panel.digits by omega)
  have hhigh := Int.mul_le_mul_of_nonneg_right h.2 (show 0 ≤ 2 * halfParts panel.digits by omega)
  have hwhole := Int.mul_le_mul_of_nonneg_left (show 1 ≤ 2 * halfParts panel.digits by omega)
    (show 0 ≤ side by omega)
  rw [Int.one_mul, ← hparts] at hlow
  rw [hpixel, ← hparts] at hhigh
  rw [Int.mul_one, ← hparts] at hwhole
  exact ⟨Int.le_trans hwhole hhigh, hlow, hhigh⟩

/-- A middle of a side, seen from its other end. -/
theorem isParts_flip {side n : Int} {x : Single}
    (h : 1 ≤ side ∧ side ≤ 2 ^ (23 - panel.digits)) (hx : IsParts panel.digits n x)
    (hn : IsMiddle panel.digits side n) :
    IsParts panel.digits (sideParts panel.digits side - n) (ofInt side - x) := by
  obtain ⟨hpos, hdigits⟩ := panel.digits_mem
  obtain ⟨hside, -, hparts⟩ := sideParts_mem h
  have hhalf := halfParts_pos panel.digits
  obtain ⟨hlow, hhigh⟩ := hn
  exact (isParts_ofInt hpos (by omega) (by omega)).sub hx (by omega) (by omega) (by omega)

theorem isParts_centre {side n : Int} {x : Single}
    (h : 1 ≤ side ∧ side ≤ 2 ^ (23 - panel.digits)) (hn : IsMiddle panel.digits side n)
    (hx : IsParts panel.digits (n - halfParts panel.digits) x) :
    IsParts panel.digits n (x + half) := by
  obtain ⟨hpos, hdigits⟩ := panel.digits_mem
  obtain ⟨-, -, hparts⟩ := sideParts_mem h
  have hhalf := halfParts_pos panel.digits
  obtain ⟨hlow, hhigh⟩ := hn
  have hsum := hx.add (isParts_half hpos (by omega)) (by omega) (by omega) (by omega)
  rwa [Int.sub_add_cancel] at hsum

theorem isParts_corner {side n : Int} {x : Single}
    (h : 1 ≤ side ∧ side ≤ 2 ^ (23 - panel.digits)) (hn : IsMiddle panel.digits side n)
    (hx : IsParts panel.digits n x) :
    IsParts panel.digits (n - halfParts panel.digits) (x - half) := by
  obtain ⟨hpos, hdigits⟩ := panel.digits_mem
  obtain ⟨-, -, hparts⟩ := sideParts_mem h
  have hhalf := halfParts_pos panel.digits
  obtain ⟨hlow, hhigh⟩ := hn
  exact hx.sub (isParts_half hpos (by omega)) (by omega) (by omega) (by omega)

/-- The pixel of a coordinate is inside a side when its centre is. -/
theorem between_iff_isMiddle {side n : Int} {x : Single}
    (h : 1 ≤ side ∧ side ≤ 2 ^ (23 - panel.digits))
    (hx : IsParts panel.digits (n - halfParts panel.digits) x) :
    Between (ofInt 0) (ofInt (side - 1)) x ↔ IsMiddle panel.digits side n := by
  obtain ⟨hpos, hdigits⟩ := panel.digits_mem
  rw [hx.between_iff hpos (by omega) h.1 (sideParts_mem h).1, IsMiddle]
  omega

theorem turned_sides (panel : FinePanel) (r : Rotation) :
    (1 ≤ (panel.turned r).deviceWidth ∧
        (panel.turned r).deviceWidth ≤ 2 ^ (23 - panel.digits)) ∧
      (1 ≤ (panel.turned r).deviceHeight ∧
        (panel.turned r).deviceHeight ≤ 2 ^ (23 - panel.digits)) := by
  cases r with
  | upright => exact ⟨panel.width_mem, panel.height_mem⟩
  | quarter => exact ⟨panel.height_mem, panel.width_mem⟩
  | half => exact ⟨panel.width_mem, panel.height_mem⟩
  | threeQuarter => exact ⟨panel.height_mem, panel.width_mem⟩

theorem turned_bounds? (panel : FinePanel) (r : Rotation) :
    (panel.turned r).bounds? = some ⟨.ofInt 0, .ofInt 0,
      .ofInt ((panel.turned r).deviceWidth - 1), .ofInt ((panel.turned r).deviceHeight - 1)⟩ := by
  rw [Viewport.bounds?, if_pos (panel.turned_isValid r)]
  cases r <;> rfl

/-! ### Centres -/

variable {q c : Int × Int} {p : Point} {r r' : Rotation}

/-- A place `(across, down)` of the upright panel, on the turned one; all in parts. -/
def place (panel : FinePanel) (q : Int × Int) : Rotation → Int × Int
  | .upright => q
  | .quarter => (q.2, sideParts panel.digits panel.width - q.1)
  | .half =>
    (sideParts panel.digits panel.width - q.1, sideParts panel.digits panel.height - q.2)
  | .threeQuarter => (sideParts panel.digits panel.height - q.2, q.1)

/-- A place that is in the middle of both sides of the turned panel. -/
def IsCentre (panel : FinePanel) (r : Rotation) (c : Int × Int) : Prop :=
  IsMiddle panel.digits (panel.turned r).deviceWidth c.1 ∧
    IsMiddle panel.digits (panel.turned r).deviceHeight c.2

theorem IsCentre.place (h : panel.IsCentre .upright q) (r : Rotation) :
    panel.IsCentre r (panel.place q r) := by
  obtain ⟨hacross, hdown⟩ := h
  cases r with
  | upright => exact ⟨hacross, hdown⟩
  | quarter => exact ⟨hdown, hacross.flip⟩
  | half => exact ⟨hacross.flip, hdown.flip⟩
  | threeQuarter => exact ⟨hdown.flip, hacross⟩

/-- Every centre of the turned panel is a place of the upright one. -/
theorem IsCentre.exists_place (h : panel.IsCentre r c) :
    ∃ q, panel.IsCentre .upright q ∧ panel.place q r = c := by
  obtain ⟨hacross, hdown⟩ := h
  cases r with
  | upright => exact ⟨c, ⟨hacross, hdown⟩, rfl⟩
  | quarter =>
      refine ⟨(_, c.1), ⟨hdown.flip, hacross⟩, Prod.ext rfl ?_⟩
      exact Int.sub_sub_self _ _
  | half =>
      refine ⟨(_, _), ⟨hacross.flip, hdown.flip⟩, Prod.ext ?_ ?_⟩
      · exact Int.sub_sub_self _ _
      · exact Int.sub_sub_self _ _
  | threeQuarter =>
      refine ⟨(c.2, _), ⟨hdown, hacross.flip⟩, Prod.ext ?_ rfl⟩
      exact Int.sub_sub_self _ _

def IsAt (panel : FinePanel) (c : Int × Int) (p : Point) : Prop :=
  IsParts panel.digits c.1 p.x ∧ IsParts panel.digits c.2 p.y

theorem IsAt.toPanel (hq : panel.IsCentre .upright q) (h : panel.IsAt (panel.place q r) p) :
    panel.IsAt q ((panel.turned r).toPanel p) := by
  obtain ⟨hx, hy⟩ := h
  obtain ⟨hacross, hdown⟩ := hq
  have hcross := Int.sub_sub_self (sideParts panel.digits panel.width) q.1
  have hfall := Int.sub_sub_self (sideParts panel.digits panel.height) q.2
  cases r with
  | upright => exact ⟨hx, hy⟩
  | quarter => exact ⟨hcross ▸ isParts_flip panel.width_mem hy hacross.flip, hx⟩
  | half =>
      exact ⟨hcross ▸ isParts_flip panel.width_mem hx hacross.flip,
        hfall ▸ isParts_flip panel.height_mem hy hdown.flip⟩
  | threeQuarter => exact ⟨hy, hfall ▸ isParts_flip panel.height_mem hx hdown.flip⟩

theorem IsAt.ofPanel (hq : panel.IsCentre .upright q) (h : panel.IsAt q p) (r : Rotation) :
    panel.IsAt (panel.place q r) ((panel.turned r).ofPanel p) := by
  obtain ⟨hx, hy⟩ := h
  obtain ⟨hacross, hdown⟩ := hq
  have hx' := isParts_flip panel.width_mem hx hacross
  have hy' := isParts_flip panel.height_mem hy hdown
  cases r with
  | upright => exact ⟨hx, hy⟩
  | quarter => exact ⟨hy, hx'⟩
  | half => exact ⟨hx', hy'⟩
  | threeQuarter => exact ⟨hy', hx⟩

/-! ### Pinned -/

/-- The top left corner of the pixel with this centre. -/
def corner (panel : FinePanel) (c : Int × Int) : Int × Int :=
  (c.1 - halfParts panel.digits, c.2 - halfParts panel.digits)

/-- A position on the turned panel that shows a place of the upright one. -/
def Pinned (panel : FinePanel) (q : Int × Int) (r : Rotation) (p : Point) : Prop :=
  panel.IsCentre .upright q ∧ panel.IsAt (panel.corner (panel.place q r)) p

theorem Pinned.carry (h : panel.Pinned q r p) (r' : Rotation) :
    panel.Pinned q r' ((panel.turned r).carry (panel.turned r') p) := by
  obtain ⟨hq, hx, hy⟩ := h
  obtain ⟨hacross, hdown⟩ := hq.place r
  obtain ⟨hwidth, hheight⟩ := panel.turned_sides r
  obtain ⟨hacross', hdown'⟩ := hq.place r'
  obtain ⟨hwidth', hheight'⟩ := panel.turned_sides r'
  have hcentre : panel.IsAt (panel.place q r) ⟨p.x + half, p.y + half⟩ :=
    ⟨isParts_centre hwidth hacross hx, isParts_centre hheight hdown hy⟩
  obtain ⟨hx', hy'⟩ := (hcentre.toPanel hq).ofPanel hq r'
  exact ⟨hq, isParts_corner hwidth' hacross' hx', isParts_corner hheight' hdown' hy'⟩

/-- A pinned pointer is inside the bounds. -/
theorem Pinned.contains (h : panel.Pinned q r p) :
    ∃ b, (panel.turned r).bounds? = some b ∧ b.Contains p := by
  obtain ⟨hq, hx, hy⟩ := h
  obtain ⟨hacross, hdown⟩ := hq.place r
  obtain ⟨hwidth, hheight⟩ := panel.turned_sides r
  refine ⟨_, panel.turned_bounds? r, ?_⟩
  dsimp only [Bounds.Contains]
  exact ⟨(between_iff_isMiddle hwidth hx).mpr hacross,
    (between_iff_isMiddle hheight hy).mpr hdown⟩

/-- Inside the bounds, every position in whole parts shows a place of the panel. -/
theorem exists_pinned {m n : Int} {b : Bounds} (hx : IsParts panel.digits m p.x)
    (hy : IsParts panel.digits n p.y) (hb : (panel.turned r).bounds? = some b)
    (hinside : b.Contains p) : ∃ q, panel.Pinned q r p := by
  obtain ⟨hwidth, hheight⟩ := panel.turned_sides r
  cases (panel.turned_bounds? r).symm.trans hb
  dsimp only [Bounds.Contains] at hinside
  obtain ⟨hacross, hdown⟩ := hinside
  have hm := Int.add_sub_cancel m (halfParts panel.digits)
  have hn := Int.add_sub_cancel n (halfParts panel.digits)
  rw [← hm] at hx
  rw [← hn] at hy
  obtain ⟨q, hq, hplace⟩ := IsCentre.exists_place (r := r)
    (c := (m + halfParts panel.digits, n + halfParts panel.digits))
    ⟨(between_iff_isMiddle hwidth hx).mp hacross, (between_iff_isMiddle hheight hy).mp hdown⟩
  refine ⟨q, hq, ?_⟩
  rw [hplace]
  exact ⟨hx, hy⟩

/-- Positions that show one place in one turn are numerically equal. -/
theorem Pinned.same {p' : Point} (h : panel.Pinned q r p) (h' : panel.Pinned q r p') :
    p.same p' = true :=
  (Bool.and_eq_true _ _).mpr ⟨h.2.1.same h'.2.1, h.2.2.same h'.2.2⟩

end FinePanel

/-! ## The pointer turns with its panel -/

/-- The spots, the loaded icons and how often icons were loaded. -/
def Scene.furnishing (v : Scene) : SpotPool × Option DisplayIcons × MouseIcons × LoadCounts :=
  (v.controller.spots, v.controller.icons, v.controller.mouse, v.loads)

namespace Live

variable {panel : FinePanel} {q : Int × Int} {r : Rotation} {l : Live}

theorem present_furnishing (l : Live) : l.present.scene.furnishing = l.scene.furnishing := by
  obtain ⟨_, _, _, _, _, hscene⟩ := l.present_scene
  rw [hscene]
  rfl

/-- Turning a panel moves the pointer and presents it, and does nothing else. -/
theorem applyViewport_turned (hv : l.controller.viewport = panel.turned r) {r' : Rotation}
    (h : r ≠ r') :
    l.applyViewport (panel.turned r') = { l with
      controller.viewport := panel.turned r'
      controller.pointer.position :=
        (panel.turned r).carry (panel.turned r') l.controller.pointer.position }.present := by
  have hne : panel.turned r ≠ panel.turned r' := fun heq => h (congrArg Viewport.rotation heq)
  simp only [applyViewport, hv, if_neg hne, panel.turned_changeTo h]

/-- The controller shows the turned panel with the pointer pinned to the same place of it. -/
structure Shows (panel : FinePanel) (q : Int × Int) (r : Rotation) (l : Live) : Prop where
  viewport : l.controller.viewport = panel.turned r
  pinned : panel.Pinned q r l.controller.pointer.position

theorem Shows.present (h : l.Shows panel q r) : l.present.Shows panel q r := by
  obtain ⟨hviewport, hposition⟩ := Prod.mk.inj l.present_layout
  refine ⟨hviewport.trans h.viewport, ?_⟩
  rw [hposition]
  exact h.pinned

/-- A turn keeps the pointer pinned, and the furnishing as it is. -/
theorem Shows.turn (h : l.Shows panel q r) (r' : Rotation) :
    (l.applyViewport (panel.turned r')).Shows panel q r' ∧
      (l.applyViewport (panel.turned r')).scene.furnishing = l.scene.furnishing := by
  by_cases hsame : r = r'
  · subst hsame
    rw [← h.viewport, l.applyViewport_same]
    exact ⟨h, rfl⟩
  · rw [applyViewport_turned h.viewport hsame]
    exact ⟨Shows.present ⟨rfl, h.pinned.carry r'⟩, present_furnishing _⟩

end Live

namespace Session

variable {panel : FinePanel} {q : Int × Int} {r : Rotation}

def turns (panel : FinePanel) (rotations : List Rotation) : List Step :=
  rotations.map fun r => .command (.setViewport (panel.turned r))

/-- However often the panel is turned, the pointer stays pinned, and the furnishing as it
is. -/
theorem run_turns {s : Session} {l : Live} (hl : s.live? = some l) (h : l.Shows panel q r)
    (rotations : List Rotation) :
    ∃ l', (s.run (turns panel rotations)).live? = some l' ∧
      l'.Shows panel q (rotations.getLastD r) ∧ l'.scene.furnishing = l.scene.furnishing := by
  induction rotations generalizing s l r with
  | nil => exact ⟨l, hl, h, rfl⟩
  | cons r' rest ih =>
      obtain ⟨hshows, hkept⟩ := h.turn r'
      have hstep : (s.step (.command (.setViewport (panel.turned r')))).2.live? =
          some (l.applyViewport (panel.turned r')) := by
        simp only [step, command, hl]
        rfl
      obtain ⟨l', hl', hshows', hkept'⟩ := ih hstep hshows
      rw [List.getLastD_cons]
      exact ⟨l', hl', hshows', hkept'.trans hkept⟩

/-- A pointer inside a turned panel, at a position in whole parts of a pixel, is turned
with the panel any number of times.  It comes to the position to which the last turn alone
would have carried it, numerically equal and inside the bounds, and back to its own when the
panel is turned back.  No spot starts to fade and no icon is loaded.  All of this holds
after each of the turns, because there may be any number of them. -/
theorem turns_keep_place (panel : FinePanel) {s : Session} {c : Controller}
    (hc : s.host.controller = some c) {start : Rotation}
    (hviewport : c.viewport = panel.turned start) {m n : Int}
    (hx : IsParts panel.digits m c.pointer.position.x)
    (hy : IsParts panel.digits n c.pointer.position.y) {b : Bounds}
    (hb : c.viewport.bounds? = some b) (hinside : b.Contains c.pointer.position)
    (rotations : List Rotation) :
    let s' := s.run (turns panel rotations)
    let last := rotations.getLastD start
    ∃ c', s'.host.controller = some c' ∧ c'.viewport = panel.turned last ∧
      c'.pointer.position.same
        ((panel.turned start).carry (panel.turned last) c.pointer.position) = true ∧
      (∃ b', c'.viewport.bounds? = some b' ∧ b'.Contains c'.pointer.position) ∧
      (last = start → c'.pointer.position.same c.pointer.position = true) ∧
      c'.spots = c.spots ∧ c'.icons = c.icons ∧ c'.mouse = c.mouse ∧
      s'.host.world.loads = s.host.world.loads := by
  intro s' last
  rw [hviewport] at hb
  obtain ⟨q, hpinned⟩ := FinePanel.exists_pinned hx hy hb hinside
  have hl : s.live? = some ⟨c, s.clock, s.host.world⟩ := by rw [live?, hc]; rfl
  obtain ⟨l', hl', ⟨hviewport', hpinned'⟩, hkept⟩ := run_turns hl ⟨hviewport, hpinned⟩ rotations
  obtain ⟨c', hc', rfl⟩ := Option.map_eq_some_iff.mp hl'
  have hpinned' : panel.Pinned q last c'.pointer.position := hpinned'
  obtain ⟨hspots, hicons, hmouse, hloads⟩ := by simpa [Scene.furnishing] using hkept
  refine ⟨c', hc', hviewport', hpinned'.same (hpinned.carry last), ?_, fun hback => ?_, hspots,
    hicons, hmouse, hloads⟩
  · rw [hviewport']
    exact hpinned'.contains
  · rw [hback] at hpinned'
    exact hpinned'.same hpinned

/-- A pointer at half a pixel is back when its panel is upright again. -/
theorem turns_keep_place_of_half_pixel :
    let panel : FinePanel := ⟨.builtin, 800, 600, 1, by decide, by decide, by decide, by decide⟩
    let p : Point := ⟨Binary.half, 200⟩
    let s := (blank 0 true .plain).run
      [.create {}, .command (.setViewport (panel.turned .upright)), .command (.place p)]
    s.host.layout? = some (panel.turned .upright, p) ∧
      ∃ c', (s.run (turns panel [.quarter, .half, .upright, .threeQuarter, .upright])
          ).host.controller = some c' ∧ c'.pointer.position.same p = true := by
  intro panel p s
  have hlayout : s.host.layout? = some (panel.turned .upright, p) := by decide +kernel
  refine ⟨hlayout, ?_⟩
  obtain ⟨c, hc, hcl⟩ := Option.map_eq_some_iff.mp hlayout
  obtain ⟨hviewport, hposition⟩ := Prod.mk.inj hcl
  have hx : p.x.position = some (1 * pixelPart 1) := by decide +kernel
  have hy : p.y.position = some (400 * pixelPart 1) := by decide +kernel
  obtain ⟨c', hc', -, -, -, hback, -⟩ := turns_keep_place panel hc hviewport
    (hposition ▸ hx) (hposition ▸ hy) (by rw [hviewport]; rfl)
    (by rw [hposition]; decide +kernel) [.quarter, .half, .upright, .threeQuarter, .upright]
  rw [hposition] at hback
  exact ⟨c', hc', hback rfl⟩

end Session

end ScreenPointer
