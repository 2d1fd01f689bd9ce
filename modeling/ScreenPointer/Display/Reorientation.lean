/-
# Reorientation

What replacing one viewport by another means for the pointer.  A different
display or panel size starts over; the same panel turned carries the pointer to
the same physical place; anything else leaves it alone.

The carried place is computed about pixel centres, in single precision: first
back to the untransformed panel, then into the new turn.
-/

import ScreenPointer.Display

namespace ScreenPointer

/-- The effect of a viewport replacement on the pointer. -/
inductive ViewportChange
  /-- Another display or panel size. -/
  | reset
  /-- The same panel in another turn. -/
  | reorient
  /-- Nothing that moves the pointer. -/
  | unchanged
  deriving DecidableEq, Repr

namespace Viewport

def changeTo (old new : Viewport) : ViewportChange :=
  if old.display ≠ new.display ∨ old.naturalSize ≠ new.naturalSize then .reset
  else if old.rotation ≠ new.rotation then .reorient
  else .unchanged

/-- A centre of the turned device, on the device as it is when upright. -/
def toPanel (v : Viewport) (p : Point) : Point :=
  let w : Single := .ofInt v.deviceWidth
  let h : Single := .ofInt v.deviceHeight
  match v.rotation with
  | .upright => p
  | .quarter => ⟨h - p.y, p.x⟩
  | .half => ⟨w - p.x, h - p.y⟩
  | .threeQuarter => ⟨p.y, w - p.x⟩

/-- A centre of the upright device, on the turned one. -/
def ofPanel (v : Viewport) (p : Point) : Point :=
  let w : Single := .ofInt v.deviceWidth
  let h : Single := .ofInt v.deviceHeight
  match v.rotation with
  | .upright => p
  | .quarter => ⟨p.y, h - p.x⟩
  | .half => ⟨w - p.x, h - p.y⟩
  | .threeQuarter => ⟨w - p.y, p.x⟩

/-- The place under `new` of what was at `p` under `old`.  Positions are top left
corners of pixels, so half a pixel leads to the centre and back. -/
def carry (old new : Viewport) (p : Point) : Point :=
  let center : Point := ⟨p.x + Binary.half, p.y + Binary.half⟩
  let turned := new.ofPanel (old.toPanel center)
  ⟨turned.x - Binary.half, turned.y - Binary.half⟩

end Viewport

end ScreenPointer
