/-
# Displays

A viewport says which display the pointer lives on, how that display is turned,
which logical rectangle it shows and how large the device is as seen in that
turn.  The bounds of a viewport are the pixels the pointer may occupy, edges
included, as single-precision numbers.
-/

import ScreenPointer.Binary.Basic

namespace ScreenPointer

structure DisplayId where
  number : Int
  deriving DecidableEq, Repr

namespace DisplayId

/-- The mark of a viewport that was never given a display. -/
def absent : DisplayId := ⟨-1⟩

def builtin : DisplayId := ⟨0⟩

end DisplayId

/-- How far a display is turned, clockwise. -/
inductive Rotation
  | upright | quarter | half | threeQuarter
  deriving DecidableEq, Repr

namespace Rotation

/-- Does the turn exchange width and height? -/
def transposed : Rotation → Bool
  | quarter | threeQuarter => true
  | upright | half => false

def degrees : Rotation → Nat
  | upright => 0
  | quarter => 90
  | half => 180
  | threeQuarter => 270

/-- Only whole quarters below a full turn are rotations. -/
def ofDegrees? : Nat → Option Rotation
  | 0 => some upright
  | 90 => some quarter
  | 180 => some half
  | 270 => some threeQuarter
  | _ => none

def next : Rotation → Rotation
  | upright => quarter
  | quarter => half
  | half => threeQuarter
  | threeQuarter => upright

@[simp]
theorem ofDegrees?_degrees (r : Rotation) : ofDegrees? r.degrees = some r := by
  cases r <;> rfl

end Rotation

/-- A place on a display, in pixels. -/
structure Point where
  x : Single
  y : Single
  deriving DecidableEq

namespace Point

def origin : Point := ⟨0, 0⟩

end Point

/-- The pixels a pointer may occupy, edges included. -/
structure Bounds where
  minX : Single
  minY : Single
  maxX : Single
  maxY : Single
  deriving DecidableEq

namespace Bounds

/-- One coordinate, moved to the nearer edge when outside.  The lower edge is
applied first, and not-a-number becomes the lower edge. -/
def clampAxis (low high v : Single) : Single := (v.maxNum low).minNum high

/-- The point of the bounds nearest to a point. -/
def clamp (b : Bounds) (p : Point) : Point :=
  ⟨clampAxis b.minX b.maxX p.x, clampAxis b.minY b.maxY p.y⟩

def center (b : Bounds) : Point :=
  ⟨(b.minX + b.maxX) * Binary.half, (b.minY + b.maxY) * Binary.half⟩

end Bounds

/-- A display as it is currently shown.  `deviceWidth` and `deviceHeight` are
those of the turned device. -/
structure Viewport where
  display : DisplayId
  rotation : Rotation
  left : Int
  top : Int
  right : Int
  bottom : Int
  deviceWidth : Int
  deviceHeight : Int
  deriving DecidableEq

namespace Viewport

/-- The viewport before any display is known. -/
def unset : Viewport := ⟨.absent, .upright, 0, 0, 0, 0, 0, 0⟩

def whole (display : DisplayId) (width height : Int) : Viewport :=
  ⟨display, .upright, 0, 0, width, height, width, height⟩

def isValid (v : Viewport) : Bool := v.display != .absent

/-- Width and height of the device when it is not turned. -/
def naturalSize (v : Viewport) : Int × Int :=
  if v.rotation.transposed then (v.deviceHeight, v.deviceWidth)
  else (v.deviceWidth, v.deviceHeight)

def rotated (v : Viewport) (rotation : Rotation) : Viewport :=
  let (w, h) := v.naturalSize
  let (w, h) := if rotation.transposed then (h, w) else (w, h)
  ⟨v.display, rotation, 0, 0, w, h, w, h⟩

/-- The pixels of the logical rectangle; none without a display. -/
def bounds? (v : Viewport) : Option Bounds :=
  if v.isValid then
    some {
      minX := .ofInt v.left
      minY := .ofInt v.top
      maxX := .ofInt (v.right - 1)
      maxY := .ofInt (v.bottom - 1) }
  else
    none

end Viewport

end ScreenPointer
