/-
# Icons

Pictures that sprites show: bitmaps with a hot spot, and animations made of them.
Two notions of equality exist.  Structural equality is for proofs; `same` is the
one that readers of pixels mean, in which hot spots are compared as numbers.
-/

import ScreenPointer.Display
import ScreenPointer.Time

namespace ScreenPointer

structure Color where
  red : UInt8
  green : UInt8
  blue : UInt8
  alpha : UInt8
  deriving DecidableEq, Repr

namespace Color

/-- The bytes of a pixel, in the order in which bitmaps hold them. -/
def bytes (c : Color) : List UInt8 := [c.red, c.green, c.blue, c.alpha]

end Color

/-- Raw pixels, four bytes each.  The count of bytes is not tied to the size. -/
structure Bitmap where
  width : Nat
  height : Nat
  pixels : List UInt8
  deriving DecidableEq, Repr

namespace Bitmap

def solid (width height : Nat) (color : Color) : Bitmap :=
  ⟨width, height, (List.replicate (width * height) color.bytes).flatten⟩

def isEmpty (b : Bitmap) : Bool := b.width == 0 || b.height == 0

end Bitmap

/-- A bitmap with the place in it that marks the position. -/
structure Icon where
  bitmap : Bitmap
  hotSpot : Point
  deriving DecidableEq

namespace Icon

/-- An icon with an empty bitmap cannot be drawn. -/
def isValid (i : Icon) : Bool := !i.bitmap.isEmpty

/-- Equal pictures with numerically equal hot spots. -/
def same (a b : Icon) : Bool :=
  a.bitmap == b.bitmap && a.hotSpot.x.same b.hotSpot.x && a.hotSpot.y.same b.hotSpot.y

def square (color : Color) : Icon := ⟨.solid 16 16 color, .origin⟩

end Icon

/-- Icons that are shown one after another, over and over, each for the same time. -/
structure Animation where
  frames : List Icon
  frameDuration : Nanos
  deriving DecidableEq

namespace Animation

/-- Without frames, or with frames that take no time, there is nothing to play. -/
def isPlayable (a : Animation) : Bool := !a.frames.isEmpty && 0 < a.frameDuration

end Animation

end ScreenPointer
