/-
# Sprites

A sprite is something drawn at a place: a layer, a position, an opacity, a
visibility, an icon, a display and a linear transform about the hot spot.
-/

import ScreenPointer.Icon

namespace ScreenPointer

/-- The name of a sprite, given once. -/
structure SpriteId where
  serial : Nat
  deriving DecidableEq, Repr

namespace Layer

/-- The pointer is above every spot. -/
def pointer : Int := 0x40000000

/-- The lowest layer of a spot. -/
def spot : Int := 0x20000000

end Layer

structure Transform where
  dsdx : Single
  dtdx : Single
  dsdy : Single
  dtdy : Single
  deriving DecidableEq

namespace Transform

def scale (factor : Single) : Transform := ⟨factor, 0, 0, factor⟩

def identity : Transform := scale 1

end Transform

/-- The state of a sprite, as last written. -/
structure SpriteRecord where
  layer : Int := 0
  position : Point := .origin
  alpha : Single := 1
  visible : Bool := false
  icon : Option Icon := none
  display : DisplayId := .absent
  transform : Transform := .identity
  deriving DecidableEq

namespace SpriteRecord

/-- Does the sprite put pixels on the screen? -/
def isDrawn (r : SpriteRecord) : Bool :=
  r.visible && (0 : Single).less r.alpha && r.icon.isSome

def isSpot (r : SpriteRecord) : Bool := Layer.spot ≤ r.layer && r.layer < Layer.pointer

end SpriteRecord

end ScreenPointer
