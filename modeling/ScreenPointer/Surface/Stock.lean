/-
# Stock of spare sprites

Sprites whose owner is done with them are kept, without their icon, on a stack
of limited height, and are handed out again before the surface is asked for a
new one.
-/

import ScreenPointer.Surface

namespace ScreenPointer

/-- A surface together with the spare sprites on it. -/
structure SpriteStock where
  surface : Surface
  /-- Spare sprites, the one to hand out next in front. -/
  spare : List SpriteId
  capacity : Nat
  deriving DecidableEq

namespace SpriteStock

def onSurface (s : SpriteStock) (f : Surface → Surface) : SpriteStock :=
  { s with surface := f s.surface }

/-- Take a sprite back.  Beyond the capacity it is released. -/
def giveBack (s : SpriteStock) (sprite : SpriteId) : SpriteStock :=
  let surface := s.surface.clearIcon sprite
  if s.spare.length < s.capacity then { s with surface, spare := sprite :: s.spare }
  else { s with surface := surface.release sprite }

def take (s : SpriteStock) : SpriteId × SpriteStock :=
  match s.spare with
  | sprite :: rest => (sprite, { s with spare := rest })
  | [] =>
    let (sprite, surface) := s.surface.create
    (sprite, { s with surface })

end SpriteStock

end ScreenPointer
