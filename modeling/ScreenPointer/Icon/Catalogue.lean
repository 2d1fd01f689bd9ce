/-
# The icon catalogue

The icons a controller may load for a display: the default pointer, the three
spot icons, and further pointer icons under their ids, some of them animated.
Every display is served the same icons.
-/

import ScreenPointer.Icon
import ScreenPointer.Keyed

namespace ScreenPointer

structure IconId where
  number : Int
  deriving DecidableEq, Repr

namespace IconId

def arrow : IconId := ⟨1000⟩
def custom : IconId := ⟨-1⟩
def wait : IconId := ⟨1004⟩

end IconId

structure SpotIcons where
  /-- A contact without pressure. -/
  hover : Icon
  /-- A contact with pressure. -/
  touch : Icon
  /-- The pointer sprite while spots are shown instead of a pointer. -/
  anchor : Icon
  deriving DecidableEq

structure MouseIcons where
  icons : Keyed IconId Icon
  animations : Keyed IconId Animation
  deriving DecidableEq

namespace MouseIcons

def empty : MouseIcons := ⟨[], []⟩

/-- Are there no icons?  Animations alone do not count. -/
def isEmpty (m : MouseIcons) : Bool := m.icons.isEmpty

end MouseIcons

structure Catalogue where
  /-- The id that stands for the default pointer icon. -/
  defaultId : IconId
  /-- The id under which an icon of the application's own is kept. -/
  customId : IconId
  pointer : Icon
  spots : SpotIcons
  mouse : MouseIcons
  deriving DecidableEq

namespace Catalogue

/-- Plain squares: a white pointer, blue for hovering, red for touching, green for
the anchor. -/
def plain : Catalogue where
  defaultId := .arrow
  customId := .custom
  pointer := .square ⟨255, 255, 255, 255⟩
  spots := {
    hover := .square ⟨0, 0, 255, 255⟩
    touch := .square ⟨255, 0, 0, 255⟩
    anchor := .square ⟨0, 255, 0, 255⟩ }
  mouse := .empty

def withIcon (c : Catalogue) (id : IconId) (icon : Icon) : Catalogue :=
  { c with mouse := { c.mouse with icons := c.mouse.icons.insert id icon } }

/-- Serve an animation under an id.  Its first frame, if it has one, is also the
icon of that id. -/
def withAnimation (c : Catalogue) (id : IconId) (animation : Animation) : Catalogue :=
  let icons := match animation.frames with
    | [] => c.mouse.icons
    | first :: _ => c.mouse.icons.insert id first
  { c with mouse := ⟨icons, c.mouse.animations.insert id animation⟩ }

end Catalogue

end ScreenPointer
