/-
# The state of a controller

A controller shows a pointer and touch spots.  This module holds its state: the
pointer, the viewport, the loaded icons, the spots, the bookkeeping of ticks and
of the inactivity timeout, and the sprite that draws the pointer.  `Live` is a
controller at work, with its clock and its world; all operations act on it.
-/

import ScreenPointer.Buttons
import ScreenPointer.Clock.Manual
import ScreenPointer.Settings
import ScreenPointer.Spots
import ScreenPointer.World

namespace ScreenPointer

/-- What the pointer sprite shows: a mouse pointer with the requested icon, or the anchor of the
touch spots while there are spots instead of a pointer. -/
inductive Presentation
  | pointer
  /-- The anchor of the touch spots. -/
  | spot
  deriving DecidableEq, Repr

/-- How an opacity changes. -/
inductive Transition
  | immediate
  | gradual
  deriving DecidableEq, Repr

/-- The pointer as callers have left it, and how far its fade and its animation have come: `frame`
is the frame of an animated icon that is shown, and `frameTime` is when that one was due. -/
structure Pointer where
  position : Point
  fade : Fade
  requested : IconId
  presentation : Presentation
  frame : Nat
  frameTime : Nanos
  deriving DecidableEq

structure DisplayIcons where
  pointer : Icon
  spots : SpotIcons
  deriving DecidableEq

/-- The bookkeeping of vsync ticks.  At most one is asked for at a time, and `reference` is when it
was.  The next tick that comes counts the time since then, whether it was granted or not. -/
structure Scheduler where
  pending : Bool := false
  reference : Nanos := 0
  deriving DecidableEq, Repr

namespace Scheduler

/-- The tick has come: the time that passed since it was asked for, never negative. -/
def elapsed (s : Scheduler) (timestamp : Nanos) : Nanos := max (.since s.reference timestamp) 0

end Scheduler

/-- The bookkeeping of the inactivity timeout.  Each start uses a new token, so a
timer that was replaced is recognised when it fires all the same. -/
structure InactivityTimer where
  timeout : InactivityTimeout := .normal
  pending : Option TimerToken := none
  lastToken : Nat := 0
  deriving DecidableEq, Repr

/-- The state of a controller.  There are icons once its viewport has named a display.  The two
flags stand for an icon and a presentation that are not on the sprite yet. -/
structure Controller where
  settings : Settings
  /-- The name under which the clock knows it; none if the clock refused. -/
  listener : Option ListenerId
  pointer : Pointer
  viewport : Viewport
  buttons : Buttons
  icons : Option DisplayIcons
  mouse : MouseIcons
  iconChanged : Bool
  presentationChanged : Bool
  /-- The sprite of the pointer; none after the end. -/
  sprite : Option SpriteId
  spots : SpotPool
  scheduler : Scheduler
  inactivity : InactivityTimer
  tornDown : Bool
  deriving DecidableEq

namespace Controller

/-- A controller before it has a display.  The pointer starts out invisible. -/
def new (settings : Settings) (listener : Option ListenerId) (requested : IconId)
    (sprite : SpriteId) : Controller where
  settings := settings
  listener := listener
  pointer := {
    position := .origin
    fade := ⟨0, .idle⟩
    requested := requested
    presentation := .pointer
    frame := 0
    frameTime := 0 }
  viewport := .unset
  buttons := .released
  icons := none
  mouse := .empty
  iconChanged := false
  presentationChanged := false
  sprite := some sprite
  spots := .new settings.spots.maxSpots settings.spots.maxRecycled settings.spots.scale
  scheduler := {}
  inactivity := {}
  tornDown := false

end Controller

/-- A controller at work, with the clock that it asks for ticks and timers and the world that it
draws on.  What a controller does takes one of these to the next. -/
structure Live where
  controller : Controller
  clock : ManualClock
  world : World
  deriving DecidableEq

namespace Live

def onSurface (l : Live) (f : Surface → Surface) : Live :=
  { l with world.surface := f l.world.surface }

end Live

end ScreenPointer
