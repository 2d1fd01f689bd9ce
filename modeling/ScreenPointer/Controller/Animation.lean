/-
# Ticks and timers

What a controller does when its clock calls.  A tick advances the pointer's fade,
the spots' fades and the animated icon, all in one frame, and asks for another
tick while something is still moving.  A timer hides the pointer if it is the
pending one.  A controller that was taken down asks to be forgotten.
-/

import ScreenPointer.Controller.Presentation

namespace ScreenPointer

namespace Live

/-- Advance the pointer's fade.  Tells whether it goes on. -/
def fadePointer (l : Live) (elapsed : Nanos) : Bool × Live :=
  let fade := l.controller.pointer.fade
  if fade.isRunning then
    let (fade, goes) := fade.advance elapsed l.controller.settings.pointerFade
    (goes, { l with controller.pointer.fade := fade }.present)
  else (false, l)

/-- Advance the fades of the spots.  Tells whether one goes on. -/
def fadeSpots (l : Live) (elapsed : Nanos) : Bool × Live :=
  let share := elapsedShare elapsed l.controller.settings.spotFade
  let (fading, spots, surface) := l.controller.spots.advanceFades share l.world.surface
  (fading, { l with controller.spots := spots, world.surface := surface })

/-- Show the frame of the animated icon that is due.  Tells whether there is an
animation to go on with; animations repeat for as long as their icon is shown. -/
def flipFrame (l : Live) (timestamp : Nanos) : Bool × Live :=
  let pointer := l.controller.pointer
  match pointer.presentation, l.controller.mouse.animations.find? pointer.requested with
  | .pointer, some animation =>
    if animation.isPlayable then
      let since := Nanos.since pointer.frameTime timestamp
      if animation.frameDuration < since then
        let passed := since / animation.frameDuration
        let count := animation.frames.length
        let frame := (pointer.frame + passed.toNat % count) % count
        let l := { l with
          controller.pointer.frame := frame
          controller.pointer.frameTime :=
            .wrap (pointer.frameTime + animation.frameDuration * passed) }
        match l.controller.sprite, animation.frames[frame]? with
        | some sprite, some icon => (true, l.onSurface (·.setIcon sprite icon))
        | _, _ => (true, l)
      else (true, l)
    else (false, l)
  | _, _ => (false, l)

def tick (l : Live) (timestamp : Nanos) : Live :=
  let elapsed := l.controller.scheduler.elapsed timestamp
  let l := { l with controller.scheduler.pending := false }
  let l := l.onSurface (·.openTransaction)
  let (pointerFading, l) := l.fadePointer elapsed
  let (spotsFading, l) := l.fadeSpots elapsed
  let (playing, l) := l.flipFrame timestamp
  let l := l.onSurface (·.closeTransaction)
  if pointerFading || spotsFading || playing then l.startAnimation else l

/-- A timer has fired.  Only the pending one hides the pointer. -/
def timerFired (l : Live) (token : TimerToken) : Live :=
  if l.controller.inactivity.pending = some token then
    { l with controller.inactivity.pending := none }.hide .gradual
  else l

end Live

/-- The time of the last vsync among events; the earlier ones are superseded. -/
def latestVsync? (events : List DisplayEvent) : Option Nanos :=
  (events.filterMap DisplayEvent.vsyncTime?).getLast?

namespace Live

def receive (l : Live) : Notice → ListenerStatus × Live
  | .events events =>
    match latestVsync? events with
    | none => (.keep, l)
    | some timestamp =>
      if l.controller.tornDown then (.deregister, l) else (.keep, l.tick timestamp)
  | .timer token =>
    if l.controller.tornDown then (.deregister, l) else (.keep, l.timerFired token)
  | .failure => (.deregister, { l with world := l.world.report .connectionLost })

/-- Give up timers, sprites and icons.  What comes from the clock afterwards finds
nothing to do. -/
def tearDown (l : Live) : Live :=
  let l := l.cancelInactivity
  let l := match l.controller.sprite with
    | some sprite => l.onSurface (·.release sprite)
    | none => l
  let (spots, surface) := l.controller.spots.releaseAll l.world.surface
  { l with
    controller.scheduler.pending := false
    controller.sprite := none
    controller.spots := spots
    controller.mouse := .empty
    controller.icons := none
    controller.tornDown := true
    world.surface := surface }

end Live

end ScreenPointer
