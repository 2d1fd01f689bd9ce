/-
# Sessions

A session is a manual clock, a world, and at most one controller at a time on
them.  Its steps are everything that can happen: commands of a caller, the clock
moving, notices delivered out of turn, faults on the line, and the making and
dropping of controllers.

A notice reaches the listener that was registered last, whether or not the clock
still knows it.  When its controller is gone it asks to be forgotten.
-/

import ScreenPointer.Clock.Delivery
import ScreenPointer.Controller.Command

namespace ScreenPointer

/-- What the clock's listener reaches: the controller, while there is one, and the
world. -/
structure Host where
  controller : Option Controller
  world : World
  deriving DecidableEq

namespace Host

/-- The answer to a notice when the controller is gone. -/
def refuse (h : Host) (notice : Notice) : ListenerStatus × Host :=
  match notice with
  | .failure => (.deregister, { h with world := h.world.report .connectionLost })
  | .events _ | .timer _ => (.deregister, h)

def hear : Listeners Host := fun _ notice clock h =>
  let (status, clock, h) := match h.controller with
    | none =>
      let (status, h) := h.refuse notice
      (status, clock, h)
    | some controller =>
      let (status, l) := (Live.mk controller clock h.world).receive notice
      (status, l.clock, { h with controller := some l.controller, world := l.world })
  (status, clock, { h with world := h.world.record (.answered notice.kind status) })

end Host

/-- A clock, a world and perhaps a controller, as one caller has them.  Turning the display starts
from the viewport that was reported last, so that is remembered too. -/
structure Session where
  clock : ManualClock
  host : Host
  /-- The viewport that was last reported to a controller. -/
  reported : Viewport
  deriving DecidableEq

/-- What can happen in a session.  The caller makes, drops and commands controllers, moves the
clock and sets the faults, and may deliver notices that nobody asked for. -/
inductive Step
  /-- A new controller, after dropping the one there is. -/
  | create (settings : Settings)
  | drop
  | setNow (now : Nanos)
  | vsync (timestamp : Nanos)
  | burst (timestamps : List Nanos)
  | advance (delta : Nanos)
  | frames (frame : Nanos) (limit : Nat)
  | broadcast (events : List DisplayEvent)
  | failConnection
  | isRegistered (id : ListenerId)
  | setFaults (faults : LineFaults)
  | deliver (notice : Notice)
  | pass
  | command (c : Command)
  /-- The viewport last reported, turned. -/
  | rotate (rotation : Rotation)
  deriving DecidableEq

/-- What a step gives back: how many listeners it told, the answer to a question, or what a
listener wants after a notice. -/
inductive Outcome
  | nothing
  | count (n : Nat)
  | truth (b : Bool)
  | status (s : ListenerStatus)
  | noController
  deriving DecidableEq, Repr

namespace Session

def live? (s : Session) : Option Live :=
  s.host.controller.map fun controller => ⟨controller, s.clock, s.host.world⟩

/-- Take over what a controller at work has become. -/
def settle (s : Session) (l : Live) : Session :=
  { s with clock := l.clock, host := ⟨some l.controller, l.world⟩ }

/-- Make a controller where there is none: first its sprite, then its
registration, without which it works but never moves by itself. -/
def start (s : Session) (settings : Settings) : Session :=
  let world := s.host.world
  let (sprite, surface) := world.surface.create
  let world := { world with surface }
  let requested := world.catalogue.defaultId
  match s.clock.register with
  | .ok (id, clock) =>
    { s with clock, host := ⟨some (.new settings (some id) requested sprite), world⟩ }
  | .error e =>
    { s with host :=
        ⟨some (.new settings none requested sprite), world.report (.registrationRefused e)⟩ }

def begin (clock : ManualClock) (catalogue : Catalogue) (settings : Settings) : Session :=
  start ⟨clock, ⟨none, { catalogue }⟩, .unset⟩ settings

def deliver (s : Session) (notice : Notice) : ListenerStatus × Session :=
  let (status, clock, host) := Host.hear ⟨s.clock.lastId⟩ notice s.clock s.host
  (status, { s with clock, host })

/-- What may still arrive while a listener is being unregistered. -/
def lateNotices (now : Nanos) : List Notice :=
  [.events [.vsync .builtin now 1], .timer ⟨1⟩]

/-- Unregister a listener; a late line delivers once more before. -/
def unregister (s : Session) (id : ListenerId) : Session :=
  let s := { s with host.world := s.host.world.record (.asked (.unregister id)) }
  let s :=
    if s.host.world.faults.late then
      (lateNotices s.clock.now).foldl (fun s notice => (s.deliver notice).2) s
    else s
  { s with clock := s.clock.forget id }

/-- Drop the controller: take it down, unregister it, forget it. -/
def drop (s : Session) : Session :=
  match s.live? with
  | none => s
  | some l =>
    let s := s.settle l.tearDown
    let s := match l.controller.listener with
      | some id => s.unregister id
      | none => s
    { s with host.controller := none }

def after (s : Session) (delivered : ManualClock × Host) : Session :=
  { s with clock := delivered.1, host := delivered.2 }

def command (s : Session) (c : Command) : Outcome × Session :=
  match s.live? with
  | none => (.noController, s)
  | some l =>
    let s := s.settle (l.perform c)
    match c with
    | .setViewport viewport => (.nothing, { s with reported := viewport })
    | _ => (.nothing, s)

/-- One step.  Advancing has room for every pending timer, which is enough because a
timer never makes a controller schedule another one: `step_advance` says so. -/
def step (s : Session) : Step → Outcome × Session
  | .create settings => (.nothing, s.drop.start settings)
  | .drop => (.nothing, s.drop)
  | .setNow now => (.nothing, { s with clock := s.clock.setNow now })
  | .vsync timestamp =>
    let (count, delivered) := s.clock.vsync Host.hear timestamp s.host
    (.count count, s.after delivered)
  | .burst timestamps =>
    let (count, delivered) := s.clock.vsyncBurst Host.hear timestamps s.host
    (.count count, s.after delivered)
  | .advance delta =>
    match s.clock.advance Host.hear s.clock.timers.length delta s.host with
    | some (count, delivered) => (.count count, s.after delivered)
    | none => (.nothing, s)
  | .frames frame limit =>
    let (count, delivered) := s.clock.runFrames Host.hear frame limit s.host
    (.count count, s.after delivered)
  | .broadcast events =>
    let (count, delivered) := s.clock.broadcast Host.hear events s.host
    (.count count, s.after delivered)
  | .failConnection => (.nothing, s.after (s.clock.failConnection Host.hear s.host))
  | .isRegistered id => (.truth (s.clock.isRegistered id), s)
  | .setFaults faults => (.nothing, { s with host.world.faults := faults })
  | .deliver notice =>
    let (status, s) := s.deliver notice
    (.status status, s)
  | .pass => (.nothing, s)
  | .command c => s.command c
  | .rotate rotation => s.command (.setViewport (s.reported.rotated rotation))

def run (s : Session) (steps : List Step) : Session :=
  steps.foldl (fun s x => (s.step x).2) s

def clearRecords (s : Session) : Session :=
  { s with host.world.line := [], host.world.log := [] }

end Session

end ScreenPointer
