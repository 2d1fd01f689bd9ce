/-
# Delivery

Moving a manual clock.  Listeners are abstract: a listener function is told which
listener hears what, sees the clock and a state of its own, may change both, and
answers whether the listener wants to hear more.  So listeners may make any
request of the clock while they are being told.

Who is told by a vsync or a broadcast is settled before the first of them is.
Advancing time fires due timers one at a time, earliest first, and looks again
after each; because a listener may schedule further due timers, the number of
firings is bounded by an argument, and running out of it gives no result.
-/

import ScreenPointer.Clock.Manual

namespace ScreenPointer

/-- How the listeners of a manual clock behave, over a state of their own. -/
abbrev Listeners (σ : Type) :=
  ListenerId → Notice → ManualClock → σ → ListenerStatus × ManualClock × σ

namespace ManualClock

variable {σ : Type}

/-- Tell one listener; it is forgotten if it asks for that. -/
def tell (hear : Listeners σ) (notice : Notice) (id : ListenerId) (c : ManualClock) (s : σ) :
    ManualClock × σ :=
  match hear id notice c s with
  | (.keep, c, s) => (c, s)
  | (.deregister, c, s) => (c.forget id, s)

def tellAll (hear : Listeners σ) (notice : Notice) :
    List ListenerId → ManualClock → σ → ManualClock × σ
  | [], c, s => (c, s)
  | id :: rest, c, s =>
    let (c, s) := c.tell hear notice id s
    tellAll hear notice rest c s

/-- The events of a burst of vsyncs on the built-in display, numbered from one. -/
def burstEvents (timestamps : List Nanos) : List DisplayEvent :=
  timestamps.mapIdx fun i t => .vsync .builtin t (i + 1)

/-- Deliver a burst of vsyncs at once to every listener that waits for one, and
count them.  The clock does not move back. -/
def vsyncBurst (hear : Listeners σ) (timestamps : List Nanos) (c : ManualClock) (s : σ) :
    Nat × ManualClock × σ :=
  match timestamps.getLast? with
  | none => (0, c, s)
  | some last =>
    let targets := c.requests.filter c.isRegistered
    let moved := { c with now := max c.now last, requests := [] }
    (targets.length, tellAll hear (.events (burstEvents timestamps)) targets moved s)

def vsync (hear : Listeners σ) (timestamp : Nanos) (c : ManualClock) (s : σ) :
    Nat × ManualClock × σ :=
  c.vsyncBurst hear [timestamp] s

/-- Deliver display events to every registered listener, asked for or not, and
count them. -/
def broadcast (hear : Listeners σ) (events : List DisplayEvent) (c : ManualClock) (s : σ) :
    Nat × ManualClock × σ :=
  (c.listeners.length, tellAll hear (.events events) c.listeners c s)

def failConnection (hear : Listeners σ) (c : ManualClock) (s : σ) : ManualClock × σ :=
  tellAll hear .failure c.listeners c s

/-- The earliest timer due at an instant and the others in order; of equal
deadlines the first in the list. -/
def takeDue (instant : Nanos) : List Timer → Option (Timer × List Timer)
  | [] => none
  | t :: rest =>
    match takeDue instant rest with
    | none => if t.deadline ≤ instant then some (t, rest) else none
    | some (u, others) =>
      if t.deadline ≤ instant ∧ t.deadline ≤ u.deadline then some (t, rest)
      else some (u, t :: others)

/-- Fire the timers due at an instant, at most `room` of them, and stop there.
Gives the number of listeners told, or nothing when a timer is due and there is
no room. -/
def advanceTo (hear : Listeners σ) (instant : Nanos) :
    Nat → ManualClock → σ → Option (Nat × ManualClock × σ)
  | 0, c, s =>
    match takeDue instant c.timers with
    | none => some (0, { c with now := instant }, s)
    | some _ => none
  | room + 1, c, s =>
    match takeDue instant c.timers with
    | none => some (0, { c with now := instant }, s)
    | some (t, others) =>
      let moved := { c with timers := others, now := max c.now t.deadline }
      if moved.isRegistered t.listener then
        let (c, s) := moved.tell hear (.timer t.token) t.listener s
        (advanceTo hear instant room c s).map fun (fired, c, s) => (fired + 1, c, s)
      else
        advanceTo hear instant room moved s

/-- Move time on, firing what becomes due. -/
def advance (hear : Listeners σ) (room : Nat) (delta : Nanos) (c : ManualClock) (s : σ) :
    Option (Nat × ManualClock × σ) :=
  advanceTo hear (c.now + delta) room c s

/-- Deliver vsyncs at a fixed distance while a listener waits for one, at most
`limit` of them, and count them. -/
def runFrames (hear : Listeners σ) (frame : Nanos) :
    Nat → ManualClock → σ → Nat × ManualClock × σ
  | 0, c, s => (0, c, s)
  | limit + 1, c, s =>
    if c.requests.isEmpty then (0, c, s)
    else
      let (_, c, s) := c.vsync hear (c.now + frame) s
      let (frames, c, s) := runFrames hear frame limit c s
      (frames + 1, c, s)

end ManualClock

end ScreenPointer
