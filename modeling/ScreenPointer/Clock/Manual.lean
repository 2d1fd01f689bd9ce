/-
# The manual clock

A clock that stands still until its owner moves it.  It keeps who is registered,
who waits for a vsync and which timers are pending; nothing is delivered by the
requests of this module.
-/

import ScreenPointer.Clock

namespace ScreenPointer

/-- A clock that its owner moves. -/
structure ManualClock where
  now : Nanos := 0
  /-- Is there a display event connection to register with? -/
  connected : Bool := true
  /-- The number given to the last listener; the first one gets 1. -/
  lastId : Nat := 0
  /-- Registered listeners, oldest first. -/
  listeners : List ListenerId := []
  /-- Listeners waiting for a vsync, in the order in which they asked. -/
  requests : List ListenerId := []
  /-- Vsync requests accepted so far, repeated ones included. -/
  requestTotal : Nat := 0
  /-- Pending timers, in the order in which they were scheduled. -/
  timers : List Timer := []
  deriving DecidableEq, Repr

namespace ManualClock

/-- A clock whose event connection cannot be opened. -/
def disconnected : ManualClock := { connected := false }

def setNow (c : ManualClock) (now : Nanos) : ManualClock := { c with now }

def isRegistered (c : ManualClock) (id : ListenerId) : Bool := c.listeners.contains id

/-- Drop a listener and everything it waits for. -/
def forget (c : ManualClock) (id : ListenerId) : ManualClock :=
  { c with
    listeners := c.listeners.filter (· ≠ id)
    requests := c.requests.filter (· ≠ id)
    timers := c.timers.filter (·.listener ≠ id) }

/-- A new listener, under a number never used before. -/
def register (c : ManualClock) : Except ClockError (ListenerId × ManualClock) :=
  if c.connected then
    let id : ListenerId := ⟨c.lastId + 1⟩
    .ok (id, { c with lastId := c.lastId + 1, listeners := c.listeners ++ [id] })
  else
    .error (.unavailable "manual clock built without a display connection")

def requestTick (c : ManualClock) (id : ListenerId) : Except ClockError ManualClock :=
  if c.isRegistered id then
    .ok { c with
      requestTotal := c.requestTotal + 1
      requests := if c.requests.contains id then c.requests else c.requests ++ [id] }
  else
    .error (.unknownListener id)

/-- Ask for a timer; a negative delay counts as none. -/
def schedule (c : ManualClock) (id : ListenerId) (token : TimerToken) (delay : Nanos) :
    Except ClockError ManualClock :=
  if c.isRegistered id then
    .ok { c with timers := c.timers ++ [⟨id, token, .after c.now delay⟩] }
  else
    .error (.unknownListener id)

def cancel (c : ManualClock) (id : ListenerId) (token : TimerToken) : ManualClock :=
  { c with timers := c.timers.filter fun t => ¬(t.listener = id ∧ t.token = token) }

/-- Pending timers, earliest first; equal deadlines keep the order of scheduling. -/
def pendingTimers (c : ManualClock) : List Timer :=
  c.timers.mergeSort fun a b => a.deadline ≤ b.deadline

def serve (c : ManualClock) : ClockRequest → ClockAnswer × ManualClock
  | .register =>
    match c.register with
    | .ok (id, c') => (.registered id, c')
    | .error e => (.refused e, c)
  | .unregister id => (.accepted, c.forget id)
  | .tick id =>
    match c.requestTick id with
    | .ok c' => (.accepted, c')
    | .error e => (.refused e, c)
  | .schedule id token delay =>
    match c.schedule id token delay with
    | .ok c' => (.accepted, c')
    | .error e => (.refused e, c)
  | .cancel id token => (.accepted, c.cancel id token)

end ManualClock

end ScreenPointer
