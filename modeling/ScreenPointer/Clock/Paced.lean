/-
# The paced clock

A clock that runs by itself at a fixed refresh rate.  Here its time is that of
its own events: it moves from one due instant to the next, so what it delivers
and in which order is a function of the requests made.

It answers requests as the manual clock does, except that once stopped it refuses
everything that would have to be delivered later.
-/

import ScreenPointer.Clock

namespace ScreenPointer

/-- A clock with a fixed refresh rate. -/
structure PacedClock where
  period : Nanos
  running : Bool := true
  now : Nanos := 0
  lastId : Nat := 0
  listeners : List ListenerId := []
  requests : List ListenerId := []
  /-- When the next vsync is due, if a listener waits for one. -/
  vsyncDue : Option Nanos := none
  vsyncs : Nat := 0
  timers : List Timer := []
  deriving DecidableEq, Repr

namespace PacedClock

/-- The time between two vsyncs at a refresh rate; rates below one and above a
thousand are taken as one and a thousand. -/
def periodOf (hz : Nat) : Nanos := Nanos.perSecond / (max 1 (min hz 1000) : Nat)

def start (hz : Nat) : PacedClock := { period := periodOf hz }

def stop (c : PacedClock) : PacedClock := { c with running := false }

/-- The first vsync after an instant. -/
def nextVsync (c : PacedClock) (instant : Nanos) : Nanos := (instant / c.period + 1) * c.period

def isRegistered (c : PacedClock) (id : ListenerId) : Bool := c.listeners.contains id

/-- Drop a listener and everything it waits for; without anyone waiting no vsync is
due. -/
def forget (c : PacedClock) (id : ListenerId) : PacedClock :=
  let requests := c.requests.filter (· ≠ id)
  { c with
    listeners := c.listeners.filter (· ≠ id)
    requests
    vsyncDue := if requests.isEmpty then none else c.vsyncDue
    timers := c.timers.filter (·.listener ≠ id) }

/-- Refuse when stopped or when the listener is not registered. -/
def refusal? (c : PacedClock) (id : ListenerId) : Option ClockError :=
  if !c.running then some .stopped
  else if !c.isRegistered id then some (.unknownListener id)
  else none

def serve (c : PacedClock) : ClockRequest → ClockAnswer × PacedClock
  | .register =>
    if c.running then
      let id : ListenerId := ⟨c.lastId + 1⟩
      (.registered id, { c with lastId := c.lastId + 1, listeners := c.listeners ++ [id] })
    else (.refused .stopped, c)
  | .unregister id => (.accepted, c.forget id)
  | .tick id =>
    match c.refusal? id with
    | some e => (.refused e, c)
    | none =>
      (.accepted, { c with
        requests := if c.requests.contains id then c.requests else c.requests ++ [id]
        vsyncDue := some (c.vsyncDue.getD (c.nextVsync c.now)) })
  | .schedule id token delay =>
    match c.refusal? id with
    | some e => (.refused e, c)
    | none => (.accepted, { c with timers := c.timers ++ [⟨id, token, .after c.now delay⟩] })
  | .cancel id token =>
    (.accepted, { c with
      timers := c.timers.filter fun t => ¬(t.listener = id ∧ t.token = token) })

def nextDue? (c : PacedClock) : Option Nanos :=
  (c.vsyncDue.toList ++ c.timers.map (·.deadline)).min?

/-- The timers due at an instant, in the order in which they are taken out, and the
others.  The last timer moves to the place of one that is taken out. -/
def sweep (instant : Nanos) : List Timer → List Timer × List Timer
  | [] => ([], [])
  | t :: rest =>
    if t.deadline ≤ instant then
      let swept := sweep instant (rest.getLast?.toList ++ rest.dropLast)
      (t :: swept.1, swept.2)
    else
      let swept := sweep instant rest
      (swept.1, t :: swept.2)
termination_by timers => timers.length
decreasing_by
  · rcases rest.eq_nil_or_concat with rfl | ⟨others, last, rfl⟩ <;> simp
  · simp

/-- What is delivered at an instant, and the clock afterwards: a vsync to everyone
who waits for it, then the timers that are due. -/
def deliverAt (c : PacedClock) (instant : Nanos) :
    List (ListenerId × Notice) × PacedClock :=
  let c := { c with now := instant }
  let (ticks, c) := match c.vsyncDue with
    | none => ([], c)
    | some due =>
      if due ≤ instant then
        let event := DisplayEvent.vsync .builtin due (c.vsyncs + 1)
        (c.requests.map fun id => (id, Notice.events [event]),
          { c with requests := [], vsyncDue := none, vsyncs := c.vsyncs + 1 })
      else ([], c)
  let swept := sweep instant c.timers
  (ticks ++ swept.1.map fun t => (t.listener, Notice.timer t.token), { c with timers := swept.2 })

/-- Run on to the next instant at which something is due; nothing when stopped or
when nothing is. -/
def wake (c : PacedClock) : Option (List (ListenerId × Notice) × PacedClock) :=
  if c.running then c.nextDue?.map c.deliverAt else none

end PacedClock

end ScreenPointer
