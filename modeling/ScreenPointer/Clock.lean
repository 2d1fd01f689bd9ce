/-
# Clocks and their listeners

A clock tells listeners about vsyncs they asked for, about timers they scheduled
and about the loss of its event connection.  This module is the vocabulary that
every clock shares: names, display events, what a listener hears, what it
answers, what can be asked of a clock and what the clock answers.
-/

import ScreenPointer.Display
import ScreenPointer.Time

namespace ScreenPointer

structure ListenerId where
  number : Nat
  deriving DecidableEq, Repr

/-- One scheduled timer of a listener, as the listener named it. -/
structure TimerToken where
  number : Nat
  deriving DecidableEq, Repr

inductive DisplayEvent
  | vsync (display : DisplayId) (timestamp : Nanos) (count : Nat)
  | hotplug (display : DisplayId) (connected : Bool)
  deriving DecidableEq, Repr

namespace DisplayEvent

/-- When the refresh happened, if the event is one. -/
def vsyncTime? : DisplayEvent → Option Nanos
  | vsync _ timestamp _ => some timestamp
  | hotplug .. => none

end DisplayEvent

/-- What a clock tells a listener. -/
inductive Notice
  /-- Everything displays reported since the last delivery, oldest first. -/
  | events (es : List DisplayEvent)
  | timer (token : TimerToken)
  | failure
  deriving DecidableEq, Repr

/-- What a listener wants after a notice. -/
inductive ListenerStatus
  | keep
  | deregister
  deriving DecidableEq, Repr

/-- Why a clock refuses. -/
inductive ClockError
  | unavailable (reason : String)
  | unknownListener (id : ListenerId)
  | stopped
  deriving DecidableEq, Repr

namespace ClockError

def message : ClockError → String
  | unavailable reason => "Clock source unavailable: " ++ reason
  | unknownListener id => "Unknown clock listener: ListenerId(" ++ toString id.number ++ ")"
  | stopped => "Clock stopped"

end ClockError

inductive ClockRequest
  | register
  /-- Forget a listener and everything it waits for. -/
  | unregister (id : ListenerId)
  /-- One vsync, the next one; asking again before it comes changes nothing. -/
  | tick (id : ListenerId)
  | schedule (id : ListenerId) (token : TimerToken) (delay : Nanos)
  /-- No such timer any more; an unknown one is ignored. -/
  | cancel (id : ListenerId) (token : TimerToken)
  deriving DecidableEq, Repr

inductive ClockAnswer
  | registered (id : ListenerId)
  | accepted
  | refused (error : ClockError)
  deriving DecidableEq, Repr

/-- A timer that was scheduled.  The token is the listener's own; the clock does not look at it, and
has several timers under one token if it is asked to. -/
structure Timer where
  listener : ListenerId
  token : TimerToken
  deadline : Nanos
  deriving DecidableEq, Repr

end ScreenPointer
