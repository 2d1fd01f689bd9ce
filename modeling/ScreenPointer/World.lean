/-
# What a controller works with

Beside its own state and a clock, a controller has a surface to draw on, a
catalogue to load icons from, and a log.  A world keeps these, together with the
record of what the controller asked of its clock and how it answered notices.

The line to the clock can be told to refuse vsync requests and timers, following
a plan that says for each coming request whether it is refused, and to deliver
one more vsync and timer while a listener is being unregistered.
-/

import ScreenPointer.Clock
import ScreenPointer.Icon.Catalogue
import ScreenPointer.Surface

namespace ScreenPointer

/-- Which of the coming requests of one kind are refused: those that come next one by one, and all
that come after them alike. -/
structure RefusalPlan where
  upcoming : List Bool := []
  thereafter : Bool := false
  deriving DecidableEq, Repr

namespace RefusalPlan

def always (refused : Bool) : RefusalPlan := ⟨[], refused⟩

/-- Is the next request refused?  And the plan for those after it. -/
def next (p : RefusalPlan) : Bool × RefusalPlan :=
  match p.upcoming with
  | [] => (p.thereafter, p)
  | refused :: rest => (refused, { p with upcoming := rest })

end RefusalPlan

/-- Faults on the line between a controller and its clock. -/
structure LineFaults where
  tick : RefusalPlan := {}
  timer : RefusalPlan := {}
  /-- Deliver once more while unregistering. -/
  late : Bool := false
  deriving DecidableEq, Repr

inductive NoticeKind
  | events | timer | error
  deriving DecidableEq, Repr

namespace Notice

def kind : Notice → NoticeKind
  | events _ => .events
  | timer _ => .timer
  | failure => .error

end Notice

/-- One line of the record that is kept between a controller and its clock.  It has the requests,
granted or not, and the answers to notices. -/
inductive LineRecord
  /-- The controller asked this, granted or not. -/
  | asked (request : ClockRequest)
  | answered (kind : NoticeKind) (status : ListenerStatus)
  deriving DecidableEq, Repr

inductive LogEntry
  | registrationRefused (error : ClockError)
  | iconMissing (id : IconId)
  | tickRefused (error : ClockError)
  | timerRefused (error : ClockError)
  | connectionLost
  | strayClose
  deriving DecidableEq, Repr

inductive LogLevel
  | warn | error
  deriving DecidableEq, Repr

namespace LogEntry

def level : LogEntry → LogLevel
  | registrationRefused _ | connectionLost => .error
  | iconMissing _ | tickRefused _ | timerRefused _ | strayClose => .warn

def message : LogEntry → String
  | registrationRefused error =>
    "PointerController: failed to register with clock, animations disabled: " ++ error.message
  | iconMissing id =>
    "PointerController: can't find the resource for icon id " ++ toString id.number
  | tickRefused error => "AnimationScheduler: failed to request next tick: " ++ error.message
  | timerRefused error => "InactivityTimer: failed to schedule timeout: " ++ error.message
  | connectionLost => "EventBridge: display event connection failed, no more animation ticks"
  | strayClose => "RecordingBackend: close_transaction without open"

def line (e : LogEntry) : String :=
  match e.level with
  | .warn => "WARN: " ++ e.message
  | .error => "ERROR: " ++ e.message

end LogEntry

structure LoadCounts where
  /-- The pointer and spot icons of a display. -/
  pointer : Nat := 0
  mouse : Nat := 0
  deriving DecidableEq, Repr

/-- What a controller works with, apart from the clock: the icons it is served and the surface it
draws on, the faults it has to expect, and what was recorded and logged. -/
structure World where
  catalogue : Catalogue
  surface : Surface := {}
  loads : LoadCounts := {}
  faults : LineFaults := {}
  line : List LineRecord := []
  log : List LogEntry := []
  deriving DecidableEq

namespace World

def record (w : World) (r : LineRecord) : World := { w with line := w.line ++ [r] }

def report (w : World) (e : LogEntry) : World := { w with log := w.log ++ [e] }

end World

namespace Surface

/-- What the close of a transaction reports: something only when none is open. -/
def closeReport? (s : Surface) : Option LogEntry := if s.isOpen then none else some .strayClose

end Surface

end ScreenPointer
