/-
# Scripted listeners

Listeners that follow a script: for each kind of notice the requests to make and
the status to answer.  A budget shared by all notices of a listener bounds how
many requests it makes, so every rehearsal of a clock with scripted listeners
ends.  What was heard and asked is noted in order.
-/

import ScreenPointer.Clock.Delivery
import ScreenPointer.Keyed

namespace ScreenPointer

/-- A request that a script makes, for its own listener unless it names another. -/
inductive ScriptAction
  | request
  | schedule (token : TimerToken) (delay : Nanos)
  | cancel (token : TimerToken)
  | unregister (other : ListenerId)
  deriving DecidableEq, Repr

namespace ScriptAction

def toRequest (own : ListenerId) : ScriptAction → ClockRequest
  | request => .tick own
  | schedule token delay => .schedule own token delay
  | cancel token => .cancel own token
  | unregister other => .unregister other

def name : ScriptAction → String
  | request => "request"
  | schedule .. => "schedule"
  | cancel _ => "cancel"
  | unregister _ => "unregister"

end ScriptAction

structure Reaction where
  actions : List ScriptAction := []
  status : ListenerStatus := .keep
  deriving DecidableEq, Repr

/-- A whole script.  Without a reaction to failure a listener goes away silently. -/
structure Script where
  tick : Reaction := {}
  timer : Reaction := {}
  failure : Option Reaction := none
  deriving DecidableEq, Repr

namespace Script

def reaction? (script : Script) : Notice → Option Reaction
  | .events _ => some script.tick
  | .timer _ => some script.timer
  | .failure => script.failure

end Script

inductive RehearsalNote
  | heard (notice : Notice)
  | did (action : ScriptAction) (answer : ClockAnswer)
  deriving DecidableEq, Repr

/-- A script and how many requests it may still make. -/
structure Part where
  script : Script
  budget : Nat
  deriving DecidableEq, Repr

structure Rehearsal where
  parts : Keyed ListenerId Part := []
  /-- Do scripts make their requests, or only answer? -/
  acting : Bool := true
  notes : List (ListenerId × RehearsalNote) := []
  deriving DecidableEq, Repr

namespace Rehearsal

def join (r : Rehearsal) (id : ListenerId) (part : Part) : Rehearsal :=
  { r with parts := r.parts.insert id part }

def note (r : Rehearsal) (id : ListenerId) (n : RehearsalNote) : Rehearsal :=
  { r with notes := r.notes ++ [(id, n)] }

/-- Requests that may still be made by all listeners together. -/
def budget (r : Rehearsal) : Nat :=
  r.parts.foldl (fun total (_, part) => total + part.budget) 0

/-- Make the requests of a reaction while the budget lasts; gives what is left. -/
def perform (id : ListenerId) :
    List ScriptAction → Nat → ManualClock → Rehearsal → Nat × ManualClock × Rehearsal
  | [], budget, c, r => (budget, c, r)
  | _ :: _, 0, c, r => (0, c, r)
  | action :: rest, budget + 1, c, r =>
    let (answer, c) := c.serve (action.toRequest id)
    perform id rest budget c (r.note id (.did action answer))

def hear : Listeners Rehearsal := fun id notice c r =>
  match Keyed.find? id r.parts with
  | none => (.deregister, c, r)
  | some part =>
    match part.script.reaction? notice with
    | none => (.deregister, c, r)
    | some reaction =>
      let r := r.note id (.heard notice)
      if r.acting then
        let (budget, c, r) := perform id reaction.actions part.budget c r
        (reaction.status, c, r.join id { part with budget })
      else
        (reaction.status, c, r)

/-- Notes by listener, each listener's own in order. -/
def notesByListener (r : Rehearsal) : List (ListenerId × RehearsalNote) :=
  r.notes.mergeSort fun a b => a.1.number ≤ b.1.number

end Rehearsal

end ScreenPointer
