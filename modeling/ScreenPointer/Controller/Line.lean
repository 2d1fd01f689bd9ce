/-
# The line to the clock

What a controller asks of its clock: one tick at a time for animations, and one
timer at a time for the inactivity timeout.  Every request is recorded, granted
or not.  A controller that the clock refused to register asks for nothing.
-/

import ScreenPointer.Controller

namespace ScreenPointer

namespace Live

def askTick (l : Live) (id : ListenerId) : Except ClockError Unit × Live :=
  let (refused, plan) := l.world.faults.tick.next
  let world := { l.world.record (.asked (.tick id)) with faults.tick := plan }
  let l := { l with world }
  if refused then (.error .stopped, l)
  else
    match l.clock.requestTick id with
    | .ok clock => (.ok (), { l with clock })
    | .error e => (.error e, l)

def askTimer (l : Live) (id : ListenerId) (token : TimerToken) (delay : Nanos) :
    Except ClockError Unit × Live :=
  let (refused, plan) := l.world.faults.timer.next
  let world := { l.world.record (.asked (.schedule id token delay)) with faults.timer := plan }
  let l := { l with world }
  if refused then (.error .stopped, l)
  else
    match l.clock.schedule id token delay with
    | .ok clock => (.ok (), { l with clock })
    | .error e => (.error e, l)

def askCancel (l : Live) (id : ListenerId) (token : TimerToken) : Live :=
  { l with
    clock := l.clock.cancel id token
    world := l.world.record (.asked (.cancel id token)) }

/-- Ask for a tick unless one is pending already.  Without a listener the tick is
pending for good and never comes. -/
def startAnimation (l : Live) : Live :=
  if l.controller.scheduler.pending then l
  else
    let l := { l with controller.scheduler := ⟨true, l.clock.now⟩ }
    match l.controller.listener with
    | none => l
    | some id =>
      match l.askTick id with
      | (.ok (), l) => l
      | (.error e, l) =>
        { l with
          controller.scheduler.pending := false
          world := l.world.report (.tickRefused e) }

def cancelInactivity (l : Live) : Live :=
  let pending := l.controller.inactivity.pending
  let l := { l with controller.inactivity.pending := none }
  match pending, l.controller.listener with
  | some token, some id => l.askCancel id token
  | _, _ => l

/-- Start the inactivity timeout anew, under a new token. -/
def restartInactivity (l : Live) : Live :=
  let delay := l.controller.settings.inactivityDelay l.controller.inactivity.timeout
  let l := l.cancelInactivity
  match l.controller.listener with
  | none => l
  | some id =>
    let token : TimerToken := ⟨l.controller.inactivity.lastToken + 1⟩
    let l := { l with controller.inactivity.lastToken := token.number }
    match l.askTimer id token delay with
    | (.ok (), l) => { l with controller.inactivity.pending := some token }
    | (.error e, l) => { l with world := l.world.report (.timerRefused e) }

end Live

end ScreenPointer
