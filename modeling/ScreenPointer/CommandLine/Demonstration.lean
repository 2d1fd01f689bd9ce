/-
# The scripted session

A session that shows what a controller does: the pointer fades in, sweeps across
the display, shows an animated icon, gives way to touch spots that slide apart
and lift one by one, comes back, is carried through rotations and fades out.  The
clock is moved frame by frame, so the session is a function of its options.
-/

import ScreenPointer.Clock.Paced
import ScreenPointer.CommandLine
import ScreenPointer.Session

namespace ScreenPointer.CommandLine

def waitAnimation : Animation where
  frames := [Icon.square ⟨200, 200, 0, 255⟩, Icon.square ⟨150, 150, 0, 255⟩,
    Icon.square ⟨100, 100, 0, 255⟩]
  frameDuration := 80 * Nanos.perMilli

def demonstrationIcons : Catalogue := Catalogue.plain.withAnimation .wait waitAnimation

/-- A scripted session on its way: the session and the lines it has reported. -/
structure Demonstration where
  session : Session
  frame : Nanos
  lines : List String := []

namespace Demonstration

def report (d : Demonstration) (line : String) : Demonstration :=
  { d with lines := d.lines ++ [line] }

def step (d : Demonstration) (x : Step) : Demonstration :=
  { d with session := (d.session.step x).2 }

def command (d : Demonstration) (c : Command) : Demonstration := d.step (.command c)

/-- Let frames pass: a vsync for each while one is asked for. -/
def pass (d : Demonstration) (frames : Nat) : Demonstration := d.step (.frames d.frame frames)

/-- Let frames pass until nothing moves any more, for a time at most. -/
def settle (d : Demonstration) (limit : Nanos) : Demonstration :=
  d.pass (limit / d.frame + 4).toNat

def position (d : Demonstration) : Point :=
  match d.session.host.controller with
  | some c => c.pointer.position
  | none => .origin

def placeText (p : Point) : String :=
  "(" ++ p.x.onePlaceText ++ ", " ++ p.y.onePlaceText ++ ")"

/-- Fade in and sweep diagonally with the primary button held. -/
def sweep (d : Demonstration) : Demonstration :=
  let d := d.command (.setButtons .primary)
  let d := (List.range 30).foldl (fun d _ => (d.command (.moveBy 12 20)).pass 1) d
  let d := d.command (.setButtons .released)
  d.report ("Pointer after sweep: " ++ placeText d.position)

def wait (d : Demonstration) : Demonstration :=
  ((d.command (.requestIcon .wait)).pass 20).command (.requestIcon .arrow)

def slidingContacts (center : Point) (touches moment : Nat) : List Contact :=
  (List.range touches).map fun id =>
    let away : Single := .ofInt ((moment * 4 + id * 60) % 0x100000000 : Nat)
    ⟨⟨id⟩, ⟨center.x + away, center.y - away⟩, 1⟩

def remainingContacts (center : Point) (touches lifted : Nat) : List Contact :=
  (List.range touches).drop lifted |>.map fun id =>
    ⟨⟨id⟩, ⟨center.x, center.y + .ofInt id * 60⟩, 0⟩

/-- Show touches that slide apart and then lift one at a time. -/
def touch (d : Demonstration) (center : Point) (touches : Nat) (spotFade : Nanos) :
    Demonstration :=
  let d := d.command (.present .spot)
  let d := (List.range 20).foldl (fun d moment =>
    (d.command (.setSpots (slidingContacts center touches moment) .builtin)).pass 1) d
  let d := (List.range touches).foldl (fun d lifted =>
    (d.command (.setSpots (remainingContacts center touches (lifted + 1)) .builtin)).pass 2) d
  (d.settle spotFade).command (.present .pointer)

/-- Turn the display by quarters and report where the pointer is carried. -/
def turn (d : Demonstration) : Nat → Demonstration
  | 0 => d
  | turns + 1 =>
    let rotation := d.session.reported.rotation.next
    let d := d.step (.rotate rotation)
    let d := d.report ("Rotated to " ++ toString rotation.degrees ++ " degrees, pointer at "
      ++ placeText d.position)
    turn d turns

def finish (d : Demonstration) : Demonstration :=
  let d := d.step .drop
  d.report ("Controller released, " ++ toString d.session.host.world.surface.placed.length
    ++ " sprites left")

end Demonstration

def demonstrate (settings : Settings) (o : RunOptions) : List String :=
  let start : Demonstration := {
    session := Session.begin {} demonstrationIcons settings
    frame := PacedClock.periodOf o.refreshHz }
  let d := start.report ("Starting session: " ++ toString o.width ++ "x" ++ toString o.height
    ++ " at " ++ toString o.refreshHz ++ " Hz, " ++ toString o.touches ++ " touches, "
    ++ toString o.rotations ++ " rotations")
  let center : Point := ⟨Binary.ofInt o.width / 2, Binary.ofInt o.height / 2⟩
  let d := d.command (.setViewport (.whole .builtin o.width o.height))
  let d := ((d.command (.reveal .gradual)).settle settings.pointerFade).sweep.wait
  let d := (d.touch center o.touches settings.spotFade).turn o.rotations
  let d := (d.command (.hide .gradual)).settle settings.pointerFade
  d.finish.lines

end ScreenPointer.CommandLine
