/-
# Settings

How long fades last, how long an idle pointer stays, how many spots a display
shows and how large they are.  Every setting has a default.  `check` refuses
values that a controller should not be given by a user; a controller itself
works with any.
-/

import ScreenPointer.Binary.Decimal
import ScreenPointer.Time

namespace ScreenPointer

/-- How long fades last, in milliseconds. -/
structure FadeSettings where
  /-- The pointer, from nothing to full or back. -/
  pointerMs : Nat := 500
  /-- A spot whose contact was lifted. -/
  spotMs : Nat := 200
  deriving DecidableEq

/-- How long an idle pointer stays, in milliseconds. -/
structure InactivitySettings where
  normalMs : Nat := 15000
  shortMs : Nat := 3000
  deriving DecidableEq

structure SpotSettings where
  /-- Spots on one display, fading ones included. -/
  maxSpots : Nat := 12
  /-- Sprites of finished spots that are kept for later ones. -/
  maxRecycled : Nat := 12
  scale : Single := 1
  deriving DecidableEq

/-- Which of the two delays before an idle pointer fades is in force. -/
inductive InactivityTimeout
  | normal | short
  deriving DecidableEq, Repr

/-- All settings of a controller.  What is left out has the default value. -/
structure Settings where
  fade : FadeSettings := {}
  inactivity : InactivitySettings := {}
  spots : SpotSettings := {}
  deriving DecidableEq

/-- What settings are refused for.  Sizes and durations have to be positive, except for the number
of spare sprites. -/
inductive SettingsFault
  | pointerFade
  | spotFade
  | inactivity
  | maxSpots
  | scale (value : Single)
  deriving DecidableEq

namespace SettingsFault

def message : SettingsFault → String
  | pointerFade => "fade.pointer_ms must be > 0"
  | spotFade => "fade.spot_ms must be > 0"
  | inactivity => "inactivity timeouts must be > 0"
  | maxSpots => "spots.max_spots must be >= 1"
  | scale value => "spots.scale must be a positive number, got " ++ value.shortestText

end SettingsFault

namespace Settings

/-- The first fault, in the order in which the settings are declared. -/
def fault? (s : Settings) : Option SettingsFault :=
  if s.fade.pointerMs = 0 then some .pointerFade
  else if s.fade.spotMs = 0 then some .spotFade
  else if s.inactivity.normalMs = 0 ∨ s.inactivity.shortMs = 0 then some .inactivity
  else if s.spots.maxSpots = 0 then some .maxSpots
  else if s.spots.scale.isFinite && (0 : Single).less s.spots.scale then none
  else some (.scale s.spots.scale)

def check (s : Settings) : Except SettingsFault Settings :=
  match s.fault? with
  | none => .ok s
  | some fault => .error fault

/-- Equal settings, the scales compared as numbers. -/
def same (a b : Settings) : Bool :=
  a.fade == b.fade && a.inactivity == b.inactivity
    && a.spots.maxSpots == b.spots.maxSpots && a.spots.maxRecycled == b.spots.maxRecycled
    && a.spots.scale.same b.spots.scale

def pointerFade (s : Settings) : Nanos := .ofMillis s.fade.pointerMs

def spotFade (s : Settings) : Nanos := .ofMillis s.fade.spotMs

def inactivityDelay (s : Settings) : InactivityTimeout → Nanos
  | .normal => .ofMillis s.inactivity.normalMs
  | .short => .ofMillis s.inactivity.shortMs

end Settings

end ScreenPointer
