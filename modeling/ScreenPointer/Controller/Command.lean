/-
# Commands

Everything a caller can ask of a controller.  A command never fails: what cannot
be done now, for want of a display or of a clock, is left out.
-/

import ScreenPointer.Controller.Animation

namespace ScreenPointer

inductive Command
  | moveBy (dx dy : Single)
  | place (p : Point)
  | setButtons (buttons : Buttons)
  | hide (transition : Transition)
  | reveal (transition : Transition)
  | present (presentation : Presentation)
  /-- The contacts that are down on a display. -/
  | setSpots (contacts : List Contact) (display : DisplayId)
  | clearSpots
  | setTimeout (timeout : InactivityTimeout)
  | setViewport (viewport : Viewport)
  | requestIcon (id : IconId)
  | setCustomIcon (icon : Icon)
  | reload
  deriving DecidableEq

namespace Live

def perform (l : Live) : Command → Live
  | .moveBy dx dy =>
    if dx.same 0 && dy.same 0 then l
    else
      let p := l.controller.pointer.position
      l.place ⟨p.x + dx, p.y + dy⟩
  | .place p => l.place p
  | .setButtons buttons => { l with controller.buttons := buttons }
  | .hide transition => l.hide transition
  | .reveal transition => l.reveal transition
  | .present presentation => l.setPresentation presentation
  | .setSpots contacts display => l.setSpots contacts display
  | .clearSpots => if l.controller.viewport.isValid then l.fadeAllSpots else l
  | .setTimeout timeout =>
    if l.controller.inactivity.timeout = timeout then l
    else { l with controller.inactivity.timeout := timeout }.restartInactivity
  | .setViewport viewport => l.applyViewport viewport
  | .requestIcon id => l.requestIcon id
  | .setCustomIcon icon => l.setCustomIcon icon
  | .reload => l.loadIcons.present

end Live

end ScreenPointer
