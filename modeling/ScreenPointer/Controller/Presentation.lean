/-
# Presenting the pointer

The pointer sprite follows the state: layer, position, display, opacity and icon
are written in one transaction whenever one of them may have changed.  Which icon
is shown is a function of the state alone, `Controller.iconChoice`.  Without a
display nothing is written.
-/

import ScreenPointer.Controller.Line
import ScreenPointer.Display.Reorientation

namespace ScreenPointer

/-- What the pointer sprite is to show. -/
structure IconChoice where
  /-- The icon to write; none leaves the sprite's icon. -/
  icon : Option Icon
  /-- Does its animation start over? -/
  animated : Bool := false
  missing : Bool := false
  deriving DecidableEq

namespace Controller

/-- The icon for the pointer sprite.  An icon that is not loaded is replaced by the
default pointer. -/
def iconChoice (c : Controller) (defaultId : IconId) : IconChoice :=
  match c.pointer.presentation with
  | .spot => { icon := c.icons.map (·.spots.anchor) }
  | .pointer =>
    let requested := c.pointer.requested
    if requested = defaultId then { icon := c.icons.map (·.pointer) }
    else
      match c.mouse.icons.find? requested with
      | some icon => { icon, animated := (c.mouse.animations.find? requested).isSome }
      | none => { icon := c.icons.map (·.pointer), missing := true }

end Controller

namespace Live

/-- Write the icon of the pointer sprite.  Tells whether an animation starts over. -/
def writeIcon (l : Live) (sprite : SpriteId) : Bool × Live :=
  let choice := l.controller.iconChoice l.world.catalogue.defaultId
  let l := if choice.missing then
      { l with world := l.world.report (.iconMissing l.controller.pointer.requested) }
    else l
  let l := if choice.animated then
      { l with
        controller.pointer.frame := 0
        controller.pointer.frameTime := l.clock.now }
    else l
  let l := match choice.icon with
    | some icon => l.onSurface (·.setIcon sprite icon)
    | none => l
  (choice.animated,
    { l with controller.iconChanged := false, controller.presentationChanged := false })

/-- Write position, display and opacity of the pointer sprite. -/
def writePlace (l : Live) (sprite : SpriteId) : Live :=
  let pointer := l.controller.pointer
  l.onSurface fun s =>
    let s := s
      |>.setLayer sprite Layer.pointer
      |>.setPosition sprite pointer.position
      |>.setDisplay sprite l.controller.viewport.display
    if (0 : Single).less pointer.fade.alpha then
      (s.setAlpha sprite pointer.fade.alpha).setVisible sprite true
    else
      s.setVisible sprite false

def present (l : Live) : Live :=
  match l.controller.viewport.isValid, l.controller.sprite with
  | true, some sprite =>
    let l := (l.onSurface (·.openTransaction)).writePlace sprite
    let (animated, l) :=
      if l.controller.iconChanged || l.controller.presentationChanged then l.writeIcon sprite
      else (false, l)
    let l := l.onSurface (·.closeTransaction)
    if animated then l.startAnimation else l
  | _, _ => l

/-- Put the pointer at a place, moved into the display.  Without a display nothing
happens. -/
def place (l : Live) (p : Point) : Live :=
  match l.controller.viewport.bounds? with
  | none => l
  | some bounds => { l with controller.pointer.position := bounds.clamp p }.present

def fadeAllSpots (l : Live) : Live :=
  let (started, spots) := l.controller.spots.fadeAll
  let l := { l with controller.spots := spots }
  if started then l.startAnimation else l

/-- Hide the pointer, and give up the inactivity timeout. -/
def hide (l : Live) (transition : Transition) : Live :=
  let l := l.cancelInactivity
  match transition with
  | .immediate => { l with controller.pointer.fade := ⟨0, .idle⟩ }.present
  | .gradual => { l with controller.pointer.fade.direction := .out }.startAnimation

/-- Show the pointer, and restart the inactivity timeout. -/
def reveal (l : Live) (transition : Transition) : Live :=
  let l := l.restartInactivity
  match transition with
  | .immediate => { l with controller.pointer.fade := ⟨1, .idle⟩ }.present
  | .gradual => { l with controller.pointer.fade.direction := .into }.startAnimation

def loadMouse (l : Live) : Live :=
  { l with
    controller.mouse := l.world.catalogue.mouse
    world.loads.mouse := l.world.loads.mouse + 1 }

/-- Load the icons of the display.  Further pointer icons are loaded only when a
mouse pointer is presented, and forgotten otherwise. -/
def loadIcons (l : Live) : Live :=
  if l.controller.viewport.isValid then
    let catalogue := l.world.catalogue
    let l := { l with
      controller.icons := some ⟨catalogue.pointer, catalogue.spots⟩
      controller.mouse := .empty
      world.loads.pointer := l.world.loads.pointer + 1 }
    let l := match l.controller.pointer.presentation with
      | .pointer => l.loadMouse
      | .spot => l
    { l with controller.iconChanged := true }
  else l

/-- Take over a new viewport, and the pointer with it.  The same viewport again
changes nothing. -/
def applyViewport (l : Live) (viewport : Viewport) : Live :=
  let old := l.controller.viewport
  if old = viewport then l
  else
    let l := { l with controller.viewport := viewport }
    let l := match old.changeTo viewport with
      | .reset =>
        let l := match viewport.bounds? with
          | some bounds => { l with controller.pointer.position := bounds.center }.loadIcons
          | none => { l with controller.pointer.position := .origin }
        l.fadeAllSpots
      | .reorient =>
        { l with controller.pointer.position := old.carry viewport l.controller.pointer.position }
      | .unchanged => l
    l.present

/-- Present a mouse pointer or the anchor of the spots.  Going back to the mouse
pointer loads its icons if there are none and lets the spots fade. -/
def setPresentation (l : Live) (presentation : Presentation) : Live :=
  if l.controller.pointer.presentation = presentation then l
  else
    let l := { l with
      controller.pointer.presentation := presentation
      controller.presentationChanged := true }
    let l := match presentation with
      | .pointer =>
        let l :=
          if l.controller.mouse.isEmpty && l.controller.viewport.isValid then l.loadMouse else l
        l.fadeAllSpots
      | .spot => l
    l.present

def requestIcon (l : Live) (id : IconId) : Live :=
  if l.controller.pointer.requested = id then l
  else
    { l with
      controller.pointer.requested := id
      controller.iconChanged := true }.present

/-- Install an icon of the application's own, and ask for it. -/
def setCustomIcon (l : Live) (icon : Icon) : Live :=
  let id := l.world.catalogue.customId
  let mouse := l.controller.mouse
  { l with
    controller.mouse := ⟨mouse.icons.insert id icon, mouse.animations.erase id⟩
    controller.pointer.requested := id
    controller.iconChanged := true }.present

/-- Show the contacts of a display as spots, in one frame.  Nothing happens without
a display or before its icons are loaded. -/
def setSpots (l : Live) (contacts : List Contact) (display : DisplayId) : Live :=
  match l.controller.viewport.isValid, l.controller.icons with
  | true, some icons =>
    let l := l.onSurface (·.openTransaction)
    let (started, spots, surface) :=
      l.controller.spots.update contacts display icons.spots l.world.surface
    let l := { l with controller.spots := spots, world.surface := surface.closeTransaction }
    if started then l.startAnimation else l
  | _, _ => l

end Live

end ScreenPointer
