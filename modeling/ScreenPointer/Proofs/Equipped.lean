/-
# Equipped or dormant

A controller lets a call pass when something is missing that the call needs.  On a display
nothing ever is: the sprite is made with the controller, and losing a display and getting one
both start over, so the icons are there before anything is drawn with them.  Without a display
the icons may be missing, and calls that would show spots or let them fade do nothing.  Nothing
is left undone by that: no contact has a spot then, because losing the display has let all
spots fade and nothing has shown one since.

`Strict` is what a controller does if it insists on sprite and icons instead of letting calls
pass.  It comes to the same.
-/

import ScreenPointer.Proofs.Chronicle
import ScreenPointer.Proofs.Drawing
import ScreenPointer.Proofs.Layout
import ScreenPointer.Proofs.Shading
import ScreenPointer.Proofs.Spots.Each

namespace ScreenPointer

/-! ## Insisting -/

namespace Strict

/-- Bring the pointer sprite up to date.  On a display the sprite and the icons have to be there. -/
def present (l : Live) : Option Live :=
  if l.controller.viewport.isValid &&
      (l.controller.sprite.isNone || l.controller.icons.isNone) then none
  else some l.present

/-- Show the contacts of a display as spots.  On a display the icons have to be there. -/
def setSpots (l : Live) (contacts : List Contact) (display : DisplayId) : Option Live :=
  if l.controller.viewport.isValid && l.controller.icons.isNone then none
  else some (l.setSpots contacts display)

def place (l : Live) (p : Point) : Option Live :=
  match l.controller.viewport.bounds? with
  | none => some l
  | some bounds => present { l with controller.pointer.position := bounds.clamp p }

def hide (l : Live) : Transition → Option Live
  | .immediate => present { l.cancelInactivity with controller.pointer.fade := ⟨0, .idle⟩ }
  | .gradual => some (l.hide .gradual)

def reveal (l : Live) : Transition → Option Live
  | .immediate => present { l.restartInactivity with controller.pointer.fade := ⟨1, .idle⟩ }
  | .gradual => some (l.reveal .gradual)

/-- A new viewport taken over, with all that goes with it but presenting the pointer. -/
def withViewport (l : Live) (viewport : Viewport) : Live :=
  let old := l.controller.viewport
  let l := { l with controller.viewport := viewport }
  match old.changeTo viewport with
  | .reset =>
    let l := match viewport.bounds? with
      | some bounds => { l with controller.pointer.position := bounds.center }.loadIcons
      | none => { l with controller.pointer.position := .origin }
    l.fadeAllSpots
  | .reorient =>
    { l with controller.pointer.position := old.carry viewport l.controller.pointer.position }
  | .unchanged => l

def applyViewport (l : Live) (viewport : Viewport) : Option Live :=
  if l.controller.viewport = viewport then some l else present (withViewport l viewport)

/-- A presentation chosen, with all that goes with it but presenting the pointer. -/
def withPresentation (l : Live) (presentation : Presentation) : Live :=
  let l := { l with
    controller.pointer.presentation := presentation
    controller.presentationChanged := true }
  match presentation with
  | .pointer =>
    let l :=
      if l.controller.mouse.isEmpty && l.controller.viewport.isValid then l.loadMouse else l
    l.fadeAllSpots
  | .spot => l

def setPresentation (l : Live) (presentation : Presentation) : Option Live :=
  if l.controller.pointer.presentation = presentation then some l
  else present (withPresentation l presentation)

def requestIcon (l : Live) (id : IconId) : Option Live :=
  if l.controller.pointer.requested = id then some l
  else
    present { l with
      controller.pointer.requested := id
      controller.iconChanged := true }

def setCustomIcon (l : Live) (icon : Icon) : Option Live :=
  let id := l.world.catalogue.customId
  let mouse := l.controller.mouse
  present { l with
    controller.mouse := ⟨mouse.icons.insert id icon, mouse.animations.erase id⟩
    controller.pointer.requested := id
    controller.iconChanged := true }

def perform (l : Live) : Command → Option Live
  | .moveBy dx dy =>
    if dx.same 0 && dy.same 0 then some l
    else
      let p := l.controller.pointer.position
      place l ⟨p.x + dx, p.y + dy⟩
  | .place p => place l p
  | .hide transition => hide l transition
  | .reveal transition => reveal l transition
  | .present presentation => setPresentation l presentation
  | .setSpots contacts display => setSpots l contacts display
  | .setViewport viewport => applyViewport l viewport
  | .requestIcon id => requestIcon l id
  | .setCustomIcon icon => setCustomIcon l icon
  | .reload => present l.loadIcons
  | command => some (l.perform command)

def fadePointer (l : Live) (elapsed : Nanos) : Option (Bool × Live) :=
  let fade := l.controller.pointer.fade
  if fade.isRunning then
    let (fade, goes) := fade.advance elapsed l.controller.settings.pointerFade
    (present { l with controller.pointer.fade := fade }).map fun l => (goes, l)
  else some (false, l)

def tick (l : Live) (timestamp : Nanos) : Option Live := do
  let elapsed := l.controller.scheduler.elapsed timestamp
  let l := { l with controller.scheduler.pending := false }
  let l := l.onSurface (·.openTransaction)
  let (pointerFading, l) ← fadePointer l elapsed
  let (spotsFading, l) := l.fadeSpots elapsed
  let (playing, l) := l.flipFrame timestamp
  let l := l.onSurface (·.closeTransaction)
  some (if pointerFading || spotsFading || playing then l.startAnimation else l)

def receive (l : Live) : Notice → Option Live
  | .events events =>
    match latestVsync? events with
    | none => some l
    | some timestamp => if l.controller.tornDown then some l else tick l timestamp
  | .timer token => some (l.receive (.timer token)).2
  | .failure => some (l.receive .failure).2

def follow (l : Live) : Cause → Option Live
  | .command c => perform l c
  | .notice n => receive l n

end Strict

/-! ## Equipped -/

/-- There is a sprite and, on a display, there are icons.  Then no operation comes to the point
where it returns for want of them. -/
structure Controller.Equipped (c : Controller) : Prop where
  sprite : c.sprite.isSome = true
  icons : c.viewport.isValid = true → c.icons.isSome = true

theorem Scene.Staged.equipped {pointer : SpriteId} {l : Live} (h : Staged pointer l.scene) :
    l.controller.Equipped where
  sprite := by
    have hsprite : l.controller.sprite = some pointer := h.kept.sprite
    rw [hsprite]
    rfl
  icons := h.loaded

theorem Controller.Equipped.of_undrawn {l l' : Live} (h : l.controller.Equipped)
    (heq : l'.scene.undrawn = l.scene.undrawn) : l'.controller.Equipped := by
  have hsprite : l'.controller.sprite = l.controller.sprite :=
    congrArg (fun v => v.controller.sprite) heq
  have hicons : l'.controller.icons = l.controller.icons :=
    congrArg (fun v => v.controller.icons) heq
  have hviewport : l'.controller.viewport = l.controller.viewport :=
    congrArg (fun v => v.controller.viewport) heq
  exact ⟨hsprite ▸ h.sprite, fun hvalid => hicons ▸ h.icons (hviewport ▸ hvalid)⟩

namespace Strict

variable {l : Live}

theorem present_eq (h : l.controller.Equipped) : present l = some l.present := by
  unfold present
  cases hvalid : l.controller.viewport.isValid with
  | false => rfl
  | true =>
      obtain ⟨sprite, hsprite⟩ := Option.isSome_iff_exists.mp h.sprite
      obtain ⟨icons, hicons⟩ := Option.isSome_iff_exists.mp (h.icons hvalid)
      rw [hsprite, hicons]
      rfl

theorem setSpots_eq (h : l.controller.Equipped) (contacts : List Contact) (display : DisplayId) :
    setSpots l contacts display = some (l.setSpots contacts display) := by
  unfold setSpots
  cases hvalid : l.controller.viewport.isValid with
  | false => rfl
  | true =>
      obtain ⟨icons, hicons⟩ := Option.isSome_iff_exists.mp (h.icons hvalid)
      rw [hicons]
      rfl

theorem place_eq (h : l.controller.Equipped) (p : Point) : place l p = some (l.place p) := by
  unfold place Live.place
  cases l.controller.viewport.bounds? with
  | none => rfl
  | some bounds => exact present_eq ⟨h.sprite, h.icons⟩

theorem hide_eq (h : l.controller.Equipped) (transition : Transition) :
    hide l transition = some (l.hide transition) := by
  have hcancelled := h.of_undrawn (Live.undrawn_of_scene l.cancelInactivity_scene)
  cases transition with
  | immediate => exact present_eq ⟨hcancelled.sprite, hcancelled.icons⟩
  | gradual => rfl

theorem reveal_eq (h : l.controller.Equipped) (transition : Transition) :
    reveal l transition = some (l.reveal transition) := by
  have hrestarted := h.of_undrawn (Live.undrawn_of_scene l.restartInactivity_scene)
  cases transition with
  | immediate => exact present_eq ⟨hrestarted.sprite, hrestarted.icons⟩
  | gradual => rfl

theorem loadIcons_equipped (h : l.controller.sprite.isSome = true) :
    l.loadIcons.controller.Equipped := by
  refine ⟨?_, l.loadIcons_loaded⟩
  unfold Live.loadIcons
  split
  · dsimp only
    split <;> exact h
  · exact h

theorem fadeAllSpots_equipped (h : l.controller.Equipped) : l.fadeAllSpots.controller.Equipped :=
  h.of_undrawn l.fadeAllSpots_undrawn

theorem withViewport_equipped (h : l.controller.Equipped) (viewport : Viewport) :
    (withViewport l viewport).controller.Equipped := by
  have hkept : l.controller.viewport.changeTo viewport ≠ .reset →
      viewport.isValid = true → l.controller.icons.isSome = true := fun hchange hvalid =>
    h.icons ((Viewport.isValid_of_changeTo hchange).trans hvalid)
  unfold withViewport
  dsimp only
  cases hchange : l.controller.viewport.changeTo viewport with
  | reset =>
      dsimp only
      cases hbounds : viewport.bounds? with
      | none =>
          have hgone := Viewport.bounds?_eq_none.mp hbounds
          exact fadeAllSpots_equipped
            ⟨h.sprite, fun hvalid => absurd hvalid (Bool.eq_false_iff.mp hgone)⟩
      | some bounds => exact fadeAllSpots_equipped (loadIcons_equipped h.sprite)
  | reorient => exact ⟨h.sprite, hkept fun hreset => by cases hchange.symm.trans hreset⟩
  | unchanged => exact ⟨h.sprite, hkept fun hreset => by cases hchange.symm.trans hreset⟩

theorem applyViewport_eq (h : l.controller.Equipped) (viewport : Viewport) :
    applyViewport l viewport = some (l.applyViewport viewport) := by
  by_cases hsame : l.controller.viewport = viewport
  · rw [applyViewport, Live.applyViewport, if_pos hsame, if_pos hsame]
  · rw [applyViewport, Live.applyViewport, if_neg hsame, if_neg hsame,
      present_eq (withViewport_equipped h viewport)]
    rfl

theorem withPresentation_equipped (h : l.controller.Equipped) (presentation : Presentation) :
    (withPresentation l presentation).controller.Equipped := by
  cases presentation with
  | spot => exact ⟨h.sprite, h.icons⟩
  | pointer =>
      apply fadeAllSpots_equipped
      split <;> exact ⟨h.sprite, h.icons⟩

theorem setPresentation_eq (h : l.controller.Equipped) (presentation : Presentation) :
    setPresentation l presentation = some (l.setPresentation presentation) := by
  by_cases hsame : l.controller.pointer.presentation = presentation
  · rw [setPresentation, Live.setPresentation, if_pos hsame, if_pos hsame]
  · rw [setPresentation, Live.setPresentation, if_neg hsame, if_neg hsame,
      present_eq (withPresentation_equipped h presentation)]
    rfl

theorem perform_eq (h : l.controller.Equipped) (command : Command) :
    perform l command = some (l.perform command) := by
  cases command with
  | moveBy dx dy =>
      dsimp only [perform, Live.perform]
      split
      · rfl
      · exact place_eq h _
  | place p => exact place_eq h p
  | hide transition => exact hide_eq h transition
  | reveal transition => exact reveal_eq h transition
  | present presentation => exact setPresentation_eq h presentation
  | setSpots contacts display => exact setSpots_eq h contacts display
  | setViewport viewport => exact applyViewport_eq h viewport
  | requestIcon id =>
      dsimp only [perform, Live.perform, requestIcon, Live.requestIcon]
      split
      · rfl
      · exact present_eq ⟨h.sprite, h.icons⟩
  | setCustomIcon icon => exact present_eq ⟨h.sprite, h.icons⟩
  | reload => exact present_eq (loadIcons_equipped h.sprite)
  | _ => rfl

theorem fadePointer_eq (h : l.controller.Equipped) (elapsed : Nanos) :
    fadePointer l elapsed = some (l.fadePointer elapsed) := by
  unfold fadePointer Live.fadePointer
  dsimp only
  split
  · rw [present_eq]
    · rfl
    · exact ⟨h.sprite, h.icons⟩
  · rfl

theorem tick_eq (h : l.controller.Equipped) (timestamp : Nanos) :
    tick l timestamp = some (l.tick timestamp) := by
  unfold tick
  dsimp only
  rw [fadePointer_eq]
  · rfl
  · exact ⟨h.sprite, h.icons⟩

/-- A controller that is equipped comes to the same when it insists on that. -/
theorem follow_eq (h : l.controller.Equipped) (cause : Cause) :
    follow l cause = some (l.follow cause) := by
  cases cause with
  | command command => exact perform_eq h command
  | notice notice =>
      cases notice with
      | events events =>
          dsimp only [follow, receive, Live.follow, Live.receive]
          cases latestVsync? events with
          | none => rfl
          | some timestamp =>
              cases l.controller.tornDown with
              | true => rfl
              | false => exact tick_eq h timestamp
      | timer token => rfl
      | failure => rfl

/-- On a display without icons it would not. -/
example (catalogue : Catalogue) (sprite : SpriteId) :
    let c := { Controller.new {} none .arrow sprite with viewport := .whole .builtin 800 600 }
    follow ⟨c, {}, { catalogue }⟩ (.command (.place .origin)) = none ∧
      follow ⟨c, {}, { catalogue }⟩ (.command (.setSpots [] .builtin)) = none := ⟨rfl, rfl⟩

end Strict

/-! ## Dormant -/

/-- Without a display every spot is fading. -/
def Scene.Dormant (v : Scene) : Prop :=
  v.controller.viewport.isValid = false → v.controller.spots.Each (·.isFading = true)

namespace SpotPool

variable {pool : SpotPool}

theorem fadeAll_fading : pool.fadeAll.2.Each (·.isFading = true) := by
  have hany : pool.Each fun _ => True := fun _ _ => trivial
  exact hany.fadeAll fun _ _ => rfl

end SpotPool

namespace Live

/-- Without a display nothing shows a spot, and nothing but time ends its fading. -/
theorem Shades.dormant {l : Live} {g : Fade × SpotPool} (h : l.Shades g)
    (hinvalid : l.controller.viewport.isValid = false)
    (hfading : l.controller.spots.Each (·.isFading = true)) : g.2.Each (·.isFading = true) := by
  cases h with
  | kept => exact hfading
  | turned direction => exact hfading
  | ended range => exact hfading
  | released => exact SpotPool.fadeAll_fading
  | reported valid => exact absurd valid (Bool.eq_false_iff.mp hinvalid)
  | ticked forward surface => exact hfading.advanceFades (fun _ hs _ _ => hs) surface

/-- Losing the display lets all spots fade. -/
theorem applyViewport_lost {l : Live} {viewport : Viewport}
    (hvalid : l.controller.viewport.isValid = true) (hlost : viewport.isValid = false) :
    (l.applyViewport viewport).controller.spots = l.controller.spots.fadeAll.2 := by
  have hne : l.controller.viewport ≠ viewport := by
    rintro rfl
    exact Bool.false_ne_true (hlost.symm.trans hvalid)
  have hreset : l.controller.viewport.changeTo viewport = .reset := by
    by_contra hkept
    have hsame := Viewport.isValid_of_changeTo hkept
    rw [hvalid, hlost] at hsame
    exact Bool.false_ne_true hsame.symm
  have hbounds := Viewport.bounds?_eq_none.mpr hlost
  simp only [applyViewport, if_neg hne, hreset, hbounds]
  exact congrArg Prod.snd ((present_shading _).trans (fadeAllSpots_shading _))

theorem perform_dormant (l : Live) (command : Command) (h : l.scene.Dormant) :
    (l.perform command).scene.Dormant := by
  intro hinvalid
  cases hbefore : l.controller.viewport.isValid with
  | false => exact (l.perform_shades command).dormant hbefore (h hbefore)
  | true =>
      have hmoves := l.perform_moves command
      generalize hlayout : (l.perform command).controller.layout = g at hmoves
      have hviewport : (l.perform command).controller.viewport = g.1 := congrArg Prod.fst hlayout
      change (l.perform command).controller.viewport.isValid = false at hinvalid
      rw [hviewport] at hinvalid
      cases hmoves with
      | kept => exact absurd hbefore (Bool.eq_false_iff.mp hinvalid)
      | clamped => exact absurd hbefore (Bool.eq_false_iff.mp hinvalid)
      | replaced new =>
          change (l.applyViewport _).controller.spots.Each _
          rw [applyViewport_lost hbefore hinvalid]
          exact SpotPool.fadeAll_fading

theorem receive_dormant (l : Live) (notice : Notice) (h : l.scene.Dormant) :
    (l.receive notice).2.scene.Dormant := by
  have hviewport : (l.receive notice).2.controller.viewport = l.controller.viewport :=
    congrArg (fun v => v.controller.viewport) (l.receive_undrawn notice)
  intro hinvalid
  change (l.receive notice).2.controller.viewport.isValid = false at hinvalid
  rw [hviewport] at hinvalid
  exact (l.receive_shades notice).dormant hinvalid (h hinvalid)

end Live

/-- A controller without a display is dormant, from its making to its end. -/
theorem dormant_law : SceneLaw (fun _ _ => True) Scene.Dormant where
  empty _ := trivial
  start _ _ _ _ _ := fun _ => SpotPool.each_new _ _ _
  perform l command h := l.perform_dormant command h
  receive l notice h := l.receive_dormant notice h
  tearDown _ _ := trivial

namespace Session

/-- Without a display, reports of contacts and letting spots fade change nothing at all. -/
theorem step_spots_of_invalid {s : Session} {c : Controller} (hc : s.host.controller = some c)
    (hinvalid : c.viewport.isValid = false) :
    (s.step (.command .clearSpots)).2 = s ∧
      ∀ contacts display, (s.step (.command (.setSpots contacts display))).2 = s := by
  obtain ⟨clock, ⟨controller, world⟩, reported⟩ := s
  cases hc
  have hclear : (Live.mk c clock world).perform .clearSpots = ⟨c, clock, world⟩ :=
    if_neg (Bool.eq_false_iff.mp hinvalid)
  have hset : ∀ contacts display,
      (Live.mk c clock world).perform (.setSpots contacts display) = ⟨c, clock, world⟩ := by
    intro contacts display
    simp only [Live.perform, Live.setSpots, hinvalid]
  exact ⟨congrArg (Session.settle _) hclear, fun contacts display =>
    congrArg (Session.settle _) (hset contacts display)⟩

/-- In every state of every run, as long as there is a controller: on a display its icons are loaded,
its sprite exists and nothing is left to write, and without one no spot follows a contact, so that
reports of contacts and letting spots fade, which then change nothing, leave none behind.  And in
all that controllers do on commands and notices, at whatever moment of a delivery they come,
nothing they need is ever missing on a display: insisting on it comes to the same. -/
theorem equipped_or_dormant (now : Nanos) (connected : Bool) (catalogue : Catalogue)
    (steps : List Step) :
    let s := (blank now connected catalogue).run steps
    (∀ c, s.host.controller = some c →
      (c.viewport.isValid = true → c.icons.isSome = true ∧ c.sprite.isSome = true ∧
        c.iconChanged = false ∧ c.presentationChanged = false) ∧
      (c.viewport.isValid = false →
        (∀ e ∈ c.spots.byDisplay, ∀ spot ∈ e.2, spot.isFading = true) ∧
          (s.step (.command .clearSpots)).2 = s ∧
          ∀ contacts display, (s.step (.command (.setSpots contacts display))).2 = s)) ∧
    ∀ act ∈ (blank now connected catalogue).chronicle steps,
      Strict.follow act.before act.cause = some act.after := by
  intro s
  have hs : s.Reachable := ⟨now, connected, catalogue, steps, rfl⟩
  refine ⟨fun c hc => ⟨fun hvalid => ?_, fun hinvalid => ?_⟩, fun act hact => ?_⟩
  · obtain ⟨pointer, hstaged⟩ := staged_law.live_meets hs hc
    have hsprite : c.sprite = some pointer := hstaged.kept.sprite
    obtain ⟨hloaded, hicon, hpresentation, -⟩ := hstaged.upToDate hvalid
    exact ⟨hloaded, by rw [hsprite]; rfl, hicon, hpresentation⟩
  · have hdormant := dormant_law.live_meets hs hc hinvalid
    exact ⟨SpotPool.each_iff.mp hdormant, step_spots_of_invalid hc hinvalid⟩
  · obtain ⟨pointer, hstaged⟩ :=
      staged_law.acts_meet now connected catalogue steps act hact
    exact Strict.follow_eq hstaged.equipped act.cause

/-- A presentation chosen without a display is written once there is one.  When the display is lost
again, the spot of a contact that is still down fades, and reports and clearing change nothing. -/
theorem equipped_or_dormant_of_lost_display :
    let steps : List Step := [.create {}, .command (.present .spot),
      .command (.setViewport (.whole .builtin 800 600)),
      .command (.setSpots [⟨⟨1⟩, .origin, 1⟩] .builtin)]
    let lost : List Step := steps ++ [.command (.setViewport .unset)]
    let s := (blank 0 true .plain).run lost
    (∃ c, ((blank 0 true .plain).run steps).host.controller = some c ∧
      c.viewport.isValid = true ∧ c.icons.isSome = true ∧ c.presentationChanged = false) ∧
    (∃ c, s.host.controller = some c ∧ c.viewport.isValid = false ∧ c.spots.byDisplay.length = 1 ∧
      (∀ e ∈ c.spots.byDisplay, ∀ spot ∈ e.2, spot.isFading = true) ∧
      (s.step (.command .clearSpots)).2 = s) ∧
    ((blank 0 true .plain).chronicle lost).length = 4 ∧
    ∀ act ∈ (blank 0 true .plain).chronicle lost,
      Strict.follow act.before act.cause = some act.after := by
  intro steps lost s
  obtain ⟨hfirst, -⟩ := equipped_or_dormant 0 true .plain steps
  obtain ⟨hlast, hacts⟩ := equipped_or_dormant 0 true .plain lost
  have hshown : ((blank 0 true .plain).run steps).host.controller.map (·.viewport.isValid) =
      some true := by decide +kernel
  have hleft : s.host.controller.map (fun c => (c.viewport.isValid, c.spots.byDisplay.length)) =
      some (false, 1) := by decide +kernel
  obtain ⟨c, hc, hvalid⟩ := Option.map_eq_some_iff.mp hshown
  obtain ⟨c', hc', hstate⟩ := Option.map_eq_some_iff.mp hleft
  obtain ⟨hinvalid, hone⟩ := Prod.mk.inj hstate
  obtain ⟨hloaded, -, -, hwritten⟩ := (hfirst c hc).1 hvalid
  obtain ⟨hfading, hclear, -⟩ := (hlast c' hc').2 hinvalid
  exact ⟨⟨c, hc, hvalid, hloaded, hwritten⟩, ⟨c', hc', hinvalid, hone, hfading, hclear⟩,
    by decide +kernel, hacts⟩

end Session

end ScreenPointer
