/-
# The icons at hand

Which icons a controller can put on its pointer, and which one it is asked for, make up
a small part of its state.  Loading fills the table of further icons or empties it, a
custom icon adds to it, and going back to the mouse pointer fills it only if nothing is
there.  `Turns` lists what a step can do; notices of the clock do nothing at all.
-/

import Mathlib.Data.List.Induction
import ScreenPointer.Proofs.Undrawn

namespace ScreenPointer

/-- The icons a controller can draw from, and what it is asked to show.  Which icon is shown on a
display depends on nothing else, but for the frame of an animation. -/
structure IconView where
  catalogue : Catalogue
  /-- How often the icons of a display were loaded. -/
  loads : Nat
  valid : Bool
  presentation : Presentation
  requested : IconId
  mouse : MouseIcons
  deriving DecidableEq

namespace IconView

def blank (catalogue : Catalogue) (loads : Nat) : IconView :=
  ⟨catalogue, loads, false, .pointer, catalogue.defaultId, .empty⟩

/-- The icons of the display are loaded, further ones only for a mouse pointer. -/
def loaded (v : IconView) : IconView :=
  { v with
    loads := v.loads + 1
    mouse := match v.presentation with
      | .pointer => v.catalogue.mouse
      | .spot => .empty }

def pointing (v : IconView) : IconView :=
  { v with
    presentation := .pointer
    mouse := if v.mouse.isEmpty && v.valid then v.catalogue.mouse else v.mouse }

/-- An icon of the application's own is installed and asked for. -/
def withCustom (v : IconView) (icon : Icon) : IconView :=
  { v with
    requested := v.catalogue.customId
    mouse := ⟨v.mouse.icons.insert v.catalogue.customId icon,
      v.mouse.animations.erase v.catalogue.customId⟩ }

/-- The application's icon leaves the others alone. -/
theorem find?_withCustom_of_ne (v : IconView) (icon : Icon) {id : IconId}
    (hid : id ≠ v.catalogue.customId) :
    (v.withCustom icon).mouse.icons.find? id = v.mouse.icons.find? id :=
  Keyed.find?_insert_of_ne hid icon v.mouse.icons

/-- What a command can do to the icons at hand. -/
inductive Turns (v : IconView) : Command → IconView → Prop
  | kept (command : Command) : Turns v command v
  | away {viewport : Viewport} (gone : viewport.isValid = false) :
    Turns v (.setViewport viewport) { v with valid := false }
  | displayed {viewport : Viewport} (shown : viewport.isValid = true) :
    Turns v (.setViewport viewport) { v with valid := true }.loaded
  | reloaded (valid : v.valid = true) : Turns v .reload v.loaded
  | spots : Turns v (.present .spot) { v with presentation := .spot }
  | pointing (spots : v.presentation = .spot) : Turns v (.present .pointer) v.pointing
  | asked (id : IconId) : Turns v (.requestIcon id) { v with requested := id }
  | custom (icon : Icon) : Turns v (.setCustomIcon icon) (v.withCustom icon)

theorem Turns.catalogue {v w : IconView} {command : Command} (h : v.Turns command w) :
    w.catalogue = v.catalogue := by
  cases h <;> rfl

end IconView

def Scene.iconView (v : Scene) : IconView :=
  ⟨v.catalogue, v.loads.pointer, v.controller.viewport.isValid, v.controller.pointer.presentation,
    v.controller.pointer.requested, v.controller.mouse⟩

/-- The icons at hand; without a controller there are none. -/
def Host.iconView (h : Host) : IconView :=
  match h.controller with
  | none => .blank h.world.catalogue h.world.loads.pointer
  | some c => (c.sceneIn h.world).iconView

theorem Host.iconView_of_some {h : Host} {c : Controller} (hc : h.controller = some c) :
    h.iconView = (c.sceneIn h.world).iconView := by
  unfold iconView
  rw [hc]

/-- Where a display is valid there is a controller. -/
theorem Host.exists_controller {h : Host} (hvalid : h.iconView.valid = true) :
    ∃ c, h.controller = some c := by
  cases hc : h.controller with
  | none =>
      rw [iconView, hc] at hvalid
      cases hvalid
  | some c => exact ⟨c, rfl⟩

theorem Host.iconView_of_none {h : Host} (hnone : h.controller = none) :
    h.iconView = .blank h.world.catalogue h.world.loads.pointer := by
  unfold iconView
  rw [hnone]

/-! ## What a command does -/

namespace Live

theorem iconView_of_undrawn {l l' : Live} (h : l'.scene.undrawn = l.scene.undrawn) :
    l'.scene.iconView = l.scene.iconView := by
  have hview : l'.scene.undrawn.iconView = l.scene.undrawn.iconView := congrArg Scene.iconView h
  exact hview

@[simp]
theorem present_iconView (l : Live) : l.present.scene.iconView = l.scene.iconView :=
  iconView_of_undrawn l.present_undrawn

@[simp]
theorem fadeAllSpots_iconView (l : Live) :
    l.fadeAllSpots.scene.iconView = l.scene.iconView :=
  iconView_of_undrawn l.fadeAllSpots_undrawn

theorem place_iconView (l : Live) (p : Point) :
    (l.place p).scene.iconView = l.scene.iconView := by
  unfold place
  split
  · rfl
  · exact present_iconView _

theorem loadIcons_iconView (l : Live) :
    l.loadIcons.scene.iconView =
      if l.controller.viewport.isValid then l.scene.iconView.loaded else l.scene.iconView := by
  unfold loadIcons
  by_cases hvalid : l.controller.viewport.isValid = true
  · rw [if_pos hvalid, if_pos hvalid]
    cases hpresented : l.controller.pointer.presentation <;>
      simp [scene, Controller.sceneIn, Controller.unclocked, Scene.iconView, IconView.loaded,
        loadMouse, hpresented]
  · rw [if_neg hvalid, if_neg hvalid]

theorem requestIcon_iconView (l : Live) (id : IconId) :
    (l.requestIcon id).scene.iconView = { l.scene.iconView with requested := id } := by
  unfold requestIcon
  split
  · rename_i hsame
    subst hsame
    rfl
  · exact present_iconView _

theorem setCustomIcon_iconView (l : Live) (icon : Icon) :
    (l.setCustomIcon icon).scene.iconView = l.scene.iconView.withCustom icon :=
  present_iconView _

theorem setPresentation_iconView (l : Live) (presentation : Presentation) :
    (l.setPresentation presentation).scene.iconView =
      match presentation, l.controller.pointer.presentation with
      | .pointer, .spot => l.scene.iconView.pointing
      | .pointer, .pointer => l.scene.iconView
      | .spot, _ => { l.scene.iconView with presentation := .spot } := by
  unfold setPresentation
  cases presentation with
  | pointer =>
      cases hpresented : l.controller.pointer.presentation with
      | pointer => rfl
      | spot =>
          rw [if_neg nofun]
          dsimp only
          rw [present_iconView, fadeAllSpots_iconView]
          split
          · rename_i hlazy
            simp only [IconView.pointing]
            rw [if_pos (by exact hlazy)]
            rfl
          · rename_i hlazy
            simp only [IconView.pointing]
            rw [if_neg (by exact hlazy)]
            rfl
  | spot =>
      cases hpresented : l.controller.pointer.presentation with
      | pointer =>
          rw [if_neg nofun]
          exact present_iconView _
      | spot =>
          have hspots : l.scene.iconView.presentation = .spot := hpresented
          rw [if_pos rfl]
          dsimp only
          rw [← hspots]

/-- A viewport that is valid as the one before was keeps the icons. -/
theorem withViewport_iconView {l : Live} {viewport : Viewport}
    (heq : l.controller.viewport.isValid = viewport.isValid) :
    { l with controller.viewport := viewport }.scene.iconView = l.scene.iconView := by
  simp only [scene, Controller.sceneIn, Controller.unclocked, Scene.iconView, heq]

theorem applyViewport_turns (l : Live) (viewport : Viewport) :
    l.scene.iconView.Turns (.setViewport viewport) (l.applyViewport viewport).scene.iconView := by
  unfold applyViewport
  dsimp only
  split
  · exact .kept _
  · rw [present_iconView]
    cases hchange : l.controller.viewport.changeTo viewport with
    | reset =>
        dsimp only
        rw [fadeAllSpots_iconView]
        cases hvalid : viewport.isValid with
        | true =>
            rw [show viewport.bounds? = some _ from if_pos hvalid]
            dsimp only
            rw [loadIcons_iconView, if_pos hvalid]
            have hturned := IconView.Turns.displayed (v := l.scene.iconView) hvalid
            rw [← hvalid] at hturned
            exact hturned
        | false =>
            rw [show viewport.bounds? = none from if_neg (Bool.eq_false_iff.mp hvalid)]
            have hturned := IconView.Turns.away (v := l.scene.iconView) hvalid
            rw [← hvalid] at hturned
            exact hturned
    | reorient =>
        rw [← withViewport_iconView (Viewport.isValid_of_changeTo (by rw [hchange]; nofun))]
        exact .kept _
    | unchanged =>
        rw [← withViewport_iconView (Viewport.isValid_of_changeTo (by rw [hchange]; nofun))]
        exact .kept _

theorem turns_of_eq {l l' : Live} {command : Command}
    (h : l'.scene.iconView = l.scene.iconView) :
    l.scene.iconView.Turns command l'.scene.iconView := by
  rw [h]
  exact .kept command

theorem perform_turns (l : Live) (command : Command) :
    l.scene.iconView.Turns command (l.perform command).scene.iconView := by
  cases command with
  | moveBy dx dy =>
      dsimp only [perform]
      split
      · exact .kept _
      · exact turns_of_eq (place_iconView l _)
  | place p => exact turns_of_eq (place_iconView l p)
  | setButtons buttons => exact .kept _
  | hide transition => exact turns_of_eq (iconView_of_undrawn (hide_undrawn l transition))
  | reveal transition => exact turns_of_eq (iconView_of_undrawn (reveal_undrawn l transition))
  | present presentation =>
      rw [perform, setPresentation_iconView]
      split
      · rename_i hspots
        exact .pointing hspots
      · exact .kept _
      · exact .spots
  | setSpots contacts display =>
      exact turns_of_eq (iconView_of_undrawn (setSpots_undrawn l contacts display))
  | clearSpots =>
      dsimp only [perform]
      split
      · exact turns_of_eq (fadeAllSpots_iconView l)
      · exact .kept _
  | setTimeout timeout =>
      dsimp only [perform]
      split
      · exact .kept _
      · have hrestarted := undrawn_of_scene (restartInactivity_scene { l with
          controller.inactivity.timeout := timeout })
        exact turns_of_eq ((iconView_of_undrawn hrestarted).trans rfl)
  | setViewport viewport => exact applyViewport_turns l viewport
  | requestIcon id =>
      rw [perform, requestIcon_iconView]
      exact .asked id
  | setCustomIcon icon =>
      rw [perform, setCustomIcon_iconView]
      exact .custom icon
  | reload =>
      rw [perform, present_iconView, loadIcons_iconView]
      split
      · rename_i hvalid
        exact .reloaded hvalid
      · exact .kept _

/-- Taking a controller down loads nothing. -/
theorem tearDown_supplies (l : Live) :
    l.tearDown.world.catalogue = l.world.catalogue ∧ l.tearDown.world.loads = l.world.loads := by
  have hcatalogue : l.cancelInactivity.world.catalogue = l.world.catalogue :=
    congrArg Scene.catalogue l.cancelInactivity_scene
  have hloads : l.cancelInactivity.world.loads = l.world.loads :=
    congrArg Scene.loads l.cancelInactivity_scene
  unfold tearDown
  dsimp only
  split <;> exact ⟨hcatalogue, hloads⟩

end Live

/-! ## What a step does -/

/-- Does the step end a controller or make one? -/
def Step.Replaces : Step → Prop
  | .create _ | .drop => True
  | _ => False

namespace Session

def asks? (s : Session) : Step → Option Command
  | .command command => some command
  | .rotate rotation => some (.setViewport (s.reported.rotated rotation))
  | _ => none

/-- All but viewports are asked for by name. -/
theorem eq_command_of_asks {s : Session} {step : Step} {command : Command}
    (h : s.asks? step = some command) (hother : ∀ v, command ≠ .setViewport v) :
    step = .command command := by
  unfold asks? at h
  split at h
  · exact congrArg Step.command (Option.some.inj h)
  · exact absurd (Option.some.inj h).symm (hother _)
  · cases h

theorem hear_iconView (id : ListenerId) (notice : Notice) (c : ManualClock) (h : Host) :
    (Host.hear id notice c h).2.2.iconView = h.iconView := by
  obtain ⟨controller, world⟩ := h
  cases controller with
  | none => cases notice <;> rfl
  | some controller =>
      exact Live.iconView_of_undrawn (Live.receive_undrawn ⟨controller, c, world⟩ notice)

/-- The faults of the line do not concern the icons. -/
theorem faults_iconView (h : Host) (faults : LineFaults) :
    { h with world.faults := faults }.iconView = h.iconView := by
  obtain ⟨controller, world⟩ := h
  cases controller <;> rfl

/-- Between the calls of its owner a controller keeps its icons. -/
theorem iconView_hears (v : IconView) : Hears (fun d => d.2.iconView = v) fun _ => True :=
  hears_of_hear hear_iconView faults_iconView v

inductive Turns (s : Session) (step : Step) : IconView → Prop
  | kept : Turns s step s.host.iconView
  | cleared (replaces : step.Replaces) :
    Turns s step (.blank s.host.iconView.catalogue s.host.iconView.loads)
  | turned {c : Controller} {command : Command} {w : IconView}
    (working : s.host.controller = some c) (asks : s.asks? step = some command)
    (turns : s.host.iconView.Turns command w) : Turns s step w

theorem command_turns (s : Session) (step : Step) (command : Command)
    (hasks : s.asks? step = some command) :
    s.Turns step (s.command command).2.host.iconView := by
  obtain ⟨clock, ⟨controller, world⟩, reported⟩ := s
  cases controller with
  | none => exact .kept
  | some c =>
      have hturns := (Live.mk c clock world).perform_turns command
      have hview : ((Session.mk clock ⟨some c, world⟩ reported).command command).2.host.iconView =
          ((Live.mk c clock world).perform command).scene.iconView := by
        cases command <;> rfl
      rw [hview]
      exact .turned rfl hasks hturns

theorem drop_iconView (s : Session) :
    s.drop.host.iconView = .blank s.host.iconView.catalogue s.host.iconView.loads := by
  cases hc : s.host.controller with
  | none => rw [drop_of_none hc, Host.iconView_of_none hc]; rfl
  | some c =>
      obtain ⟨hcatalogue, hloads⟩ := (Live.mk c s.clock s.host.world).tearDown_supplies
      obtain ⟨line, hdrop⟩ := drop_of_some hc
      rw [hdrop, Host.iconView_of_some hc, Host.iconView_of_none rfl]
      dsimp only
      rw [hcatalogue, hloads]
      rfl

theorem step_turns (s : Session) (step : Step) :
    s.Turns step (s.step step).2.host.iconView := by
  cases hcall : step.isCall with
  | false =>
      rw [(iconView_hears s.host.iconView).step s hcall trivial rfl]
      exact .kept
  | true =>
      cases step with
      | create settings =>
          have hmade : (s.step (.create settings)).2.host.iconView = s.drop.host.iconView := by
            have hnone : s.drop.host.controller = none := by
              cases hc : s.host.controller with
              | none => rw [drop_of_none hc, hc]
              | some c =>
                  obtain ⟨line, hdrop⟩ := drop_of_some hc
                  rw [hdrop]
            rw [Host.iconView_of_none hnone]
            simp only [Session.step, start]
            split <;> rfl
          rw [hmade, drop_iconView]
          exact .cleared trivial
      | drop =>
          rw [show (s.step .drop).2.host.iconView = _ from s.drop_iconView]
          exact .cleared trivial
      | command command => exact command_turns s _ command rfl
      | rotate rotation => exact command_turns s _ _ rfl
      | _ => cases hcall

theorem step_setCustomIcon_iconView {s : Session} {c : Controller} (hc : s.host.controller = some c)
    (icon : Icon) : (s.step (.command (.setCustomIcon icon))).2.host.iconView =
      s.host.iconView.withCustom icon := by
  obtain ⟨clock, ⟨controller, world⟩, reported⟩ := s
  cases hc
  exact Live.setCustomIcon_iconView ⟨c, clock, world⟩ icon

/-- No step changes the catalogue. -/
theorem step_iconView_catalogue (s : Session) (step : Step) :
    (s.step step).2.host.iconView.catalogue = s.host.iconView.catalogue := by
  have hturns := s.step_turns step
  generalize (s.step step).2.host.iconView = w at hturns ⊢
  cases hturns with
  | kept => rfl
  | cleared replaces => rfl
  | turned working asks turns => exact turns.catalogue

theorem run_iconView_catalogue (now : Nanos) (connected : Bool) (catalogue : Catalogue)
    (steps : List Step) :
    ((blank now connected catalogue).run steps).host.iconView.catalogue = catalogue := by
  induction steps using List.reverseRecOn with
  | nil => rfl
  | append_singleton steps step ih => rw [run_concat, step_iconView_catalogue, ih]

end Session

end ScreenPointer
