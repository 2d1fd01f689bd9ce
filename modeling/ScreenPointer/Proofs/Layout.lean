/-
# What moves the pointer

Viewport and position together are the layout of a controller's display.  Placing and moving
set the position, a viewport that replaces another one sets both, and nothing else
changes either: no fade, no icon, no spot, no notice of the clock.  `Moves` lists what
a step can do, so a law about where the pointer is needs one argument for each case.
-/

import Mathlib.Data.List.Induction
import ScreenPointer.Proofs.Undrawn

namespace ScreenPointer

/-- Where the pointer comes to be when a viewport replaces another one. -/
def Viewport.moved (old new : Viewport) (p : Point) : Point :=
  match old.changeTo new with
  | .reset =>
    match new.bounds? with
    | some bounds => bounds.center
    | none => .origin
  | .reorient => old.carry new p
  | .unchanged => p

/-- A step whose viewport, if it names one, has a property. -/
def Step.Installs (P : Viewport → Prop) : Step → Prop
  | .command (.setViewport viewport) => P viewport
  | _ => True

theorem Step.Installs.and {P Q : Viewport → Prop} {step : Step} (h : step.Installs P)
    (h' : step.Installs Q) : step.Installs fun v => P v ∧ Q v := by
  cases step with
  | command command =>
      cases command with
      | setViewport viewport => exact ⟨h, h'⟩
      | _ => exact trivial
  | _ => exact trivial

def Controller.layout (c : Controller) : Viewport × Point := (c.viewport, c.pointer.position)

def Host.layout? (h : Host) : Option (Viewport × Point) := h.controller.map (·.layout)

/-! ## What changes the layout -/

namespace Live

theorem layout_of_undrawn {l l' : Live} (h : l'.scene.undrawn = l.scene.undrawn) :
    l'.controller.layout = l.controller.layout :=
  congrArg (fun v => v.controller.layout) h

@[simp]
theorem present_layout (l : Live) : l.present.controller.layout = l.controller.layout :=
  layout_of_undrawn l.present_undrawn

@[simp]
theorem fadeAllSpots_layout (l : Live) :
    l.fadeAllSpots.controller.layout = l.controller.layout :=
  layout_of_undrawn l.fadeAllSpots_undrawn

@[simp]
theorem loadIcons_layout (l : Live) :
    l.loadIcons.controller.layout = l.controller.layout := by
  unfold loadIcons
  split
  · dsimp only
    split <;> rfl
  · rfl

theorem setPresentation_layout (l : Live) (presentation : Presentation) :
    (l.setPresentation presentation).controller.layout = l.controller.layout := by
  unfold setPresentation
  split
  · rfl
  · simp only [present_layout]
    cases presentation with
    | spot => rfl
    | pointer =>
        simp only [fadeAllSpots_layout]
        split <;> rfl

/-- Placing clamps. -/
theorem place_of_bounds {l : Live} {b : Bounds} (h : l.controller.viewport.bounds? = some b)
    (p : Point) : (l.place p).controller.layout = (l.controller.viewport, b.clamp p) := by
  unfold place
  rw [h]
  exact present_layout _

theorem place_layout (l : Live) (p : Point) :
    (l.place p).controller.layout = l.controller.layout ∨
      ∃ b, l.controller.viewport.bounds? = some b ∧
        (l.place p).controller.layout = (l.controller.viewport, b.clamp p) := by
  cases hbounds : l.controller.viewport.bounds? with
  | none =>
      left
      unfold place
      rw [hbounds]
  | some b => exact .inr ⟨b, rfl, place_of_bounds hbounds p⟩

theorem applyViewport_layout (l : Live) {viewport : Viewport}
    (hne : l.controller.viewport ≠ viewport) :
    (l.applyViewport viewport).controller.layout =
      (viewport, l.controller.viewport.moved viewport l.controller.pointer.position) := by
  simp only [applyViewport, if_neg hne, present_layout, Viewport.moved]
  cases l.controller.viewport.changeTo viewport with
  | reset =>
      simp only [fadeAllSpots_layout]
      cases viewport.bounds? with
      | some b => exact loadIcons_layout _
      | none => rfl
  | reorient => rfl
  | unchanged => rfl

theorem applyViewport_same (l : Live) : l.applyViewport l.controller.viewport = l := if_pos rfl

inductive Moves (l : Live) : Command → Viewport × Point → Prop
  | kept (command : Command) : Moves l command l.controller.layout
  | clamped (command : Command) {b : Bounds} (bounds : l.controller.viewport.bounds? = some b)
    (p : Point) : Moves l command (l.controller.viewport, b.clamp p)
  | replaced {v : Viewport} (new : l.controller.viewport ≠ v) :
    Moves l (.setViewport v) (v, l.controller.viewport.moved v l.controller.pointer.position)

theorem place_moves (l : Live) (command : Command) (p : Point) :
    l.Moves command (l.place p).controller.layout := by
  rcases l.place_layout p with heq | ⟨b, hb, heq⟩
  · rw [heq]
    exact .kept command
  · rw [heq]
    exact .clamped command hb p

theorem moves_of_eq {l l' : Live} {command : Command}
    (h : l'.controller.layout = l.controller.layout) : l.Moves command l'.controller.layout := by
  rw [h]
  exact .kept command

theorem perform_moves (l : Live) (command : Command) :
    l.Moves command (l.perform command).controller.layout := by
  cases command with
  | moveBy dx dy =>
      dsimp only [perform]
      split
      · exact .kept _
      · exact place_moves l _ _
  | place p => exact place_moves l _ p
  | setButtons buttons => exact .kept _
  | hide transition => exact moves_of_eq (layout_of_undrawn (hide_undrawn l transition))
  | reveal transition => exact moves_of_eq (layout_of_undrawn (reveal_undrawn l transition))
  | present presentation => exact moves_of_eq (setPresentation_layout l presentation)
  | setSpots contacts display =>
      exact moves_of_eq (layout_of_undrawn (setSpots_undrawn l contacts display))
  | clearSpots =>
      dsimp only [perform]
      split
      · exact moves_of_eq (fadeAllSpots_layout l)
      · exact .kept _
  | setTimeout timeout =>
      dsimp only [perform]
      split
      · exact .kept _
      · exact moves_of_eq ((layout_of_undrawn (undrawn_of_scene (restartInactivity_scene _))).trans
          rfl)
  | setViewport viewport =>
      by_cases hsame : l.controller.viewport = viewport
      · subst hsame
        exact moves_of_eq (congrArg (·.controller.layout) l.applyViewport_same)
      · rw [perform, applyViewport_layout l hsame]
        exact .replaced hsame
  | requestIcon id =>
      dsimp only [perform, requestIcon]
      split
      · exact .kept _
      · exact moves_of_eq (l := l) (present_layout _)
  | setCustomIcon icon => exact moves_of_eq (l := l) (present_layout _)
  | reload => exact moves_of_eq ((present_layout _).trans (loadIcons_layout l))

end Live

namespace Session

/-- The viewport that a step hands to the controller. -/
def installs? (s : Session) : Step → Option Viewport
  | .command (.setViewport viewport) => some viewport
  | .rotate rotation => some (s.reported.rotated rotation)
  | _ => none

theorem hear_layout (id : ListenerId) (notice : Notice) (c : ManualClock) (h : Host) :
    (Host.hear id notice c h).2.2.layout? = h.layout? := by
  obtain ⟨controller, world⟩ := h
  cases controller with
  | none => cases notice <;> rfl
  | some controller =>
      have hdrawn := Live.receive_undrawn ⟨controller, c, world⟩ notice
      exact congrArg some (Live.layout_of_undrawn hdrawn)

/-- Between the calls of its owner a controller keeps its layout. -/
theorem layout_hears (g : Option (Viewport × Point)) :
    Hears (fun d => d.2.layout? = g) fun _ => True :=
  hears_of_hear hear_layout (fun _ _ => rfl) g

inductive Moves (s : Session) (step : Step) : Option (Viewport × Point) → Prop
  | kept : Moves s step s.host.layout?
  | gone : Moves s step none
  | made : Moves s step (some (.unset, .origin))
  | clamped {c : Controller} {b : Bounds} (working : s.host.controller = some c)
    (bounds : c.viewport.bounds? = some b) (p : Point) :
    Moves s step (some (c.viewport, b.clamp p))
  | replaced {c : Controller} {v : Viewport} (working : s.host.controller = some c)
    (installs : s.installs? step = some v) (new : c.viewport ≠ v) :
    Moves s step (some (v, c.viewport.moved v c.pointer.position))

theorem command_moves (s : Session) (step : Step) (command : Command)
    (hinstalls : ∀ v, command = .setViewport v → s.installs? step = some v) :
    s.Moves step (s.command command).2.host.layout? := by
  obtain ⟨clock, ⟨controller, world⟩, reported⟩ := s
  cases controller with
  | none => exact .kept
  | some c =>
      have hlayout : ((Session.mk clock ⟨some c, world⟩ reported).command command).2.host.layout? =
          some ((Live.mk c clock world).perform command).controller.layout := by
        cases command <;> rfl
      have hmoves := (Live.mk c clock world).perform_moves command
      rw [hlayout]
      generalize ((Live.mk c clock world).perform command).controller.layout = g at hmoves ⊢
      cases hmoves with
      | kept => exact .kept
      | clamped _ bounds p => exact .clamped rfl bounds p
      | replaced new => exact .replaced rfl (hinstalls _ rfl) new

theorem drop_layout (s : Session) : s.drop.host.layout? = none := by
  cases hc : s.host.controller with
  | none =>
      rw [drop_of_none hc, Host.layout?, hc]
      rfl
  | some c =>
      obtain ⟨line, hdrop⟩ := drop_of_some hc
      rw [hdrop]
      rfl

theorem step_moves (s : Session) (step : Step) :
    s.Moves step (s.step step).2.host.layout? := by
  cases hcall : step.isCall with
  | false =>
      have hkept := (layout_hears s.host.layout?).step s hcall trivial rfl
      rw [hkept]
      exact .kept
  | true =>
      cases step with
      | create settings =>
          have hmade : (s.step (.create settings)).2.host.layout? = some (.unset, .origin) := by
            simp only [Session.step, start]
            split <;> rfl
          rw [hmade]
          exact .made
      | drop =>
          have hgone : (s.step .drop).2.host.layout? = none := s.drop_layout
          rw [hgone]
          exact .gone
      | command command => exact command_moves s _ command fun v hv => by rw [hv]; rfl
      | rotate rotation => exact command_moves s _ _ fun v hv => by cases hv; rfl
      | _ => cases hcall

/-! ## The viewport last reported -/

theorem command_reported (s : Session) (command : Command) :
    (s.command command).2.reported = s.reported ∨
      ∃ v, command = .setViewport v ∧ (s.command command).2.reported = v := by
  obtain ⟨clock, ⟨controller, world⟩, reported⟩ := s
  cases controller with
  | none => exact .inl rfl
  | some c =>
      cases command with
      | setViewport viewport => exact .inr ⟨viewport, rfl, rfl⟩
      | _ => exact .inl rfl

theorem step_reported (s : Session) (step : Step) :
    (s.step step).2.reported = s.reported ∨
      s.installs? step = some (s.step step).2.reported := by
  cases step with
  | create settings =>
      left
      simp only [Session.step, start]
      split <;> exact s.drop_reported
  | drop => exact .inl s.drop_reported
  | advance delta =>
      left
      simp only [Session.step]
      split <;> rfl
  | command command =>
      rcases s.command_reported command with heq | ⟨v, rfl, heq⟩
      · exact .inl heq
      · exact .inr (congrArg some heq.symm)
  | rotate rotation =>
      rcases s.command_reported (.setViewport (s.reported.rotated rotation)) with heq | ⟨v, hv, heq⟩
      · exact .inl heq
      · exact .inr (congrArg some ((Command.setViewport.inj hv).trans heq.symm))
  | _ => exact .inl rfl

variable {P : Viewport → Prop}

/-- A step hands over the viewport it names or the one last reported, turned. -/
theorem of_installs (hrotated : ∀ v r, P v → P (v.rotated r)) {s : Session}
    (hreported : P s.reported) {step : Step} (hstep : step.Installs P) {v : Viewport}
    (hv : s.installs? step = some v) : P v := by
  unfold installs? at hv
  split at hv
  · cases hv
    exact hstep
  · cases hv
    exact hrotated _ _ hreported
  · cases hv

/-- What all viewports of a run have and turning keeps, the viewport last reported has. -/
theorem run_reported (hrotated : ∀ v r, P v → P (v.rotated r)) {s : Session}
    (hs : P s.reported) {steps : List Step} (hsteps : ∀ step ∈ steps, step.Installs P) :
    P (s.run steps).reported := by
  induction steps using List.reverseRecOn with
  | nil => exact hs
  | append_singleton steps step ih =>
      have hbefore := ih fun x hx => hsteps x (List.mem_append_left _ hx)
      rw [run_concat]
      rcases step_reported (s.run steps) step with heq | hinstalls
      · rw [← heq] at hbefore
        exact hbefore
      · exact of_installs hrotated hbefore (hsteps step (by simp)) hinstalls

end Session

/-! ## Laws of layouts -/

/-- A property of viewport and position that holds of a new controller and that clamping and
allowed viewports keep. -/
structure LayoutLaw (allowed : Viewport → Prop) (P : Viewport → Point → Prop) : Prop where
  turned : ∀ v r, allowed v → allowed (v.rotated r)
  unset : allowed .unset
  made : P .unset .origin
  clamped : ∀ v b p, v.bounds? = some b → (∃ q, P v q) → P v (b.clamp p)
  replaced : ∀ old new p, allowed new → old ≠ new → P old p → P new (old.moved new p)

namespace LayoutLaw

open Session

variable {allowed : Viewport → Prop} {P : Viewport → Point → Prop}

theorem step (law : LayoutLaw allowed P) {s : Session} {step : Step}
    (hinstalls : ∀ v, s.installs? step = some v → allowed v)
    (h : ∀ g, s.host.layout? = some g → P g.1 g.2) :
    ∀ g, (s.step step).2.host.layout? = some g → P g.1 g.2 := by
  have hmoves := s.step_moves step
  generalize (s.step step).2.host.layout? = after at hmoves ⊢
  have hbefore : ∀ c, s.host.controller = some c → P c.viewport c.pointer.position := fun c hc =>
    h c.layout (congrArg (Option.map Controller.layout) hc)
  intro g hg
  cases hmoves with
  | kept => exact h g hg
  | gone => cases hg
  | made =>
      cases hg
      exact law.made
  | clamped working bounds p =>
      cases hg
      exact law.clamped _ _ p bounds ⟨_, hbefore _ working⟩
  | replaced working installs new =>
      cases hg
      exact law.replaced _ _ _ (hinstalls _ installs) new (hbefore _ working)

/-- A law of layouts holds in every state of a run whose viewports are allowed. -/
theorem run (law : LayoutLaw allowed P) {now : Nanos} {connected : Bool} {catalogue : Catalogue}
    {steps : List Step} (hsteps : ∀ step ∈ steps, step.Installs allowed) :
    ∀ g, ((blank now connected catalogue).run steps).host.layout? = some g → P g.1 g.2 := by
  induction steps using List.reverseRecOn with
  | nil => exact fun g hg => by cases hg
  | append_singleton steps step ih =>
      have hearlier : ∀ x ∈ steps, x.Installs allowed := fun x hx =>
        hsteps x (List.mem_append_left _ hx)
      rw [run_concat]
      exact law.step (fun v => of_installs law.turned (run_reported law.turned law.unset hearlier)
        (hsteps step (by simp))) (ih hearlier)

end LayoutLaw

end ScreenPointer
