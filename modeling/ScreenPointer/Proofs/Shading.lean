/-
# What changes fades and spots

The fade of the pointer and the spots are the shading of a controller.  Commands put
a fade to an end of its range or give it a direction, report contacts or let spots
fade; a tick moves all fades on by the time that has passed.  `Shades` lists these
changes once for all commands and notices, so a law about opacities needs one argument
for each kind of change.
-/

import ScreenPointer.Proofs.Undrawn

namespace ScreenPointer

def Controller.shading (c : Controller) : Fade × SpotPool := (c.pointer.fade, c.spots)

namespace Live

/-- What commands and notices can do to fades and spots. -/
inductive Shades (l : Live) : Fade × SpotPool → Prop
  | kept : Shades l l.controller.shading
  | turned (direction : FadeDirection) :
    Shades l (⟨l.controller.pointer.fade.alpha, direction⟩, l.controller.spots)
  | ended {alpha : Single} (range : alpha = 0 ∨ alpha = 1) :
    Shades l (⟨alpha, .idle⟩, l.controller.spots)
  | released : Shades l (l.controller.pointer.fade, l.controller.spots.fadeAll.2)
  /-- Contacts are reported on a display only. -/
  | reported (valid : l.controller.viewport.isValid = true) (contacts : List Contact)
    (display : DisplayId) (icons : SpotIcons) (surface : Surface) :
    Shades l (l.controller.pointer.fade,
      (l.controller.spots.update contacts display icons surface).2.1)
  /-- A tick; time never runs backwards for a fade. -/
  | ticked {elapsed : Nanos} (forward : 0 ≤ elapsed) (surface : Surface) :
    Shades l (l.controller.pointer.fade.step elapsed l.controller.settings.pointerFade,
      (l.controller.spots.advanceFades
        (elapsedShare elapsed l.controller.settings.spotFade) surface).2.1)

theorem shading_of_scene {l l' : Live} (h : l'.scene = l.scene) :
    l'.controller.shading = l.controller.shading :=
  congrArg (fun v => v.controller.shading) h

theorem shades_of_eq {l l' : Live} (h : l'.controller.shading = l.controller.shading) :
    l.Shades l'.controller.shading := by
  rw [h]
  exact .kept

@[simp]
theorem startAnimation_shading (l : Live) :
    l.startAnimation.controller.shading = l.controller.shading :=
  shading_of_scene l.startAnimation_scene

@[simp]
theorem startIf_shading (l : Live) (needed : Bool) :
    (if needed then l.startAnimation else l).controller.shading = l.controller.shading :=
  shading_of_scene (startIf_scene l needed)

@[simp]
theorem cancelInactivity_shading (l : Live) :
    l.cancelInactivity.controller.shading = l.controller.shading :=
  shading_of_scene l.cancelInactivity_scene

@[simp]
theorem restartInactivity_shading (l : Live) :
    l.restartInactivity.controller.shading = l.controller.shading :=
  shading_of_scene l.restartInactivity_scene

/-- Presenting the pointer shows opacities and changes none. -/
@[simp]
theorem present_shading (l : Live) : l.present.controller.shading = l.controller.shading := by
  obtain ⟨_, _, _, _, _, hscene⟩ := l.present_scene
  exact congrArg (fun v => v.controller.shading) hscene

@[simp]
theorem loadIcons_shading (l : Live) : l.loadIcons.controller.shading = l.controller.shading := by
  unfold loadIcons
  split
  · dsimp only
    split <;> rfl
  · rfl

theorem place_shading (l : Live) (p : Point) :
    (l.place p).controller.shading = l.controller.shading := by
  unfold place
  split
  · rfl
  · exact present_shading _

theorem fadeAllSpots_shading (l : Live) :
    l.fadeAllSpots.controller.shading =
      (l.controller.pointer.fade, l.controller.spots.fadeAll.2) :=
  congrArg (fun v => v.controller.shading) l.fadeAllSpots_scene

theorem fadeAllSpots_shades {l l' : Live} (h : l'.controller.shading = l.controller.shading) :
    l.Shades l'.fadeAllSpots.controller.shading := by
  obtain ⟨hfade, hspots⟩ := Prod.mk.inj h
  rw [fadeAllSpots_shading, hfade, hspots]
  exact .released

theorem hide_gradual_shading (l : Live) :
    (l.hide .gradual).controller.shading =
      (⟨l.controller.pointer.fade.alpha, .out⟩, l.controller.spots) := by
  obtain ⟨hfade, hspots⟩ := Prod.mk.inj l.cancelInactivity_shading
  have hhidden : (l.hide .gradual).controller.shading =
      (⟨l.cancelInactivity.controller.pointer.fade.alpha, .out⟩,
        l.cancelInactivity.controller.spots) := startAnimation_shading _
  rw [hhidden, hfade, hspots]

theorem hide_shades (l : Live) (transition : Transition) :
    l.Shades (l.hide transition).controller.shading := by
  cases transition with
  | immediate =>
      have hspots : l.cancelInactivity.controller.spots = l.controller.spots :=
        congrArg Prod.snd l.cancelInactivity_shading
      have hhidden : (l.hide .immediate).controller.shading =
          (⟨0, .idle⟩, l.cancelInactivity.controller.spots) := present_shading _
      rw [hhidden, hspots]
      exact .ended (.inl rfl)
  | gradual =>
      rw [hide_gradual_shading]
      exact .turned .out

theorem reveal_shades (l : Live) (transition : Transition) :
    l.Shades (l.reveal transition).controller.shading := by
  obtain ⟨hfade, hspots⟩ := Prod.mk.inj l.restartInactivity_shading
  cases transition with
  | immediate =>
      have hshown : (l.reveal .immediate).controller.shading =
          (⟨1, .idle⟩, l.restartInactivity.controller.spots) := present_shading _
      rw [hshown, hspots]
      exact .ended (.inr rfl)
  | gradual =>
      have hshown : (l.reveal .gradual).controller.shading =
          (⟨l.restartInactivity.controller.pointer.fade.alpha, .into⟩,
            l.restartInactivity.controller.spots) := startAnimation_shading _
      rw [hshown, hfade, hspots]
      exact .turned .into

theorem applyViewport_shades (l : Live) (viewport : Viewport) :
    l.Shades (l.applyViewport viewport).controller.shading := by
  unfold applyViewport
  dsimp only
  split
  · exact .kept
  · rw [present_shading]
    split
    · apply fadeAllSpots_shades
      split
      · exact loadIcons_shading _
      · rfl
    · exact .kept
    · exact .kept

theorem setPresentation_shades (l : Live) (presentation : Presentation) :
    l.Shades (l.setPresentation presentation).controller.shading := by
  unfold setPresentation
  dsimp only
  split
  · exact .kept
  · rw [present_shading]
    cases presentation with
    | spot => exact .kept
    | pointer =>
        apply fadeAllSpots_shades
        split <;> rfl

theorem setSpots_shades (l : Live) (contacts : List Contact) (display : DisplayId) :
    l.Shades (l.setSpots contacts display).controller.shading := by
  unfold setSpots
  split
  · rename_i hvalid _
    dsimp only
    rw [startIf_shading]
    exact .reported hvalid contacts display _ _
  · exact .kept

theorem perform_shades (l : Live) (command : Command) :
    l.Shades (l.perform command).controller.shading := by
  cases command with
  | moveBy dx dy =>
      dsimp only [perform]
      split
      · exact .kept
      · exact shades_of_eq (place_shading l _)
  | place p => exact shades_of_eq (place_shading l p)
  | setButtons buttons => exact .kept
  | hide transition => exact hide_shades l transition
  | reveal transition => exact reveal_shades l transition
  | present presentation => exact setPresentation_shades l presentation
  | setSpots contacts display => exact setSpots_shades l contacts display
  | clearSpots =>
      dsimp only [perform]
      split
      · exact fadeAllSpots_shades rfl
      · exact .kept
  | setTimeout timeout =>
      dsimp only [perform]
      split
      · exact .kept
      · exact shades_of_eq (l := l) (restartInactivity_shading _)
  | setViewport viewport => exact applyViewport_shades l viewport
  | requestIcon id =>
      dsimp only [perform, requestIcon]
      split
      · exact .kept
      · exact shades_of_eq (l := l) (present_shading _)
  | setCustomIcon icon => exact shades_of_eq (l := l) (present_shading _)
  | reload => exact shades_of_eq ((present_shading _).trans (loadIcons_shading l))

/-! ## Ticks -/

theorem fadePointer_shading (l : Live) (elapsed : Nanos) :
    (l.fadePointer elapsed).2.controller.shading =
      (l.controller.pointer.fade.step elapsed l.controller.settings.pointerFade,
        l.controller.spots) := by
  unfold fadePointer
  dsimp only
  split
  · exact present_shading _
  · rename_i hstill
    have hidle : l.controller.pointer.fade.direction = .idle := by
      simpa [Fade.isRunning] using hstill
    simp only [Fade.step_eq, hidle]
    rfl

theorem fadeSpots_shading (l : Live) (elapsed : Nanos) :
    (l.fadeSpots elapsed).2.controller.shading = (l.controller.pointer.fade,
      (l.controller.spots.advanceFades (elapsedShare elapsed l.controller.settings.spotFade)
        l.world.surface).2.1) := rfl

theorem flipFrame_shading (l : Live) (timestamp : Nanos) :
    (l.flipFrame timestamp).2.controller.shading = l.controller.shading := by
  obtain ⟨_, _, _, hflipped⟩ := l.flipFrame_controller timestamp
  rw [hflipped]
  rfl

/-- A tick moves the pointer's fade and those of the spots on by the same time. -/
theorem tick_shading (l : Live) (timestamp : Nanos) :
    ∃ surface, (l.tick timestamp).controller.shading =
      (l.controller.pointer.fade.step (l.controller.scheduler.elapsed timestamp)
          l.controller.settings.pointerFade,
        (l.controller.spots.advanceFades
          (elapsedShare (l.controller.scheduler.elapsed timestamp) l.controller.settings.spotFade)
          surface).2.1) := by
  generalize helapsed : l.controller.scheduler.elapsed timestamp = elapsed
  let opened := { l with controller.scheduler.pending := false }.onSurface (·.openTransaction)
  have hsettings : (opened.fadePointer elapsed).2.controller.settings = l.controller.settings :=
    congrArg (fun v => v.controller.settings) (fadePointer_undrawn opened elapsed)
  obtain ⟨hfade, hspots⟩ := Prod.mk.inj (fadePointer_shading opened elapsed)
  refine ⟨(opened.fadePointer elapsed).2.world.surface, ?_⟩
  unfold tick
  dsimp only
  rw [startIf_shading, helapsed]
  refine (flipFrame_shading _ timestamp).trans ((fadeSpots_shading _ elapsed).trans ?_)
  change (_, ((opened.fadePointer elapsed).2.controller.spots.advanceFades _ _).2.1) = _
  rw [hfade, hspots, hsettings]
  rfl

theorem tick_shades (l : Live) (timestamp : Nanos) :
    l.Shades (l.tick timestamp).controller.shading := by
  obtain ⟨surface, hticked⟩ := tick_shading l timestamp
  rw [hticked]
  exact .ticked (Int.le_max_right _ 0) surface

theorem receive_shades (l : Live) (notice : Notice) :
    l.Shades (l.receive notice).2.controller.shading := by
  cases notice with
  | events events =>
      dsimp only [receive]
      split
      · exact .kept
      · split
        · exact .kept
        · exact tick_shades l _
  | timer token =>
      dsimp only [receive, timerFired]
      split
      · exact .kept
      · split
        · rw [hide_gradual_shading]
          exact .turned .out
        · exact .kept
  | failure => exact .kept

end Live

end ScreenPointer
