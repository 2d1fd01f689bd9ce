/-
# What drawing leaves alone

Most of what a controller does only draws: fades move, frames of an icon change, spots come
and go.  `Scene.undrawn` is the rest of a scene.  Commands that only draw and all notices
of the clock keep it, so whatever can be read off it needs an argument for the few other
commands only.
-/

import ScreenPointer.Proofs.Alert

namespace ScreenPointer

/-- The scene without what drawing and fading change.  Presenting, ticks and timers leave it as it
is; only commands that concern the rest change it. -/
def Scene.undrawn (v : Scene) : Scene :=
  { v with
    controller.pointer.fade := ⟨0, .idle⟩
    controller.pointer.frame := 0
    controller.pointer.frameTime := 0
    controller.iconChanged := false
    controller.presentationChanged := false
    controller.spots := .new 0 0 0
    surface := {} }

namespace Live

/-- Dealings with the clock are not part of the scene. -/
theorem undrawn_of_scene {l l' : Live} (h : l'.scene = l.scene) :
    l'.scene.undrawn = l.scene.undrawn :=
  congrArg Scene.undrawn h

theorem onSurface_undrawn (l : Live) (f : Surface → Surface) :
    (l.onSurface f).scene.undrawn = l.scene.undrawn := rfl

theorem present_undrawn (l : Live) : l.present.scene.undrawn = l.scene.undrawn := by
  obtain ⟨_, _, _, _, _, hscene⟩ := l.present_scene
  rw [hscene]
  rfl

theorem fadeAllSpots_undrawn (l : Live) : l.fadeAllSpots.scene.undrawn = l.scene.undrawn := by
  rw [fadeAllSpots_scene]
  rfl

theorem hide_undrawn (l : Live) (transition : Transition) :
    (l.hide transition).scene.undrawn = l.scene.undrawn := by
  have hcancelled := undrawn_of_scene l.cancelInactivity_scene
  cases transition with
  | immediate => exact (present_undrawn _).trans hcancelled
  | gradual => exact (undrawn_of_scene (startAnimation_scene _)).trans hcancelled

theorem reveal_undrawn (l : Live) (transition : Transition) :
    (l.reveal transition).scene.undrawn = l.scene.undrawn := by
  have hrestarted := undrawn_of_scene l.restartInactivity_scene
  cases transition with
  | immediate => exact (present_undrawn _).trans hrestarted
  | gradual => exact (undrawn_of_scene (startAnimation_scene _)).trans hrestarted

theorem setSpots_undrawn (l : Live) (contacts : List Contact) (display : DisplayId) :
    (l.setSpots contacts display).scene.undrawn = l.scene.undrawn := by
  unfold setSpots
  split
  · exact (undrawn_of_scene (startIf_scene _ _)).trans rfl
  · rfl

theorem fadePointer_undrawn (l : Live) (elapsed : Nanos) :
    (l.fadePointer elapsed).2.scene.undrawn = l.scene.undrawn := by
  unfold fadePointer
  dsimp only
  split
  · exact present_undrawn _
  · rfl

theorem fadeSpots_undrawn (l : Live) (elapsed : Nanos) :
    (l.fadeSpots elapsed).2.scene.undrawn = l.scene.undrawn := rfl

theorem flipFrame_undrawn (l : Live) (timestamp : Nanos) :
    (l.flipFrame timestamp).2.scene.undrawn = l.scene.undrawn := by
  obtain ⟨_, _, _, hflipped⟩ := l.flipFrame_controller timestamp
  rw [hflipped]
  rfl

theorem tick_undrawn (l : Live) (timestamp : Nanos) :
    (l.tick timestamp).scene.undrawn = l.scene.undrawn := by
  unfold tick
  dsimp only
  rw [undrawn_of_scene (startIf_scene _ _), onSurface_undrawn, flipFrame_undrawn,
    fadeSpots_undrawn, fadePointer_undrawn]
  rfl

/-- A notice of the clock makes a controller draw, and nothing else. -/
theorem receive_undrawn (l : Live) (notice : Notice) :
    (l.receive notice).2.scene.undrawn = l.scene.undrawn := by
  cases notice with
  | events events =>
      dsimp only [receive]
      split
      · rfl
      · split
        · rfl
        · exact tick_undrawn l _
  | timer token =>
      dsimp only [receive, timerFired]
      split
      · rfl
      · split
        · exact hide_undrawn _ _
        · rfl
  | failure => rfl

end Live

end ScreenPointer
