/-
# Whatever moves waits for a tick

A pointer or a spot that fades and an animation that plays need ticks.  Every
command that sets something in motion asks for a tick, so `Alert` is kept; a tick
looks at everything that may move and establishes it anew.
-/

import ScreenPointer.Proofs.Drawing
import ScreenPointer.Proofs.Requests

namespace ScreenPointer

def Controller.Plays (c : Controller) (defaultId : IconId) : Prop :=
  c.pointer.presentation = .pointer ∧ c.pointer.requested ≠ defaultId ∧
    (∃ icon, c.mouse.icons.find? c.pointer.requested = some icon) ∧
    ∃ animation, c.mouse.animations.find? c.pointer.requested = some animation ∧
      animation.isPlayable = true

structure Controller.Rests (c : Controller) (defaultId : IconId) : Prop where
  fade : c.pointer.fade.direction = .idle
  spots : ¬ c.spots.Fades
  icon : ¬ c.Plays defaultId

namespace Live

/-- Whatever moves waits for a tick. -/
structure Alert (l : Live) : Prop where
  fade : l.controller.pointer.fade.direction ≠ .idle → l.controller.scheduler.pending = true
  spots : l.controller.spots.Fades → l.controller.scheduler.pending = true
  icon : l.controller.iconChanged = false → l.controller.presentationChanged = false →
    l.controller.Plays l.world.catalogue.defaultId → l.controller.scheduler.pending = true

variable {strict : Prop} {id : ListenerId} {l l' : Live}

theorem alert_of_pending (h : l.controller.scheduler.pending = true) : Alert l :=
  ⟨fun _ => h, fun _ => h, fun _ _ _ => h⟩

theorem startAnimation_alert (h : Ticking strict id l) : Alert l.startAnimation :=
  alert_of_pending (startAnimation_pending h)

/-- What was asked to start is pending; the rest was seen to. -/
theorem startIf_alert (h : Ticking strict id l) {needed : Bool}
    (halert : needed = false → Alert l) :
    Alert (if needed then l.startAnimation else l) := by
  cases needed with
  | true => exact startAnimation_alert h
  | false => exact halert rfl

theorem Retimed.alert (hretimed : Retimed l l') (h : Alert l) : Alert l' := by
  obtain ⟨_, _, _, _, _, _, rfl⟩ := hretimed
  exact { h with }

/-- An icon that plays is written only together with the start of its animation. -/
theorem writeIcon_alert (h : Alert l) (sprite : SpriteId) :
    (l.writeIcon sprite).1 = false → Alert (l.writeIcon sprite).2 := by
  intro hstill
  have hplays : ¬ l.controller.Plays l.world.catalogue.defaultId := by
    rintro ⟨hpointer, hother, ⟨icon, hicon⟩, animation, hanimation, -⟩
    have hanimated : (l.controller.iconChoice l.world.catalogue.defaultId).animated = true := by
      simp [Controller.iconChoice, hpointer, hother, hicon, hanimation]
    exact Bool.false_ne_true (hstill.symm.trans hanimated)
  unfold writeIcon
  dsimp only
  split <;> split <;> split
  all_goals exact { h with icon := fun _ _ hp => absurd hp hplays }

theorem present_alert (hticking : Ticking strict id l) (h : Alert l) : Alert l.present := by
  unfold present
  split
  · rename_i sprite _ _
    have hplaced : Alert ((l.onSurface (·.openTransaction)).writePlace sprite) := { h with }
    have hworks : Works false l ((l.onSurface (·.openTransaction)).writePlace sprite) :=
      (onSurface_works l _).trans (writePlace_works _ sprite)
    dsimp only
    split
    · refine startIf_alert ((hworks.trans (writeIcon_works _ sprite)).trans
        (onSurface_works _ _) |>.ticking hticking) fun hstill => ?_
      exact { writeIcon_alert hplaced sprite hstill with }
    · exact { hplaced with }
  · exact h

/-! ## Commands -/

theorem place_alert (hticking : Ticking strict id l) (h : Alert l) (p : Point) :
    Alert (l.place p) := by
  unfold place
  split
  · exact h
  · exact present_alert { hticking with } { h with }

/-- A fade that starts asks for a tick, one that is cut short needs none. -/
theorem hide_alert (hticking : Ticking strict id l) (h : Alert l) (transition : Transition) :
    Alert (l.hide transition) := by
  have hcancelled := l.cancelInactivity_retimed.ticking hticking
  unfold hide
  cases transition with
  | immediate =>
      refine present_alert { hcancelled with } ?_
      exact { l.cancelInactivity_retimed.alert h with fade := fun hmoves => absurd rfl hmoves }
  | gradual =>
      have hfading : Ticking strict id { l.cancelInactivity with
          controller.pointer.fade.direction := .out } := { hcancelled with }
      exact startAnimation_alert hfading

theorem reveal_alert (hticking : Ticking strict id l) (h : Alert l) (transition : Transition) :
    Alert (l.reveal transition) := by
  have hrestarted := l.restartInactivity_retimed.ticking hticking
  unfold reveal
  cases transition with
  | immediate =>
      refine present_alert { hrestarted with } ?_
      exact { l.restartInactivity_retimed.alert h with fade := fun hmoves => absurd rfl hmoves }
  | gradual =>
      have hfading : Ticking strict id { l.restartInactivity with
          controller.pointer.fade.direction := .into } := { hrestarted with }
      exact startAnimation_alert hfading

theorem fadeAllSpots_alert (hticking : Ticking strict id l) (h : Alert l) :
    Alert l.fadeAllSpots := by
  have hfaded : Ticking strict id { l with controller.spots := l.controller.spots.fadeAll.2 } :=
    { hticking with }
  apply startIf_alert hfaded
  intro hstarted
  exact { h with spots := fun hfades => h.spots (SpotPool.fades_of_fadeAll hstarted hfades) }

theorem loadIcons_alert (h : Alert l) : Alert l.loadIcons := by
  unfold loadIcons
  split
  · dsimp only
    split
    · exact { h with icon := fun hwritten => absurd hwritten.symm Bool.false_ne_true }
    · exact { h with icon := fun hwritten => absurd hwritten.symm Bool.false_ne_true }
  · exact h

theorem applyViewport_alert (hticking : Ticking strict id l) (h : Alert l) (viewport : Viewport) :
    Alert (l.applyViewport viewport) := by
  unfold applyViewport
  dsimp only
  split
  · exact h
  · cases l.controller.viewport.changeTo viewport with
    | reset =>
        dsimp only
        cases viewport.bounds? with
        | none =>
            have hmoved : Ticking strict id { l with
                controller.viewport := viewport
                controller.pointer.position := .origin } := { hticking with }
            exact present_alert ((fadeAllSpots_works _).ticking hmoved)
              (fadeAllSpots_alert hmoved { h with })
        | some bounds =>
            have hmoved : Ticking strict id { l with
                controller.viewport := viewport
                controller.pointer.position := bounds.center } := { hticking with }
            have hloaded := (loadIcons_works _).ticking hmoved
            exact present_alert ((fadeAllSpots_works _).ticking hloaded)
              (fadeAllSpots_alert hloaded (loadIcons_alert { h with }))
    | reorient => exact present_alert { hticking with } { h with }
    | unchanged => exact present_alert { hticking with } { h with }

theorem setPresentation_alert (hticking : Ticking strict id l) (h : Alert l)
    (presentation : Presentation) : Alert (l.setPresentation presentation) := by
  have hchanged : ∀ mouse loads, Alert { l with
      controller.pointer.presentation := presentation
      controller.presentationChanged := true
      controller.mouse := mouse
      world.loads := loads } := fun mouse loads =>
    { h with icon := fun _ hwritten => absurd hwritten.symm Bool.false_ne_true }
  have hticks : ∀ mouse loads, Ticking strict id { l with
      controller.pointer.presentation := presentation
      controller.presentationChanged := true
      controller.mouse := mouse
      world.loads := loads } := fun mouse loads => { hticking with }
  unfold setPresentation
  split
  · exact h
  · dsimp only
    cases presentation with
    | spot => exact present_alert (hticks _ _) (hchanged _ _)
    | pointer =>
        dsimp only
        split
        · exact present_alert ((fadeAllSpots_works _).ticking (hticks _ _))
            (fadeAllSpots_alert (hticks _ _) (hchanged _ _))
        · exact present_alert ((fadeAllSpots_works _).ticking (hticks _ _))
            (fadeAllSpots_alert (hticks _ _) (hchanged _ _))

theorem requestIcon_alert (hticking : Ticking strict id l) (h : Alert l) (icon : IconId) :
    Alert (l.requestIcon icon) := by
  unfold requestIcon
  split
  · exact h
  · exact present_alert { hticking with }
      { h with icon := fun hwritten => absurd hwritten.symm Bool.false_ne_true }

theorem setCustomIcon_alert (hticking : Ticking strict id l) (h : Alert l) (icon : Icon) :
    Alert (l.setCustomIcon icon) :=
  present_alert { hticking with }
    { h with icon := fun hwritten => absurd hwritten.symm Bool.false_ne_true }

theorem setSpots_alert (hticking : Ticking strict id l) (h : Alert l) (contacts : List Contact)
    (display : DisplayId) : Alert (l.setSpots contacts display) := by
  unfold setSpots
  split
  · rename_i icons _ _
    have hshown : ∀ surface : Surface, Ticking strict id { l with
        controller.spots := (l.controller.spots.update contacts display icons.spots
          l.world.surface.openTransaction).2.1
        world.surface := surface } := fun surface => { hticking with }
    apply startIf_alert (hshown _)
    intro hstarted
    exact { h with spots := fun hfades => h.spots (SpotPool.fades_of_update hstarted hfades) }
  · exact h

/-- No command leaves anything moving without a tick. -/
theorem perform_alert (hticking : Ticking strict id l) (h : Alert l) (command : Command) :
    Alert (l.perform command) := by
  cases command with
  | moveBy dx dy =>
      dsimp only [perform]
      split
      · exact h
      · exact place_alert hticking h _
  | place p => exact place_alert hticking h p
  | setButtons buttons => exact { h with }
  | hide transition => exact hide_alert hticking h transition
  | reveal transition => exact reveal_alert hticking h transition
  | present presentation => exact setPresentation_alert hticking h presentation
  | setSpots contacts display => exact setSpots_alert hticking h contacts display
  | clearSpots =>
      dsimp only [perform]
      split
      · exact fadeAllSpots_alert hticking h
      · exact h
  | setTimeout timeout =>
      dsimp only [perform]
      split
      · exact h
      · exact (restartInactivity_retimed _).alert { h with }
  | setViewport viewport => exact applyViewport_alert hticking h viewport
  | requestIcon icon => exact requestIcon_alert hticking h icon
  | setCustomIcon icon => exact setCustomIcon_alert hticking h icon
  | reload => exact present_alert ((loadIcons_works l).ticking hticking) (loadIcons_alert h)

/-! ## Ticks -/

/-- Presenting the pointer leaves its fade alone. -/
theorem present_fade (l : Live) :
    l.present.controller.pointer.fade = l.controller.pointer.fade := by
  obtain ⟨_, _, _, _, _, hscene⟩ := l.present_scene
  exact congrArg (·.controller.pointer.fade) hscene

/-- A fade that no longer runs has ended. -/
theorem fadePointer_ends (elapsed : Nanos) (hended : (l.fadePointer elapsed).1 = false) :
    (l.fadePointer elapsed).2.controller.pointer.fade.direction = .idle := by
  unfold fadePointer at hended ⊢
  dsimp only at hended ⊢
  split at hended
  · rename_i hrunning
    rw [if_pos hrunning]
    dsimp only
    rw [Fade.advance_eq] at hended
    rw [present_fade, Fade.advance_eq]
    simpa [Fade.isRunning] using hended
  · rename_i hstill
    rw [if_neg hstill]
    simpa [Fade.isRunning] using hstill

/-- What flipping a frame changes. -/
theorem flipFrame_controller (l : Live) (timestamp : Nanos) :
    ∃ frame frameTime surface, (l.flipFrame timestamp).2 = { l with
      controller.pointer.frame := frame
      controller.pointer.frameTime := frameTime
      world.surface := surface } := by
  unfold flipFrame
  dsimp only
  split
  · split
    · split
      · split
        · exact ⟨_, _, _, rfl⟩
        · exact ⟨_, _, _, rfl⟩
      · exact ⟨_, _, _, rfl⟩
    · exact ⟨_, _, _, rfl⟩
  · exact ⟨_, _, _, rfl⟩

/-- An icon that plays goes on playing. -/
theorem flipFrame_plays (timestamp : Nanos) {defaultId : IconId}
    (hplays : l.controller.Plays defaultId) : (l.flipFrame timestamp).1 = true := by
  obtain ⟨hpointer, -, -, animation, hanimation, hplayable⟩ := hplays
  unfold flipFrame
  dsimp only
  rw [hpointer, hanimation]
  dsimp only
  rw [if_pos hplayable]
  split
  · split <;> rfl
  · rfl

/-- A tick works, and asks for another one unless nothing moves any more. -/
theorem tick_cases (l : Live) (timestamp : Nanos) :
    ∃ worked, Works false { l with controller.scheduler.pending := false } worked ∧
      (l.tick timestamp = worked.startAnimation ∨
        l.tick timestamp = worked ∧ ∀ defaultId, worked.controller.Rests defaultId) := by
  unfold tick
  dsimp only
  generalize l.controller.scheduler.elapsed timestamp = elapsed
  have hopened : Works false { l with controller.scheduler.pending := false }
      ({ l with controller.scheduler.pending := false }.onSurface (·.openTransaction)) :=
    onSurface_works _ _
  generalize ({ l with controller.scheduler.pending := false }.onSurface
    (·.openTransaction)) = opened at hopened ⊢
  have hworks := ((hopened.trans (fadePointer_works opened elapsed)).trans
    (fadeSpots_works _ elapsed)).trans (flipFrame_works _ timestamp)
  refine ⟨_, hworks.trans (onSurface_works _ (·.closeTransaction)), ?_⟩
  split
  · exact .inl rfl
  · rename_i hnothing
    simp only [Bool.not_eq_true, Bool.or_eq_false_iff] at hnothing
    obtain ⟨⟨hfade, hspots⟩, hicon⟩ := hnothing
    obtain ⟨frame, frameTime, surface, hflipped⟩ := flipFrame_controller
      ((opened.fadePointer elapsed).2.fadeSpots elapsed).2 timestamp
    refine .inr ⟨rfl, fun defaultId => ?_⟩
    rw [hflipped]
    refine ⟨fadePointer_ends elapsed hfade, fun hfades => ?_, fun hplays => ?_⟩
    · have hsome := SpotPool.fades_iff_any.mp hfades
      exact absurd (hspots.symm.trans hsome) Bool.false_ne_true
    · have hgoes : (((opened.fadePointer elapsed).2.fadeSpots elapsed).2.flipFrame
          timestamp).1 = true := flipFrame_plays timestamp hplays
      exact absurd (hicon.symm.trans hgoes) Bool.false_ne_true

/-- A tick sees to everything that moves, whatever was pending before. -/
theorem tick_alert (timestamp : Nanos)
    (h : Ticking strict id { l with controller.scheduler.pending := false }) :
    Alert (l.tick timestamp) := by
  obtain ⟨worked, hworks, hticked | ⟨hticked, hrests⟩⟩ := l.tick_cases timestamp
  · rw [hticked]
    exact startAnimation_alert (hworks.ticking h)
  · rw [hticked]
    obtain ⟨hfade, hspots, hicon⟩ := hrests worked.world.catalogue.defaultId
    exact ⟨fun hmoves => absurd hfade hmoves, fun hfades => absurd hfades hspots,
      fun _ _ hplays => absurd hplays hicon⟩

end Live

end ScreenPointer
