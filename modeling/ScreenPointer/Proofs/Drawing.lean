/-
# What is drawn

The surface says what the state says.  `Kept` is about sprites and their owners
and holds at every moment of an operation; `UpToDate` is about the record of the
pointer's sprite and holds between operations, because whatever makes the record
stale ends by presenting the pointer.  Together they are a law of scenes.
-/

import ScreenPointer.Proofs.Runs
import ScreenPointer.Proofs.Spots.Drawing
import ScreenPointer.Proofs.Spots.Pool

namespace ScreenPointer

def SpotPool.limits (pool : SpotPool) : SpotSettings :=
  ⟨pool.maxSpots, pool.maxRecycled, pool.scale⟩

/-- The record of a pointer's sprite at a place on a display. -/
structure SpriteRecord.Shows (r : SpriteRecord) (position : Point) (alpha : Single)
    (display : DisplayId) : Prop where
  layer : r.layer = Layer.pointer
  position : r.position = position
  display : r.display = display
  visible : r.visible = (0 : Single).less alpha
  alpha : (0 : Single).less alpha = true → r.alpha = alpha

theorem SpriteRecord.isSpot_of_layer {r : SpriteRecord} (h : r.layer = Layer.pointer) :
    r.isSpot = false := by
  simp [SpriteRecord.isSpot, h]

namespace Scene

/-- The sprites are the pointer's and the pool's, and none but the pool's is on a
spot layer. -/
structure Kept (pointer : SpriteId) (v : Scene) : Prop where
  working : v.controller.tornDown = false
  sprite : v.controller.sprite = some pointer
  limits : v.controller.spots.limits =
    { v.controller.settings.spots with maxSpots := max v.controller.settings.spots.maxSpots 1 }
  icons : ∀ icons, v.controller.icons = some icons → icons.spots = v.catalogue.spots
  pool : v.controller.spots.Kept pointer (v.surface.record? pointer) v.catalogue.spots v.surface
  apart : ∃ r, v.surface.record? pointer = some r ∧ r.isSpot = false

def Placed (pointer : SpriteId) (v : Scene) : Prop :=
  ∃ r, v.surface.record? pointer = some r ∧
    r.Shows v.controller.pointer.position v.controller.pointer.fade.alpha
      v.controller.viewport.display

/-- The pointer's sprite shows the pointer, with icons loaded and nothing left to
write. -/
structure UpToDate (pointer : SpriteId) (v : Scene) : Prop where
  loaded : v.controller.icons.isSome = true
  iconWritten : v.controller.iconChanged = false
  presentationWritten : v.controller.presentationChanged = false
  placed : v.Placed pointer

/-- A scene between two operations.  Its sprites are in custody, and on a display the pointer's
sprite shows what the controller has last presented. -/
structure Staged (pointer : SpriteId) (v : Scene) : Prop where
  kept : v.Kept pointer
  upToDate : v.controller.viewport.isValid = true → v.UpToDate pointer

def Loaded (v : Scene) : Prop :=
  v.controller.viewport.isValid = true → v.controller.icons.isSome = true

theorem Staged.loaded {pointer : SpriteId} {v : Scene} (h : Staged pointer v) : v.Loaded :=
  fun hvalid => (h.upToDate hvalid).loaded

variable {pointer : SpriteId} {v : Scene} {surface : Surface}

namespace Kept

/-- Painting the pointer's sprite keeps the others as they are. -/
theorem paint (h : Kept pointer v) (hconf : Surface.Confined pointer v.surface surface)
    (hapart : ∃ r, surface.record? pointer = some r ∧ r.isSpot = false) :
    Kept pointer { v with surface } :=
  ⟨h.working, h.sprite, h.limits, h.icons, h.pool.repaint hconf, hapart⟩

theorem openTransaction (h : Kept pointer v) :
    Kept pointer { v with surface := v.surface.openTransaction } :=
  h.paint (Surface.Confined.refl _ _).openTransaction h.apart

theorem closeTransaction (h : Kept pointer v) :
    Kept pointer { v with surface := v.surface.closeTransaction } := by
  apply h.paint (Surface.Confined.refl _ _).closeTransaction
  rw [Surface.record?_closeTransaction]
  exact h.apart

theorem setIcon (h : Kept pointer v) (icon : Icon) :
    Kept pointer { v with surface := v.surface.setIcon pointer icon } := by
  refine h.paint ((Surface.Confined.refl _ _).change fun r => { r with icon := some icon }) ?_
  obtain ⟨r, hr, hapart⟩ := h.apart
  refine ⟨{ r with icon := some icon }, ?_, hapart⟩
  rw [Surface.setIcon, Surface.record?_change_self, hr]
  rfl

end Kept

namespace Placed

theorem closeTransaction (h : Placed pointer v) :
    Placed pointer { v with surface := v.surface.closeTransaction } := by
  obtain ⟨r, hr, hshows⟩ := h
  exact ⟨r, by rw [Surface.record?_closeTransaction]; exact hr, hshows⟩

theorem setIcon (h : Placed pointer v) (icon : Icon) :
    Placed pointer { v with surface := v.surface.setIcon pointer icon } := by
  obtain ⟨r, hr, hshows⟩ := h
  refine ⟨{ r with icon := some icon }, ?_, hshows.layer, hshows.position, hshows.display,
    hshows.visible, hshows.alpha⟩
  rw [Surface.setIcon, Surface.record?_change_self, hr]
  rfl

end Placed

theorem UpToDate.closeTransaction (h : UpToDate pointer v) :
    UpToDate pointer { v with surface := v.surface.closeTransaction } :=
  ⟨h.loaded, h.iconWritten, h.presentationWritten, h.placed.closeTransaction⟩

end Scene

theorem Viewport.bounds?_eq_none {v : Viewport} : v.bounds? = none ↔ v.isValid = false := by
  simp [bounds?]

/-- A viewport that does not start over is on the same display. -/
theorem Viewport.isValid_of_changeTo {old new : Viewport} (h : old.changeTo new ≠ .reset) :
    old.isValid = new.isValid := by
  unfold Viewport.changeTo at h
  split at h
  · exact absurd rfl h
  · rename_i hsame
    have hdisplay : old.display = new.display := Decidable.byContradiction fun hne =>
      hsame (.inl hne)
    rw [Viewport.isValid, Viewport.isValid, hdisplay]

namespace Live

open Scene (Kept Placed UpToDate Staged Loaded)

variable {pointer : SpriteId} {l : Live}

/-! ## Presenting the pointer -/

theorem writePlace_placed (h : Kept pointer l.scene) :
    Placed pointer (l.writePlace pointer).scene := by
  obtain ⟨r, hr, -⟩ := h.apart
  change l.world.surface.record? pointer = some r at hr
  unfold Placed writePlace onSurface scene Controller.sceneIn
  dsimp only
  split
  · rename_i hpositive
    refine ⟨_, by simp [Surface.setLayer, Surface.setPosition, Surface.setDisplay,
      Surface.setAlpha, Surface.setVisible, hr]; rfl, ?_⟩
    exact ⟨rfl, rfl, rfl, hpositive.symm, fun _ => rfl⟩
  · rename_i hnone
    refine ⟨_, by simp [Surface.setLayer, Surface.setPosition, Surface.setDisplay,
      Surface.setVisible, hr]; rfl, ?_⟩
    exact ⟨rfl, rfl, rfl, (Bool.eq_false_iff.mpr hnone).symm, fun hpositive =>
      absurd hpositive hnone⟩

theorem writePlace_kept (h : Kept pointer l.scene) : Kept pointer (l.writePlace pointer).scene := by
  have hplaced := ((((Surface.Confined.refl pointer l.world.surface).change
    fun r => { r with layer := Layer.pointer }).change
    fun r => { r with position := l.controller.pointer.position }).change
    fun r => { r with display := l.controller.viewport.display })
  obtain ⟨r, hr, hshows⟩ := writePlace_placed h
  unfold writePlace at hr ⊢
  dsimp only [onSurface, scene, Controller.sceneIn] at hr ⊢
  refine h.paint ?_ ⟨r, hr, SpriteRecord.isSpot_of_layer hshows.layer⟩
  split
  · exact (hplaced.change fun r => { r with alpha := l.controller.pointer.fade.alpha }).change
      fun r => { r with visible := true }
  · exact hplaced.change fun r => { r with visible := false }

/-- What writing the icon does, exactly. -/
theorem writeIcon_scene_eq (l : Live) (sprite : SpriteId) :
    (l.writeIcon sprite).2.scene =
      let choice := l.controller.iconChoice l.world.catalogue.defaultId
      { l.scene with
        controller.pointer.frame := if choice.animated then 0 else l.controller.pointer.frame
        controller.pointer.frameTime :=
          if choice.animated then l.clock.now else l.controller.pointer.frameTime
        controller.iconChanged := false
        controller.presentationChanged := false
        surface := match choice.icon with
          | some icon => l.world.surface.setIcon sprite icon
          | none => l.world.surface } := by
  unfold writeIcon
  dsimp only
  cases (l.controller.iconChoice l.world.catalogue.defaultId).missing <;>
    cases (l.controller.iconChoice l.world.catalogue.defaultId).animated <;>
      cases (l.controller.iconChoice l.world.catalogue.defaultId).icon <;> rfl

/-- Writing the icon touches the frame and the icon of the sprite only. -/
theorem writeIcon_scene (l : Live) (sprite : SpriteId) :
    ∃ frame frameTime surface,
      (surface = l.world.surface ∨ ∃ icon, surface = l.world.surface.setIcon sprite icon) ∧
      (l.writeIcon sprite).2.scene = { l.scene with
        controller.pointer.frame := frame
        controller.pointer.frameTime := frameTime
        controller.iconChanged := false
        controller.presentationChanged := false
        surface } := by
  refine ⟨_, _, _, ?_, l.writeIcon_scene_eq sprite⟩
  split
  · exact .inr ⟨_, rfl⟩
  · exact .inl rfl

/-- Writing the place of a sprite is drawing. -/
theorem writePlace_drawing {P : Surface → Prop} (keeps : Surface.Drawing P)
    (h : P l.world.surface) (sprite : SpriteId) : P (l.writePlace sprite).world.surface := by
  have hplaced := keeps.change _ sprite (fun r => { r with display := l.controller.viewport.display })
    <| keeps.change _ sprite (fun r => { r with position := l.controller.pointer.position })
    <| keeps.change _ sprite (fun r => { r with layer := Layer.pointer }) h
  simp only [writePlace, onSurface]
  split
  · exact keeps.change _ _ _ (keeps.change _ _ _ hplaced)
  · exact keeps.change _ _ _ hplaced

/-- Writing the icon of a sprite is drawing. -/
theorem writeIcon_drawing {P : Surface → Prop} (keeps : Surface.Drawing P)
    (h : P l.world.surface) (sprite : SpriteId) : P (l.writeIcon sprite).2.world.surface := by
  obtain ⟨_, _, surface, hsurface, hscene⟩ := l.writeIcon_scene sprite
  rw [show (l.writeIcon sprite).2.world.surface = surface from congrArg Scene.surface hscene]
  rcases hsurface with rfl | ⟨icon, rfl⟩
  · exact h
  · exact keeps.change _ _ _ h

theorem writeIcon_kept (h : Kept pointer l.scene) : Kept pointer (l.writeIcon pointer).2.scene := by
  obtain ⟨frame, frameTime, surface, hsurface, hscene⟩ := writeIcon_scene l pointer
  rw [hscene]
  rcases hsurface with rfl | ⟨icon, rfl⟩
  · exact ⟨h.working, h.sprite, h.limits, h.icons, h.pool, h.apart⟩
  · have hicon := h.setIcon icon
    exact ⟨hicon.working, hicon.sprite, hicon.limits, hicon.icons, hicon.pool, hicon.apart⟩

theorem writeIcon_upToDate (hloaded : l.controller.icons.isSome = true)
    (hplaced : Placed pointer l.scene) : UpToDate pointer (l.writeIcon pointer).2.scene := by
  obtain ⟨frame, frameTime, surface, hsurface, hscene⟩ := writeIcon_scene l pointer
  rw [hscene]
  refine ⟨hloaded, rfl, rfl, ?_⟩
  rcases hsurface with rfl | ⟨icon, rfl⟩
  · exact hplaced
  · exact hplaced.setIcon icon

/-- Whatever was stale before, presenting the pointer brings its sprite up to date. -/
theorem present_staged (h : Kept pointer l.scene) (hloaded : Loaded l.scene) :
    Staged pointer l.present.scene := by
  unfold present
  split
  · rename_i sprite hvalid hsprite
    cases Option.some.inj (hsprite.symm.trans h.sprite)
    have hkept := writePlace_kept (l := l.onSurface (·.openTransaction)) h.openTransaction
    have hplaced := writePlace_placed (l := l.onSurface (·.openTransaction)) h.openTransaction
    generalize hplace : (l.onSurface (·.openTransaction)).writePlace pointer = placed at *
    have hicons : placed.controller.icons.isSome = true := by
      rw [← hplace]
      exact hloaded hvalid
    dsimp only
    split
    · have hwritten := writeIcon_upToDate hicons hplaced
      have hclosed : Staged pointer
          ((placed.writeIcon pointer).2.onSurface (·.closeTransaction)).scene :=
        ⟨(writeIcon_kept hkept).closeTransaction, fun _ => hwritten.closeTransaction⟩
      split
      · rw [startAnimation_scene]
        exact hclosed
      · exact hclosed
    · rename_i hwritten
      simp only [Bool.or_eq_true, not_or, Bool.not_eq_true] at hwritten
      exact ⟨hkept.closeTransaction, fun _ =>
        (UpToDate.mk hicons hwritten.1 hwritten.2 hplaced).closeTransaction⟩
  · rename_i hnone
    refine ⟨h, fun hvalid => ?_⟩
    exact absurd h.sprite (hnone _ hvalid)

/-! ## Commands -/

@[simp]
theorem startIf_scene (l : Live) (needed : Bool) :
    (if needed then l.startAnimation else l).scene = l.scene := by
  cases needed with
  | true => exact l.startAnimation_scene
  | false => rfl

/-- What presenting the pointer does to the scene. -/
theorem present_scene (l : Live) :
    ∃ frame frameTime iconChanged presentationChanged surface, l.present.scene = { l.scene with
      controller.pointer.frame := frame
      controller.pointer.frameTime := frameTime
      controller.iconChanged := iconChanged
      controller.presentationChanged := presentationChanged
      surface } := by
  unfold present
  split
  · rename_i sprite _ _
    dsimp only
    split
    · obtain ⟨frame, frameTime, surface, -, hwritten⟩ :=
        writeIcon_scene ((l.onSurface (·.openTransaction)).writePlace sprite) sprite
      rw [startIf_scene]
      exact ⟨frame, frameTime, _, _, surface.closeTransaction,
        congrArg (fun v : Scene => { v with surface := v.surface.closeTransaction }) hwritten⟩
    · exact ⟨_, _, _, _, _, rfl⟩
  · exact ⟨_, _, _, _, _, rfl⟩

theorem place_staged (h : Staged pointer l.scene) (p : Point) :
    Staged pointer (l.place p).scene := by
  unfold place
  split
  · exact h
  · exact present_staged { h.kept with } h.loaded

theorem hide_staged (h : Staged pointer l.scene) (transition : Transition) :
    Staged pointer (l.hide transition).scene := by
  rw [← l.cancelInactivity_scene] at h
  unfold hide
  cases transition with
  | immediate => exact present_staged { h.kept with } h.loaded
  | gradual =>
      dsimp only
      rw [startAnimation_scene]
      exact ⟨{ h.kept with }, fun hvalid => { h.upToDate hvalid with }⟩

theorem reveal_staged (h : Staged pointer l.scene) (transition : Transition) :
    Staged pointer (l.reveal transition).scene := by
  rw [← l.restartInactivity_scene] at h
  unfold reveal
  cases transition with
  | immediate => exact present_staged { h.kept with } h.loaded
  | gradual =>
      dsimp only
      rw [startAnimation_scene]
      exact ⟨{ h.kept with }, fun hvalid => { h.upToDate hvalid with }⟩

theorem fadeAllSpots_scene (l : Live) :
    l.fadeAllSpots.scene = { l.scene with controller.spots := l.controller.spots.fadeAll.2 } := by
  unfold fadeAllSpots
  dsimp only
  rw [startIf_scene]
  rfl

theorem fadeAllSpots_kept (h : Kept pointer l.scene) : Kept pointer l.fadeAllSpots.scene := by
  rw [fadeAllSpots_scene]
  exact { h with pool := h.pool.fadeAll }

theorem fadeAllSpots_staged (h : Staged pointer l.scene) :
    Staged pointer l.fadeAllSpots.scene := by
  refine ⟨fadeAllSpots_kept h.kept, ?_⟩
  rw [fadeAllSpots_scene]
  exact fun hvalid => { h.upToDate hvalid with }

theorem loadIcons_kept (h : Kept pointer l.scene) : Kept pointer l.loadIcons.scene := by
  unfold loadIcons
  split
  · dsimp only
    split
    · exact { h with icons := fun icons heq => by cases heq; rfl }
    · exact { h with icons := fun icons heq => by cases heq; rfl }
  · exact h

theorem loadIcons_loaded (l : Live) : Loaded l.loadIcons.scene := by
  unfold loadIcons
  split
  · dsimp only
    split
    · exact fun _ => rfl
    · exact fun _ => rfl
  · rename_i hinvalid
    exact fun hvalid => absurd hvalid hinvalid

theorem fadeAllSpots_loaded (h : Loaded l.scene) : Loaded l.fadeAllSpots.scene := by
  rw [fadeAllSpots_scene]
  exact h

theorem applyViewport_staged (h : Staged pointer l.scene) (viewport : Viewport) :
    Staged pointer (l.applyViewport viewport).scene := by
  have hsame : l.controller.viewport.changeTo viewport ≠ .reset →
      Loaded { l with controller.viewport := viewport }.scene := fun hchange hvalid =>
    h.loaded ((Viewport.isValid_of_changeTo hchange).trans hvalid)
  unfold applyViewport
  dsimp only
  split
  · exact h
  · cases hchange : l.controller.viewport.changeTo viewport with
    | reset =>
        dsimp only
        cases hbounds : viewport.bounds? with
        | none =>
            refine present_staged (fadeAllSpots_kept { h.kept with })
              (fadeAllSpots_loaded fun hvalid => ?_)
            have hgone := Viewport.bounds?_eq_none.mp hbounds
            exact absurd hvalid (Bool.eq_false_iff.mp hgone)
        | some bounds =>
            exact present_staged (fadeAllSpots_kept (loadIcons_kept { h.kept with }))
              (fadeAllSpots_loaded (loadIcons_loaded _))
    | reorient =>
        exact present_staged { h.kept with } (hsame (by rw [hchange]; nofun))
    | unchanged =>
        exact present_staged { h.kept with } (hsame (by rw [hchange]; nofun))

theorem setPresentation_staged (h : Staged pointer l.scene) (presentation : Presentation) :
    Staged pointer (l.setPresentation presentation).scene := by
  unfold setPresentation
  split
  · exact h
  · dsimp only
    cases presentation with
    | spot => exact present_staged { h.kept with } h.loaded
    | pointer =>
        dsimp only
        split
        · exact present_staged (fadeAllSpots_kept { h.kept with }) (fadeAllSpots_loaded h.loaded)
        · exact present_staged (fadeAllSpots_kept { h.kept with }) (fadeAllSpots_loaded h.loaded)

theorem requestIcon_staged (h : Staged pointer l.scene) (id : IconId) :
    Staged pointer (l.requestIcon id).scene := by
  unfold requestIcon
  split
  · exact h
  · exact present_staged { h.kept with } h.loaded

theorem setCustomIcon_staged (h : Staged pointer l.scene) (icon : Icon) :
    Staged pointer (l.setCustomIcon icon).scene :=
  present_staged { h.kept with } h.loaded

/-- Spots that are in order may replace others; the pointer's sprite is as it was. -/
theorem withSpots_staged (h : Staged pointer l.scene) {spots : SpotPool} {surface : Surface}
    (hpool : spots.Kept pointer (l.world.surface.record? pointer) l.world.catalogue.spots surface)
    (hlimits : spots.limits = l.controller.spots.limits) :
    Staged pointer { l with controller.spots := spots, world.surface := surface }.scene := by
  have hpointer : surface.record? pointer = l.world.surface.record? pointer :=
    hpool.tended.records.pointer
  refine ⟨{ h.kept with
    limits := hlimits.trans h.kept.limits
    pool := ?_
    apart := ?_ }, fun hvalid => { h.upToDate hvalid with placed := ?_ }⟩
  · rw [← hpointer] at hpool
    exact hpool
  · obtain ⟨r, hr, hapart⟩ := h.kept.apart
    exact ⟨r, hpointer.trans hr, hapart⟩
  · obtain ⟨r, hr, hshows⟩ := (h.upToDate hvalid).placed
    exact ⟨r, hpointer.trans hr, hshows⟩

theorem openTransaction_staged (h : Staged pointer l.scene) :
    Staged pointer (l.onSurface (·.openTransaction)).scene :=
  ⟨h.kept.openTransaction, fun hvalid => { h.upToDate hvalid with }⟩

theorem closeTransaction_staged (h : Staged pointer l.scene) :
    Staged pointer (l.onSurface (·.closeTransaction)).scene :=
  ⟨h.kept.closeTransaction, fun hvalid => (h.upToDate hvalid).closeTransaction⟩

theorem setSpots_staged (h : Staged pointer l.scene) (contacts : List Contact)
    (display : DisplayId) : Staged pointer (l.setSpots contacts display).scene := by
  unfold setSpots
  split
  · rename_i icons _ hicons
    have hopen := openTransaction_staged h
    have hspots : icons.spots = l.world.catalogue.spots := h.kept.icons icons hicons
    have hpool := hopen.kept.pool.update contacts display
    dsimp only
    rw [hspots, startIf_scene]
    exact closeTransaction_staged (withSpots_staged hopen hpool rfl)
  · exact h

/-- Every command leaves the scene in order. -/
theorem perform_staged (h : Staged pointer l.scene) (command : Command) :
    Staged pointer (l.perform command).scene := by
  cases command with
  | moveBy dx dy =>
      dsimp only [perform]
      split
      · exact h
      · exact place_staged h _
  | place p => exact place_staged h p
  | setButtons buttons => exact ⟨{ h.kept with }, fun hvalid => { h.upToDate hvalid with }⟩
  | hide transition => exact hide_staged h transition
  | reveal transition => exact reveal_staged h transition
  | present presentation => exact setPresentation_staged h presentation
  | setSpots contacts display => exact setSpots_staged h contacts display
  | clearSpots =>
      dsimp only [perform]
      split
      · exact fadeAllSpots_staged h
      · exact h
  | setTimeout timeout =>
      dsimp only [perform]
      split
      · exact h
      · rw [restartInactivity_scene]
        exact ⟨{ h.kept with }, fun hvalid => { h.upToDate hvalid with }⟩
  | setViewport viewport => exact applyViewport_staged h viewport
  | requestIcon id => exact requestIcon_staged h id
  | setCustomIcon icon => exact setCustomIcon_staged h icon
  | reload => exact present_staged (loadIcons_kept h.kept) (loadIcons_loaded l)

/-! ## Notices -/

theorem fadePointer_staged (h : Staged pointer l.scene) (elapsed : Nanos) :
    Staged pointer (l.fadePointer elapsed).2.scene := by
  unfold fadePointer
  dsimp only
  split
  · exact present_staged { h.kept with } h.loaded
  · exact h

theorem fadeSpots_staged (h : Staged pointer l.scene) (elapsed : Nanos) :
    Staged pointer (l.fadeSpots elapsed).2.scene :=
  withSpots_staged h (h.kept.pool.advanceFades _) rfl

theorem flipFrame_staged (h : Staged pointer l.scene) (timestamp : Nanos) :
    Staged pointer (l.flipFrame timestamp).2.scene := by
  have hflipped : ∀ frame frameTime, Staged pointer { l with
      controller.pointer.frame := frame
      controller.pointer.frameTime := frameTime }.scene := fun _ _ =>
    ⟨{ h.kept with }, fun hvalid => { h.upToDate hvalid with }⟩
  unfold flipFrame
  dsimp only
  split
  · split
    · split
      · split
        · rename_i sprite icon hsprite _
          cases Option.some.inj (hsprite.symm.trans h.kept.sprite)
          exact ⟨(hflipped _ _).kept.setIcon icon, fun hvalid =>
            { (hflipped _ _).upToDate hvalid with
              placed := ((hflipped _ _).upToDate hvalid).placed.setIcon icon }⟩
        · exact hflipped _ _
      · exact h
    · exact h
  · exact h

theorem tick_staged (h : Staged pointer l.scene) (timestamp : Nanos) :
    Staged pointer (l.tick timestamp).scene := by
  unfold tick
  dsimp only
  rw [startIf_scene]
  refine closeTransaction_staged (flipFrame_staged (fadeSpots_staged (fadePointer_staged ?_ _) _) _)
  exact openTransaction_staged h

theorem timerFired_staged (h : Staged pointer l.scene) (token : TimerToken) :
    Staged pointer (l.timerFired token).scene := by
  unfold timerFired
  split
  · exact hide_staged (l := { l with controller.inactivity.pending := none }) h _
  · exact h

theorem receive_staged (h : Staged pointer l.scene) (notice : Notice) :
    Staged pointer (l.receive notice).2.scene := by
  have hworking : l.controller.tornDown = false := h.kept.working
  cases notice with
  | events events =>
      dsimp only [receive]
      split
      · exact h
      · rw [hworking]
        exact tick_staged h _
  | timer token =>
      dsimp only [receive]
      rw [hworking]
      exact timerFired_staged h token
  | failure => exact h

/-! ## The law -/

/-- Taking a controller down leaves no sprite behind. -/
theorem tearDown_bare (h : Staged pointer l.scene) : l.tearDown.world.surface.Owned [] := by
  rw [← l.cancelInactivity_scene] at h
  have hsprite : l.cancelInactivity.controller.sprite = some pointer := h.kept.sprite
  unfold tearDown
  dsimp only
  rw [hsprite]
  exact h.kept.pool.releaseAll

end Live

/-- While a controller is at work its scene is in order, and without one there are no
sprites. -/
theorem staged_law :
    SceneLaw (fun _ surface => surface.Owned []) fun v => ∃ pointer, v.Staged pointer where
  empty _ := Surface.owned_empty
  start settings catalogue surface loads h := by
    refine ⟨surface.create.1, ⟨rfl, rfl, rfl, fun icons hicons => ?_, ?_, ?_⟩, fun hvalid => ?_⟩
    · exact absurd hicons.symm (Option.some_ne_none icons)
    · exact SpotPool.Kept.new _ _ _ h.create
    · exact ⟨{}, h.record?_create_self, rfl⟩
    · exact absurd hvalid Bool.false_ne_true
  perform _ command := fun ⟨pointer, h⟩ => ⟨pointer, Live.perform_staged h command⟩
  receive _ notice := fun ⟨pointer, h⟩ => ⟨pointer, Live.receive_staged h notice⟩
  tearDown _ := fun ⟨_, h⟩ => Live.tearDown_bare h

end ScreenPointer
