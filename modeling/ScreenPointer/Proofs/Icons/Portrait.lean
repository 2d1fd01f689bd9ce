/-
# Which icon is shown

The icon on the pointer's sprite is a function of the state.  It is written when a flag
says that the choice may have changed, and by ticks that flip an animation; between two
operations on a valid display both agree with `Controller.portrait?`, which reads neither
flags nor history.  This needs animations that start with the icon of their id, because
an icon that starts to play is written as itself and not as a frame.
-/

import ScreenPointer.Proofs.Icons.View

namespace ScreenPointer

def Surface.iconOf? (s : Surface) (id : SpriteId) : Option Icon :=
  (s.record? id).bind (·.icon)

/-- An animation under an id is not under the default id, and its first frame, if it has
one, is also the icon of the id. -/
def MouseIcons.MatchesAt (m : MouseIcons) (defaultId id : IconId) : Prop :=
  ∀ animation, m.animations.find? id = some animation →
    id ≠ defaultId ∧ (animation.frames ≠ [] → m.icons.find? id = animation.frames.head?)

/-- Every animation starts with the icon of its id, and the default id has none. -/
def Catalogue.Matched (c : Catalogue) : Prop := ∀ id, c.mouse.MatchesAt c.defaultId id

/-- The icon that the state calls for; none if an animation has no frame where it should be
playing. -/
def Controller.portrait? (c : Controller) (catalogue : Catalogue) : Option Icon :=
  match c.pointer.presentation with
  | .spot => some catalogue.spots.anchor
  | .pointer =>
    let requested := c.pointer.requested
    match c.mouse.icons.find? requested with
    | none => some catalogue.pointer
    | some icon =>
      if requested = catalogue.defaultId then some catalogue.pointer
      else
        match c.mouse.animations.find? requested with
        | none => some icon
        | some animation =>
          if animation.isPlayable then animation.frames[c.pointer.frame]? else some icon

def Host.shownIcon? (h : Host) : Option Icon :=
  (h.controller.bind (·.sprite)).bind h.world.surface.iconOf?

/-! ## Icons on sprites -/

namespace Surface

variable {s : Surface} {id : SpriteId}

@[simp]
theorem iconOf?_closeTransaction (s : Surface) (id : SpriteId) :
    s.closeTransaction.iconOf? id = s.iconOf? id := by
  rw [iconOf?, record?_closeTransaction]
  rfl

/-- A change that spares the icon. -/
theorem iconOf?_change {f : SpriteRecord → SpriteRecord} (hspares : ∀ r, (f r).icon = r.icon)
    (s : Surface) (id : SpriteId) : (s.change id f).iconOf? id = s.iconOf? id := by
  rw [iconOf?, iconOf?, record?_change_self]
  cases s.record? id with
  | none => rfl
  | some r => exact hspares r

theorem iconOf?_setIcon {r : SpriteRecord} (halive : s.record? id = some r) (icon : Icon) :
    (s.setIcon id icon).iconOf? id = some icon := by
  rw [iconOf?, setIcon, record?_change_self, halive]
  rfl

end Surface

theorem Live.writePlace_iconOf? (l : Live) (sprite : SpriteId) :
    (l.writePlace sprite).world.surface.iconOf? sprite = l.world.surface.iconOf? sprite := by
  unfold writePlace onSurface
  dsimp only
  split <;>
    simp [Surface.setLayer, Surface.setPosition, Surface.setDisplay, Surface.setAlpha,
      Surface.setVisible, Surface.iconOf?_change]

/-! ## Sprite and state agree -/

/-- When the choice is written, it is what the state then calls for: an animation starts over
with its first frame. -/
theorem Controller.iconChoice_portrait {c : Controller} {catalogue : Catalogue}
    (hicons : c.icons = some ⟨catalogue.pointer, catalogue.spots⟩)
    (hmatches : c.mouse.MatchesAt catalogue.defaultId c.pointer.requested) :
    ∃ icon, (c.iconChoice catalogue.defaultId).icon = some icon ∧
      { c with pointer.frame :=
        if (c.iconChoice catalogue.defaultId).animated then 0 else c.pointer.frame }.portrait?
          catalogue = some icon := by
  cases hpresented : c.pointer.presentation with
  | spot => exact ⟨catalogue.spots.anchor, by simp [iconChoice, portrait?, hpresented, hicons]⟩
  | pointer =>
      by_cases hdefault : c.pointer.requested = catalogue.defaultId
      · refine ⟨catalogue.pointer, by simp [iconChoice, hpresented, hdefault, hicons], ?_⟩
        simp only [portrait?, hpresented, hdefault, if_true]
        split <;> rfl
      · cases hicon : c.mouse.icons.find? c.pointer.requested with
        | none =>
            exact ⟨catalogue.pointer, by simp [iconChoice, portrait?, hpresented, hdefault,
              hicon, hicons]⟩
        | some icon =>
            refine ⟨icon, by simp [iconChoice, hpresented, hdefault, hicon], ?_⟩
            cases hanimation : c.mouse.animations.find? c.pointer.requested with
            | none => simp [portrait?, hpresented, hdefault, hicon, hanimation]
            | some animation =>
                have hfirst := (hmatches animation hanimation).2
                simp only [portrait?, iconChoice, hpresented, hdefault, hicon, hanimation,
                  if_false, Option.isSome_some, if_true]
                split
                · rename_i hplayable
                  have hframes : animation.frames ≠ [] := by
                    simp only [Animation.isPlayable, Bool.and_eq_true,
                      Bool.not_eq_true'] at hplayable
                    simpa using hplayable.1
                  rw [← List.head?_eq_getElem?, ← hfirst hframes, hicon]
                · rfl

/-- What the pointer's sprite shows while nothing is left to write. -/
structure Scene.Portrayed (pointer : SpriteId) (v : Scene) : Prop where
  icons : ∀ icons, v.controller.icons = some icons →
    icons = ⟨v.catalogue.pointer, v.catalogue.spots⟩
  shown : v.controller.viewport.isValid = true → v.controller.iconChanged = false →
    v.controller.presentationChanged = false →
    v.controller.mouse.MatchesAt v.catalogue.defaultId v.controller.pointer.requested →
    ∃ icon, v.surface.iconOf? pointer = some icon ∧
      v.controller.portrait? v.catalogue = some icon

namespace Live

open Scene (Kept Staged Loaded Portrayed)

variable {pointer : SpriteId} {l : Live}

/-- Writing the icon brings it in line with the state, whatever was shown before. -/
theorem writeIcon_portrayed (h : Kept pointer l.scene) (hloaded : l.controller.icons.isSome = true)
    (hicons : ∀ icons, l.controller.icons = some icons →
      icons = ⟨l.world.catalogue.pointer, l.world.catalogue.spots⟩) :
    Portrayed pointer (l.writeIcon pointer).2.scene := by
  obtain ⟨icons, hsome⟩ := Option.isSome_iff_exists.mp hloaded
  obtain ⟨r, halive, -⟩ := h.apart
  rw [writeIcon_scene_eq]
  refine ⟨hicons, fun _ _ _ hmatches => ?_⟩
  have hloads : l.controller.icons = some ⟨l.world.catalogue.pointer, l.world.catalogue.spots⟩ :=
    hicons icons hsome ▸ hsome
  obtain ⟨icon, hchoice, hportrait⟩ := Controller.iconChoice_portrait hloads hmatches
  refine ⟨icon, ?_, hportrait⟩
  dsimp only
  rw [hchoice]
  exact Surface.iconOf?_setIcon halive icon

theorem closeTransaction_portrayed (h : Portrayed pointer l.scene) :
    Portrayed pointer (l.onSurface (·.closeTransaction)).scene :=
  ⟨h.icons, fun hvalid hicon hpresentation hmatches => by
    obtain ⟨icon, hshown, hportrait⟩ := h.shown hvalid hicon hpresentation hmatches
    exact ⟨icon, (Surface.iconOf?_closeTransaction _ _).trans hshown, hportrait⟩⟩

theorem present_portrayed (hkept : Kept pointer l.scene) (hloaded : Loaded l.scene)
    (h : Portrayed pointer l.scene) : Portrayed pointer l.present.scene := by
  unfold present
  split
  · rename_i sprite hvalid hsprite
    cases Option.some.inj (hsprite.symm.trans hkept.sprite)
    have hplaced := writePlace_kept (l := l.onSurface (·.openTransaction)) hkept.openTransaction
    have hicon := (l.onSurface (·.openTransaction)).writePlace_iconOf? pointer
    dsimp only
    split
    · rw [startIf_scene]
      exact closeTransaction_portrayed (writeIcon_portrayed hplaced (hloaded hvalid) h.icons)
    · refine closeTransaction_portrayed (l := (l.onSurface (·.openTransaction)).writePlace pointer)
        ⟨h.icons, fun hvalid hwritten hpresented hmatches => ?_⟩
      obtain ⟨icon, hshown, hportrait⟩ := h.shown hvalid hwritten hpresented hmatches
      exact ⟨icon, hicon.trans hshown, hportrait⟩
  · exact h

/-! ## Commands -/

/-- While an icon is to be written nothing is promised. -/
theorem portrayed_of_pending (hicons : ∀ icons, l.controller.icons = some icons →
      icons = ⟨l.world.catalogue.pointer, l.world.catalogue.spots⟩)
    (hpending : l.controller.iconChanged = true ∨ l.controller.presentationChanged = true) :
    Portrayed pointer l.scene := by
  refine ⟨hicons, fun _ hicon hpresentation _ => ?_⟩
  rcases hpending with hpending | hpending
  · exact absurd (hpending.symm.trans hicon) nofun
  · exact absurd (hpending.symm.trans hpresentation) nofun

theorem place_portrayed (hstaged : Staged pointer l.scene) (h : Portrayed pointer l.scene)
    (p : Point) : Portrayed pointer (l.place p).scene := by
  unfold place
  split
  · exact h
  · exact present_portrayed { hstaged.kept with } hstaged.loaded { h with }

theorem hide_portrayed (hstaged : Staged pointer l.scene) (h : Portrayed pointer l.scene)
    (transition : Transition) : Portrayed pointer (l.hide transition).scene := by
  rw [← l.cancelInactivity_scene] at hstaged h
  unfold hide
  cases transition with
  | immediate => exact present_portrayed { hstaged.kept with } hstaged.loaded { h with }
  | gradual =>
      dsimp only
      rw [startAnimation_scene]
      exact { h with }

theorem reveal_portrayed (hstaged : Staged pointer l.scene) (h : Portrayed pointer l.scene)
    (transition : Transition) : Portrayed pointer (l.reveal transition).scene := by
  rw [← l.restartInactivity_scene] at hstaged h
  unfold reveal
  cases transition with
  | immediate => exact present_portrayed { hstaged.kept with } hstaged.loaded { h with }
  | gradual =>
      dsimp only
      rw [startAnimation_scene]
      exact { h with }

theorem fadeAllSpots_portrayed (h : Portrayed pointer l.scene) :
    Portrayed pointer l.fadeAllSpots.scene := by
  rw [fadeAllSpots_scene]
  exact { h with }

/-- What was loaded is to be written, and without a display nothing is promised. -/
theorem loadIcons_portrayed (hicons : ∀ icons, l.controller.icons = some icons →
      icons = ⟨l.world.catalogue.pointer, l.world.catalogue.spots⟩) :
    Portrayed pointer l.loadIcons.scene := by
  unfold loadIcons
  split
  · dsimp only
    split <;> exact portrayed_of_pending (fun icons heq => (Option.some.inj heq).symm) (.inl rfl)
  · rename_i hinvalid
    exact ⟨hicons, fun hvalid => absurd hvalid hinvalid⟩

/-- Between displays nothing is promised; a display that follows another one of the same panel
keeps the icon. -/
theorem applyViewport_portrayed (hstaged : Staged pointer l.scene) (h : Portrayed pointer l.scene)
    (viewport : Viewport) : Portrayed pointer (l.applyViewport viewport).scene := by
  have hsame : l.controller.viewport.isValid = viewport.isValid →
      Loaded { l with controller.viewport := viewport }.scene ∧
        Portrayed pointer { l with controller.viewport := viewport }.scene := fun heq =>
    ⟨fun hvalid => hstaged.loaded (heq.trans hvalid),
      ⟨h.icons, fun hvalid => h.shown (heq.trans hvalid)⟩⟩
  unfold applyViewport
  dsimp only
  split
  · exact h
  · cases hchange : l.controller.viewport.changeTo viewport with
    | reset =>
        dsimp only
        cases hbounds : viewport.bounds? with
        | none =>
            have hgone := Viewport.bounds?_eq_none.mp hbounds
            refine present_portrayed (fadeAllSpots_kept { hstaged.kept with })
              (fadeAllSpots_loaded fun hvalid => ?_)
              (fadeAllSpots_portrayed ⟨h.icons, fun hvalid => ?_⟩)
            · exact absurd hvalid (Bool.eq_false_iff.mp hgone)
            · exact absurd hvalid (Bool.eq_false_iff.mp hgone)
        | some bounds =>
            exact present_portrayed (fadeAllSpots_kept (loadIcons_kept { hstaged.kept with }))
              (fadeAllSpots_loaded (loadIcons_loaded _))
              (fadeAllSpots_portrayed (loadIcons_portrayed h.icons))
    | reorient =>
        obtain ⟨hloaded, hportrayed⟩ :=
          hsame (Viewport.isValid_of_changeTo fun hreset => by cases hchange.symm.trans hreset)
        exact present_portrayed { hstaged.kept with } hloaded { hportrayed with }
    | unchanged =>
        obtain ⟨hloaded, hportrayed⟩ :=
          hsame (Viewport.isValid_of_changeTo fun hreset => by cases hchange.symm.trans hreset)
        exact present_portrayed { hstaged.kept with } hloaded hportrayed

theorem setPresentation_portrayed (hstaged : Staged pointer l.scene)
    (h : Portrayed pointer l.scene) (presentation : Presentation) :
    Portrayed pointer (l.setPresentation presentation).scene := by
  unfold setPresentation
  split
  · exact h
  · dsimp only
    cases presentation with
    | spot =>
        exact present_portrayed { hstaged.kept with } hstaged.loaded
          (portrayed_of_pending h.icons (.inr rfl))
    | pointer =>
        dsimp only
        split
        · exact present_portrayed (fadeAllSpots_kept { hstaged.kept with })
            (fadeAllSpots_loaded hstaged.loaded)
            (fadeAllSpots_portrayed (portrayed_of_pending h.icons (.inr rfl)))
        · exact present_portrayed (fadeAllSpots_kept { hstaged.kept with })
            (fadeAllSpots_loaded hstaged.loaded)
            (fadeAllSpots_portrayed (portrayed_of_pending h.icons (.inr rfl)))

theorem requestIcon_portrayed (hstaged : Staged pointer l.scene) (h : Portrayed pointer l.scene)
    (id : IconId) : Portrayed pointer (l.requestIcon id).scene := by
  unfold requestIcon
  split
  · exact h
  · exact present_portrayed { hstaged.kept with } hstaged.loaded
      (portrayed_of_pending h.icons (.inl rfl))

theorem setCustomIcon_portrayed (hstaged : Staged pointer l.scene)
    (h : Portrayed pointer l.scene) (icon : Icon) :
    Portrayed pointer (l.setCustomIcon icon).scene :=
  present_portrayed { hstaged.kept with } hstaged.loaded (portrayed_of_pending h.icons (.inl rfl))

/-- Spots come and go without the pointer's sprite. -/
theorem withSpots_portrayed (h : Portrayed pointer l.scene) {spots : SpotPool} {surface : Surface}
    (hpool : spots.Kept pointer (l.world.surface.record? pointer) l.world.catalogue.spots surface) :
    Portrayed pointer { l with controller.spots := spots, world.surface := surface }.scene := by
  have hpointer : surface.record? pointer = l.world.surface.record? pointer :=
    hpool.tended.records.pointer
  have hicon : surface.iconOf? pointer = l.world.surface.iconOf? pointer :=
    congrArg (fun found : Option SpriteRecord => found.bind (·.icon)) hpointer
  refine ⟨h.icons, fun hvalid hwritten hpresented hmatches => ?_⟩
  obtain ⟨icon, hshown, hportrait⟩ := h.shown hvalid hwritten hpresented hmatches
  exact ⟨icon, hicon.trans hshown, hportrait⟩

theorem openTransaction_portrayed (h : Portrayed pointer l.scene) :
    Portrayed pointer (l.onSurface (·.openTransaction)).scene :=
  { h with }

theorem setSpots_portrayed (hstaged : Staged pointer l.scene) (h : Portrayed pointer l.scene)
    (contacts : List Contact) (display : DisplayId) :
    Portrayed pointer (l.setSpots contacts display).scene := by
  unfold setSpots
  split
  · rename_i icons _ hicons
    have hopen := openTransaction_staged hstaged
    have hspots : icons.spots = l.world.catalogue.spots := hstaged.kept.icons icons hicons
    have hpool := hopen.kept.pool.update contacts display
    dsimp only
    rw [hspots, startIf_scene]
    exact closeTransaction_portrayed (withSpots_portrayed (openTransaction_portrayed h) hpool)
  · exact h

theorem perform_portrayed (hstaged : Staged pointer l.scene) (h : Portrayed pointer l.scene)
    (command : Command) : Portrayed pointer (l.perform command).scene := by
  cases command with
  | moveBy dx dy =>
      dsimp only [perform]
      split
      · exact h
      · exact place_portrayed hstaged h _
  | place p => exact place_portrayed hstaged h p
  | setButtons buttons => exact { h with }
  | hide transition => exact hide_portrayed hstaged h transition
  | reveal transition => exact reveal_portrayed hstaged h transition
  | present presentation => exact setPresentation_portrayed hstaged h presentation
  | setSpots contacts display => exact setSpots_portrayed hstaged h contacts display
  | clearSpots =>
      dsimp only [perform]
      split
      · exact fadeAllSpots_portrayed h
      · exact h
  | setTimeout timeout =>
      dsimp only [perform]
      split
      · exact h
      · rw [restartInactivity_scene]
        exact { h with }
  | setViewport viewport => exact applyViewport_portrayed hstaged h viewport
  | requestIcon id => exact requestIcon_portrayed hstaged h id
  | setCustomIcon icon => exact setCustomIcon_portrayed hstaged h icon
  | reload =>
      exact present_portrayed (loadIcons_kept hstaged.kept) (loadIcons_loaded l)
        (loadIcons_portrayed h.icons)

/-! ## Notices -/

theorem fadePointer_portrayed (hstaged : Staged pointer l.scene) (h : Portrayed pointer l.scene)
    (elapsed : Nanos) : Portrayed pointer (l.fadePointer elapsed).2.scene := by
  unfold fadePointer
  dsimp only
  split
  · exact present_portrayed { hstaged.kept with } hstaged.loaded { h with }
  · exact h

theorem fadeSpots_portrayed (hstaged : Staged pointer l.scene) (h : Portrayed pointer l.scene)
    (elapsed : Nanos) : Portrayed pointer (l.fadeSpots elapsed).2.scene :=
  withSpots_portrayed h (hstaged.kept.pool.advanceFades _)

/-- A frame is written together with its number, which stays in range. -/
theorem flipFrame_portrayed (hstaged : Staged pointer l.scene) (h : Portrayed pointer l.scene)
    (timestamp : Nanos) : Portrayed pointer (l.flipFrame timestamp).2.scene := by
  obtain ⟨r, halive, -⟩ := hstaged.kept.apart
  unfold flipFrame
  dsimp only
  split
  · rename_i animation hpresented hanimation
    split
    · rename_i hplayable
      have hframes : animation.frames ≠ [] := by
        simp only [Animation.isPlayable, Bool.and_eq_true, Bool.not_eq_true'] at hplayable
        simpa using hplayable.1
      split
      · generalize hframe : (l.controller.pointer.frame + (Nanos.since
          l.controller.pointer.frameTime timestamp / animation.frameDuration).toNat %
            animation.frames.length) % animation.frames.length = frame
        have hrange : frame < animation.frames.length := by
          rw [← hframe]
          exact Nat.mod_lt _ (List.length_pos_iff.mpr hframes)
        have hsprite : l.controller.sprite = some pointer := hstaged.kept.sprite
        rw [hsprite, List.getElem?_eq_getElem hrange]
        refine ⟨h.icons, fun _ _ _ hmatches => ⟨animation.frames[frame], ?_, ?_⟩⟩
        · exact Surface.iconOf?_setIcon halive _
        · have hother : l.controller.pointer.requested ≠ l.world.catalogue.defaultId :=
            (hmatches animation hanimation).1
          have hicon : l.controller.mouse.icons.find? l.controller.pointer.requested =
              some (animation.frames.head hframes) :=
            ((hmatches animation hanimation).2 hframes).trans (List.head?_eq_some_head hframes)
          have hportrait : { l.controller with pointer.frame := frame }.portrait?
              l.world.catalogue = some animation.frames[frame] := by
            simp only [Controller.portrait?, hpresented, hicon, hanimation, hplayable, if_true]
            rw [if_neg hother, List.getElem?_eq_getElem hrange]
          exact hportrait
      · exact h
    · exact h
  · exact h

theorem tick_portrayed (hstaged : Staged pointer l.scene) (h : Portrayed pointer l.scene)
    (timestamp : Nanos) : Portrayed pointer (l.tick timestamp).scene := by
  unfold tick
  dsimp only
  rw [startIf_scene]
  generalize hopened : ({ l with controller.scheduler.pending := false }.onSurface
    (·.openTransaction)) = opened
  have hopen : Staged pointer opened.scene := by
    rw [← hopened]
    exact openTransaction_staged hstaged
  have hportrayed : Portrayed pointer opened.scene := by
    rw [← hopened]
    exact openTransaction_portrayed h
  have hfaded := fadePointer_staged hopen (l.controller.scheduler.elapsed timestamp)
  exact closeTransaction_portrayed (flipFrame_portrayed (fadeSpots_staged hfaded _)
    (fadeSpots_portrayed hfaded (fadePointer_portrayed hopen hportrayed _) _) _)

theorem receive_portrayed (hstaged : Staged pointer l.scene) (h : Portrayed pointer l.scene)
    (notice : Notice) : Portrayed pointer (l.receive notice).2.scene := by
  cases notice with
  | events events =>
      dsimp only [receive]
      split
      · exact h
      · split
        · exact h
        · exact tick_portrayed hstaged h _
  | timer token =>
      dsimp only [receive, timerFired]
      split
      · exact h
      · split
        · exact hide_portrayed (l := { l with controller.inactivity.pending := none }) hstaged h _
        · exact h
  | failure => exact h

end Live

/-- While a controller is at work, the icon of the pointer's sprite agrees with the state. -/
theorem portrayed_law :
    SceneLaw (fun _ surface => surface.Owned [])
      fun v => ∃ pointer, v.Staged pointer ∧ v.Portrayed pointer where
  empty _ := Surface.owned_empty
  start settings catalogue surface loads h := by
    obtain ⟨pointer, hstaged⟩ := staged_law.start settings catalogue surface loads h
    exact ⟨pointer, hstaged, fun icons hicons => absurd hicons.symm (Option.some_ne_none icons),
      fun hvalid => absurd hvalid Bool.false_ne_true⟩
  perform l command := fun ⟨pointer, hstaged, h⟩ =>
    ⟨pointer, l.perform_staged hstaged command, l.perform_portrayed hstaged h command⟩
  receive l notice := fun ⟨pointer, hstaged, h⟩ =>
    ⟨pointer, l.receive_staged hstaged notice, l.receive_portrayed hstaged h notice⟩
  tearDown _ := fun ⟨_, hstaged, _⟩ => Live.tearDown_bare hstaged

/-! ## Tables that match -/

theorem MouseIcons.matchesAt_empty (defaultId id : IconId) : empty.MatchesAt defaultId id :=
  fun animation hanimation => absurd hanimation.symm (Option.some_ne_none animation)

theorem Catalogue.matched_plain : Catalogue.plain.Matched := MouseIcons.matchesAt_empty _

/-- An animation is served together with its first frame. -/
theorem Catalogue.Matched.withAnimation {c : Catalogue} (h : c.Matched) {id : IconId}
    (hid : id ≠ c.defaultId) (animation : Animation) : (c.withAnimation id animation).Matched := by
  intro other found hfound
  by_cases heq : other = id
  · subst heq
    rw [Catalogue.withAnimation, Keyed.find?_insert_self] at hfound
    cases hfound
    refine ⟨hid, fun hframes => ?_⟩
    obtain ⟨first, rest, hcons⟩ := List.exists_cons_of_ne_nil hframes
    simp only [Catalogue.withAnimation, hcons, Keyed.find?_insert_self, List.head?_cons]
  · rw [Catalogue.withAnimation, Keyed.find?_insert_of_ne heq] at hfound
    obtain ⟨hother, hfirst⟩ := h other found hfound
    refine ⟨hother, fun hframes => ?_⟩
    simp only [Catalogue.withAnimation]
    split
    · exact hfirst hframes
    · rw [Keyed.find?_insert_of_ne heq]
      exact hfirst hframes

namespace IconView

/-- Every animation that is loaded starts with the icon of its id. -/
def Matched (v : IconView) : Prop := ∀ id, v.mouse.MatchesAt v.catalogue.defaultId id

variable {v w : IconView} {command : Command}

theorem matched_blank (catalogue : Catalogue) (loads : Nat) : (blank catalogue loads).Matched :=
  MouseIcons.matchesAt_empty _

theorem Matched.loaded (hcatalogue : v.catalogue.Matched) : v.loaded.Matched := by
  unfold IconView.loaded
  cases v.presentation with
  | pointer => exact hcatalogue
  | spot => exact MouseIcons.matchesAt_empty _

/-- The application's icon is not animated. -/
theorem Matched.withCustom (h : v.Matched) (icon : Icon) : (v.withCustom icon).Matched := by
  intro id animation hanimation
  simp only [IconView.withCustom] at hanimation
  have hne : id ≠ v.catalogue.customId := by
    rintro rfl
    rw [Keyed.find?_erase_self] at hanimation
    cases hanimation
  rw [Keyed.find?_erase_of_ne hne] at hanimation
  rw [v.find?_withCustom_of_ne icon hne]
  exact h id animation hanimation

theorem Turns.matched (hcatalogue : v.catalogue.Matched) (hturns : v.Turns command w)
    (h : v.Matched) : w.Matched := by
  cases hturns with
  | kept | away | spots | asked => exact h
  | displayed shown => exact Matched.loaded hcatalogue
  | reloaded valid => exact Matched.loaded hcatalogue
  | pointing spots =>
      unfold IconView.Matched IconView.pointing
      dsimp only
      split
      · exact hcatalogue
      · exact h
  | custom icon => exact h.withCustom icon

end IconView

namespace Session

theorem run_matched (now : Nanos) (connected : Bool) {catalogue : Catalogue}
    (hcatalogue : catalogue.Matched) (steps : List Step) :
    ((blank now connected catalogue).run steps).host.iconView.Matched := by
  induction steps using List.reverseRecOn with
  | nil => exact IconView.matched_blank _ _
  | append_singleton steps step ih =>
      have hturns := step_turns ((blank now connected catalogue).run steps) step
      rw [run_concat]
      generalize (((blank now connected catalogue).run steps).step step).2.host.iconView = w
        at hturns ⊢
      cases hturns with
      | kept => exact ih
      | cleared replaces => exact IconView.matched_blank _ _
      | turned working asks turns =>
          refine turns.matched ?_ ih
          rw [run_iconView_catalogue]
          exact hcatalogue

/-- While the requested icon starts its animation, if it has one, the pointer's sprite shows what
the state calls for. -/
theorem shown_of_matchesAt {s : Session} (hs : s.Reachable) {c : Controller}
    (hc : s.host.controller = some c) (hvalid : c.viewport.isValid = true)
    (hmatches : c.mouse.MatchesAt s.host.world.catalogue.defaultId c.pointer.requested) :
    ∃ icon, s.host.shownIcon? = some icon ∧
      c.portrait? s.host.world.catalogue = some icon := by
  obtain ⟨pointer, hstaged, hportrayed⟩ := portrayed_law.live_meets hs hc
  have hsprite : c.sprite = some pointer := hstaged.kept.sprite
  obtain ⟨icon, hshown, hportrait⟩ := hportrayed.shown hvalid (hstaged.upToDate hvalid).iconWritten
    (hstaged.upToDate hvalid).presentationWritten hmatches
  refine ⟨icon, ?_, hportrait⟩
  rw [Host.shownIcon?, hc, Option.bind_some, hsprite]
  exact hshown

/-- In every state of every run with a valid display the pointer's sprite shows the icon that the
state calls for: the anchor of the spots, the default pointer, the current frame of an animation
or the icon of the requested id. -/
theorem shown_icon_is_portrait (now : Nanos) (connected : Bool) {catalogue : Catalogue}
    (hmatched : catalogue.Matched) (steps : List Step) {c : Controller}
    (hc : ((blank now connected catalogue).run steps).host.controller = some c)
    (hvalid : c.viewport.isValid = true) :
    ∃ icon, ((blank now connected catalogue).run steps).host.shownIcon? = some icon ∧
      c.portrait? catalogue = some icon := by
  have hmatches := run_matched now connected hmatched steps c.pointer.requested
  have hcatalogue := run_iconView_catalogue now connected catalogue steps
  rw [Host.iconView_of_some hc] at hmatches hcatalogue
  have hworld : ((blank now connected catalogue).run steps).host.world.catalogue = catalogue :=
    hcatalogue
  have hshown := shown_of_matchesAt ⟨now, connected, catalogue, steps, rfl⟩ hc hvalid hmatches
  rw [hworld] at hshown
  exact hshown

/-- An animation that was asked for without a display plays once there is one. -/
theorem shown_icon_is_second_frame :
    let catalogue := Catalogue.plain.withAnimation .wait
      ⟨[.square ⟨1, 1, 1, 255⟩, .square ⟨2, 2, 2, 255⟩], 10⟩
    let s := (blank 0 true catalogue).run
      [.create {}, .command (.requestIcon .wait),
        .command (.setViewport (.whole .builtin 100 50)), .setNow 15, .vsync 15]
    s.host.shownIcon? = some (.square ⟨2, 2, 2, 255⟩) := by
  intro catalogue s
  have hstate : s.host.controller.map (fun c => (c.viewport.isValid, c.portrait? catalogue)) =
      some (true, some (.square ⟨2, 2, 2, 255⟩)) := by decide +kernel
  obtain ⟨c, hc, hstate⟩ := Option.map_eq_some_iff.mp hstate
  obtain ⟨hvalid, hportrait⟩ := Prod.mk.inj hstate
  have hmatched : catalogue.Matched := Catalogue.matched_plain.withAnimation (by decide) _
  obtain ⟨icon, hshown, hcalled⟩ := shown_icon_is_portrait 0 true hmatched _ hc hvalid
  rw [hshown, ← hcalled, hportrait]

end Session

end ScreenPointer
