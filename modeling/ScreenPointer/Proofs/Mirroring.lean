/-
# The surface mirrors the controllers

What the law of scenes says to someone who looks at the surface: every living
sprite has one owner, every live spot is drawn by its sprite, the spots to be
seen are the live ones, and the pointer's sprite is where the pointer is.
-/

import Mathlib.Data.List.Basic
import ScreenPointer.Proofs.Drawing

namespace ScreenPointer

/-- A surface that shows a controller and nothing else.  Every sprite on it has one owner, and each
spot is drawn as its controller has it. -/
structure Controller.MirroredBy (c : Controller) (catalogue : Catalogue) (surface : Surface)
    (pointer : SpriteId) : Prop where
  sprite : c.sprite = some pointer
  listed : ∀ display s, (display, s) ∈ c.spots.live ↔ s ∈ c.spots.spots display
  /-- One sprite is the pointer's, one each spot's, and the others are spare. -/
  owners : surface.alive.Perm (pointer :: (c.spots.live.map (·.2.sprite) ++ c.spots.recycled))
  /-- No sprite has two owners. -/
  distinct : (pointer :: (c.spots.live.map (·.2.sprite) ++ c.spots.recycled)).Nodup
  room : ∀ display, (c.spots.spots display).length ≤ max c.settings.spots.maxSpots 1
  shelf : c.spots.recycled.length ≤ c.settings.spots.maxRecycled
  drawn : ∀ e ∈ c.spots.live, ∃ r, surface.record? e.2.sprite = some r ∧
    r.Draws e.2 e.1 c.settings.spots.scale catalogue.spots
  blank : ∀ id ∈ c.spots.recycled, ∃ r, surface.record? id = some r ∧ r.icon = none
  /-- The spots to be seen are the live ones. -/
  seen : surface.spots.Perm (c.spots.live.filterMap fun e => surface.record? e.2.sprite)
  /-- Only the pointer is on the pointer layer. -/
  top : ∀ p ∈ surface.placed, p.record.layer = Layer.pointer → p.id = pointer

/-- The spots that a surface shows are among the records of its owners. -/
theorem Surface.Owned.spots_perm {s : Surface} {owners : List SpriteId} (h : s.Owned owners) :
    s.spots.Perm ((owners.filterMap s.record?).filter fun r => r.isSpot && r.icon.isSome) := by
  have hrecords : s.placed.map (·.record) = s.alive.filterMap s.record? := by
    unfold Surface.alive
    rw [List.filterMap_map, ← List.filterMap_eq_map]
    exact List.filterMap_congr fun p hp => (Surface.record?_of_mem h.alive_nodup hp).symm
  have hslots : (s.bySlot.map (·.record)).Perm (owners.filterMap s.record?) := by
    apply ((List.mergeSort_perm s.placed _).map _).trans
    rw [hrecords]
    exact h.alive.filterMap _
  exact (List.mergeSort_perm _ _).trans (hslots.filter _)

namespace SpotPool

variable {pointer : SpriteId} {look : Option SpriteRecord} {icons : SpotIcons} {pool : SpotPool}
  {surface : Surface}

/-- Neither the pointer's sprite nor a spare one counts as a spot to be seen. -/
theorem Kept.seen (h : Kept pointer look icons pool surface)
    (hapart : ∃ r, surface.record? pointer = some r ∧ r.isSpot = false) :
    surface.spots.Perm (pool.live.filterMap fun e => surface.record? e.2.sprite) := by
  obtain ⟨r, hr, hapart⟩ := hapart
  have hlive : ((pool.live.map (·.2.sprite)).filterMap surface.record?).filter
      (fun r => r.isSpot && r.icon.isSome) =
        pool.live.filterMap fun e => surface.record? e.2.sprite := by
    rw [List.filterMap_map]
    apply List.filter_eq_self.mpr
    intro r hr
    obtain ⟨e, he, hrecord⟩ := List.mem_filterMap.mp hr
    obtain ⟨r', hr', hdraws⟩ := h.tended.records.drawn e he
    cases Option.some.inj (hrecord.symm.trans hr')
    obtain ⟨kind, -, hicon⟩ := hdraws.icon
    simp [hdraws.isSpot, hicon]
  have hspare : (pool.recycled.filterMap surface.record?).filter
      (fun r => r.isSpot && r.icon.isSome) = [] := by
    apply List.filter_eq_nil_iff.mpr
    intro r hr
    obtain ⟨id, hid, hrecord⟩ := List.mem_filterMap.mp hr
    obtain ⟨r', hr', hblank⟩ := h.tended.records.blank id hid
    cases Option.some.inj (hrecord.symm.trans hr')
    simp [hblank.icon]
  have howned : surface.Owned (pointer :: (pool.live.map (·.2.sprite) ++ pool.recycled)) :=
    h.tended.owned
  have hseen := howned.spots_perm
  rw [List.filterMap_cons_some hr, List.filter_cons_of_neg (by simp [hapart]),
    List.filterMap_append, List.filter_append, hlive, hspare, List.append_nil] at hseen
  exact hseen

end SpotPool

/-- A scene in order is mirrored by its surface. -/
theorem Scene.Kept.mirrored {pointer : SpriteId} {c : Controller} {w : World}
    (h : (c.sceneIn w).Kept pointer) : c.MirroredBy w.catalogue w.surface pointer := by
  have howned : w.surface.Owned (spriteOwners pointer c.spots.live c.spots.recycled) :=
    h.pool.tended.owned
  have hlimits : c.spots.limits =
      { c.settings.spots with maxSpots := max c.settings.spots.maxSpots 1 } := h.limits
  have hmax : c.spots.maxSpots = max c.settings.spots.maxSpots 1 := congrArg (·.maxSpots) hlimits
  have hscale : c.spots.scale = c.settings.spots.scale := congrArg (·.scale) hlimits
  refine ⟨h.sprite, fun _ _ => h.pool.mem_live_iff, howned.alive, howned.distinct,
    fun display => ?_, ?_, fun e he => ?_, fun id hid => ?_, h.pool.seen h.apart,
    fun p hp hlayer => ?_⟩
  · rw [← hmax]
    exact (h.pool.roster display).length
  · have hshelf : c.spots.recycled.length ≤ c.spots.maxRecycled := h.pool.tended.shelf
    exact Nat.le_trans hshelf (Nat.le_of_eq (congrArg (·.maxRecycled) hlimits))
  · rw [← hscale]
    exact h.pool.tended.records.drawn e he
  · obtain ⟨r, hr, hblank⟩ := h.pool.tended.records.blank id hid
    exact ⟨r, hr, hblank.icon⟩
  · have hrecord := Surface.record?_of_mem howned.alive_nodup hp
    have howner : p.id ∈ spriteOwners pointer c.spots.live c.spots.recycled :=
      howned.alive.mem_iff.mp (List.mem_map.mpr ⟨p, hp, rfl⟩)
    have hspot : p.record.isSpot = false := SpriteRecord.isSpot_of_layer hlayer
    rcases List.mem_cons.mp howner with heq | hother
    · exact heq
    rcases List.mem_append.mp hother with hlive | hspare
    · obtain ⟨e, he, hid⟩ := List.mem_map.mp hlive
      obtain ⟨r, hr, hdraws⟩ := h.pool.tended.records.drawn e he
      rw [hid] at hr
      cases Option.some.inj (hrecord.symm.trans hr)
      exact absurd hdraws.isSpot (Bool.eq_false_iff.mp hspot)
    · obtain ⟨r, hr, hblank⟩ := h.pool.tended.records.blank p.id hspare
      cases Option.some.inj (hrecord.symm.trans hr)
      exact absurd hblank.isSpot (Bool.eq_false_iff.mp hspot)

namespace Session

/-- In every state of every run, what was created is alive or was released, and the
living sprites are none without a controller and mirror the controller otherwise. -/
theorem surface_mirrors_controller {s : Session} (hs : s.Reachable) :
    s.host.world.surface.created =
        s.host.world.surface.placed.length + s.host.world.surface.released ∧
      match s.host.controller with
      | none => s.host.world.surface.placed = []
      | some c => ∃ pointer,
          c.MirroredBy s.host.world.catalogue s.host.world.surface pointer := by
  have hmeets := staged_law.run_meets hs
  unfold Host.Meets at hmeets
  have hbalance : ∀ owners, s.host.world.surface.Owned owners →
      s.host.world.surface.created =
        s.host.world.surface.placed.length + s.host.world.surface.released := by
    intro owners howned
    have hcount : s.host.world.surface.placed.length = owners.length := by
      rw [← howned.alive.length_eq]
      exact (List.length_map _).symm
    rw [hcount]
    exact howned.balance
  cases hc : s.host.controller with
  | none =>
      rw [hc] at hmeets
      exact ⟨hbalance _ hmeets, List.map_eq_nil_iff.mp hmeets.alive.eq_nil⟩
  | some c =>
      rw [hc] at hmeets
      obtain ⟨pointer, hstaged⟩ := hmeets
      exact ⟨hbalance _ hstaged.kept.pool.tended.owned, pointer, hstaged.kept.mirrored⟩

/-- After a contact was lifted its spot still counts, and the surface mirrors both. -/
theorem surface_mirrors_two_spots :
    let s := (blank 0 true .plain).run
      [.create {}, .command (.setViewport (.whole .builtin 800 600)),
        .command (.setSpots [⟨⟨1⟩, .origin, 1⟩, ⟨⟨2⟩, .origin, 0⟩] .builtin),
        .command (.setSpots [⟨⟨2⟩, .origin, 1⟩] .builtin)]
    ∃ c pointer, s.host.controller = some c ∧ c.spots.live.length = 2 ∧
      c.MirroredBy s.host.world.catalogue s.host.world.surface pointer := by
  intro s
  have hcount : (s.host.controller.map fun c => c.spots.live.length) = some 2 := by
    decide +kernel
  obtain ⟨c, hc, hlength⟩ := Option.map_eq_some_iff.mp hcount
  obtain ⟨-, hmirrored⟩ := surface_mirrors_controller (s := s) ⟨0, true, .plain, _, rfl⟩
  rw [hc] at hmirrored
  obtain ⟨pointer, hmirrored⟩ := hmirrored
  exact ⟨c, pointer, hc, hlength, hmirrored⟩

/-- While there is a display, the pointer's sprite is where the pointer is, and can be
seen exactly when the pointer is not fully transparent. -/
theorem pointer_sprite_coherent {s : Session} (hs : s.Reachable) {c : Controller}
    (hc : s.host.controller = some c) (hvalid : c.viewport.isValid = true) :
    ∃ sprite r, c.sprite = some sprite ∧ s.host.world.surface.record? sprite = some r ∧
      r.layer = Layer.pointer ∧ r.position = c.pointer.position ∧
      r.display = c.viewport.display ∧
      ((0 : Single).less c.pointer.fade.alpha = true →
        r.visible = true ∧ r.alpha = c.pointer.fade.alpha) ∧
      ((0 : Single).less c.pointer.fade.alpha = false → r.visible = false) := by
  obtain ⟨pointer, hstaged⟩ := staged_law.live_meets hs hc
  obtain ⟨r, hr, hshows⟩ := (hstaged.upToDate hvalid).placed
  refine ⟨pointer, r, hstaged.kept.sprite, hr, hshows.layer, hshows.position, hshows.display,
    fun hpositive => ?_, fun hnone => ?_⟩
  · exact ⟨hshows.visible.trans hpositive, hshows.alpha hpositive⟩
  · exact hshows.visible.trans hnone

/-- A pointer that was shown before there was a display is seen once there is one. -/
theorem pointer_sprite_shown_late :
    let s := (blank 0 true .plain).run
      [.create {}, .command (.reveal .immediate), .command (.setViewport (.whole .builtin 800 600))]
    ∃ c sprite r, s.host.controller = some c ∧ c.sprite = some sprite ∧
      s.host.world.surface.record? sprite = some r ∧ r.layer = Layer.pointer ∧
      r.position = c.pointer.position ∧ r.visible = true := by
  intro s
  have hstate : (s.host.controller.map fun c =>
      (c.viewport.isValid, (0 : Single).less c.pointer.fade.alpha)) = some (true, true) := by
    decide +kernel
  obtain ⟨c, hc, heq⟩ := Option.map_eq_some_iff.mp hstate
  obtain ⟨hvalid, hpositive⟩ := Prod.mk.inj heq
  obtain ⟨sprite, r, hsprite, hr, hlayer, hposition, -, hseen, -⟩ :=
    pointer_sprite_coherent (s := s) ⟨0, true, .plain, _, rfl⟩ hc hvalid
  exact ⟨c, sprite, r, hc, hsprite, hr, hlayer, hposition, (hseen hpositive).1⟩

end Session

end ScreenPointer
