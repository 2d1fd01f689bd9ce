/-
# When no time passes

A tick that finds no time passed and no frame due only paints over what is there: fades add or
take nothing, and every sprite is told what it already shows.  `Scene.Settled` says when that is
so, and `Live.Repaints` what such a tick does.
-/

import ScreenPointer.Proofs.Icons.Playing
import ScreenPointer.Proofs.Opacity

namespace ScreenPointer

/-! ## Fades -/

namespace Surface

/-- Every sprite has the same record on both. -/
def Alike (s s' : Surface) : Prop := ∀ id, s'.record? id = s.record? id

namespace Alike

variable {s s' s'' : Surface}

theorem refl (s : Surface) : Alike s s := fun _ => rfl

theorem trans (first : Alike s s') (second : Alike s' s'') : Alike s s'' := fun id =>
  (second id).trans (first id)

/-- A change that leaves a record as it is. -/
theorem change (h : Alike s s') {id : SpriteId} {r : SpriteRecord} (hr : s.record? id = some r)
    (f : SpriteRecord → SpriteRecord) (hf : f r = r) : Alike s (s'.change id f) := by
  intro other
  by_cases hother : other = id
  · rw [hother, record?_change_self, h, hr, Option.map_some, hf]
  · rw [record?_change_of_ne s' hother, h]

theorem openTransaction (h : Alike s s') : Alike s s'.openTransaction := h

theorem closeTransaction (h : Alike s s') : Alike s s'.closeTransaction := fun id =>
  (record?_closeTransaction s' id).trans (h id)

end Alike

end Surface

namespace SpotPool

variable {delta : Single} {surface surface' : Surface}

/-- To dim a spot changes neither the spot nor what its sprite shows. -/
structure Stands (delta : Single) (surface : Surface) (s : Spot) : Prop where
  still : s.isFading = true → s.alpha - delta = s.alpha
  left : s.isFading = true → s.alpha.atMost 0 = false
  drawn : ∃ r, surface.record? s.sprite = some r ∧ r.alpha = s.alpha

theorem Stands.alike {s : Spot} (h : Stands delta surface s) (halike : surface.Alike surface') :
    Stands delta surface' s := by
  obtain ⟨r, hr, halpha⟩ := h.drawn
  exact ⟨h.still, h.left, r, (halike _).trans hr, halpha⟩

end SpotPool

/-! ## Ticks that only paint -/

/-- After so much time nothing fades further, and at such a time no frame is due. -/
structure Scene.Settled (elapsed timestamp : Nanos) (v : Scene) : Prop where
  fade : v.controller.pointer.fade.step elapsed v.controller.settings.pointerFade =
    v.controller.pointer.fade
  listed : ∀ e ∈ v.controller.spots.byDisplay, e.2 ≠ []
  spots : v.controller.spots.Each fun s => s.isFading = true →
    s.alpha - elapsedShare elapsed v.controller.settings.spotFade = s.alpha ∧
      s.alpha.atMost 0 = false
  frame : ∀ a, v.iconView.Spins a →
    .since v.controller.pointer.frameTime timestamp ≤ a.frameDuration

namespace Live

open Scene (Placed Staged)

variable {pointer : SpriteId} {l l' l'' : Live} {elapsed timestamp : Nanos}

/-- Only the surface differs, and it shows the same. -/
structure Repaints (l l' : Live) : Prop where
  scene : l'.scene = { l.scene with surface := l'.world.surface }
  alike : l.world.surface.Alike l'.world.surface

namespace Repaints

theorem trans (first : Repaints l l') (second : Repaints l' l'') : Repaints l l'' where
  scene := by rw [second.scene, first.scene]
  alike := first.alike.trans second.alike

theorem openTransaction (h : Repaints l l') : Repaints l (l'.onSurface (·.openTransaction)) :=
  h.trans ⟨rfl, (Surface.Alike.refl _).openTransaction⟩

theorem closeTransaction (h : Repaints l l') : Repaints l (l'.onSurface (·.closeTransaction)) :=
  h.trans ⟨rfl, (Surface.Alike.refl _).closeTransaction⟩

/-- What is painted does not matter here. -/
theorem settled (h : Repaints l l') (hsettled : l.scene.Settled elapsed timestamp) :
    l'.scene.Settled elapsed timestamp := by
  rw [h.scene]
  exact { hsettled with }

end Repaints

end Live

end ScreenPointer
