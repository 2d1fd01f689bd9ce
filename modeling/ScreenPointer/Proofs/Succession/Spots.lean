/-
# Spots on a surface that was used before

Everything that is done with spots can as well be done on a surface that earlier
controllers have used: the same spots come of it, drawn by sprites with later names.
-/

import ScreenPointer.Proofs.Keyed
import ScreenPointer.Proofs.Succession.Legacy

namespace ScreenPointer

open Surface (Tidy tidy_drawing)

variable (old : Surface)

namespace SpriteStock

def upon (stock : SpriteStock) (old : Surface) : SpriteStock :=
  ⟨stock.surface.upon old, stock.spare.map (.shift old.created), stock.capacity⟩

@[simp]
theorem surface_upon (stock : SpriteStock) :
    (stock.upon old).surface = stock.surface.upon old := rfl

variable {stock : SpriteStock}

theorem giveBack_upon (h : stock.surface.Tidy) (sprite : SpriteId) :
    (stock.upon old).giveBack (sprite.shift old.created) = (stock.giveBack sprite).upon old := by
  have hcleared : (stock.surface.clearIcon sprite).Tidy := tidy_drawing.change _ _ _ h
  have hchange : (stock.surface.upon old).clearIcon (sprite.shift old.created) =
      (stock.surface.clearIcon sprite).upon old := Surface.change_upon ..
  simp only [giveBack, upon, hchange, Surface.release_upon old hcleared, List.length_map]
  split <;> rfl

theorem take_upon (stock : SpriteStock) :
    (stock.upon old).take = (stock.take.1.shift old.created, stock.take.2.upon old) := by
  obtain ⟨surface, spare, capacity⟩ := stock
  cases spare with
  | nil => simp [take, upon]
  | cons sprite rest => rfl

end SpriteStock

namespace SpotPool

@[simp]
theorem stock_shift (pool : SpotPool) (surface : Surface) :
    (pool.shift old.created).stock (surface.upon old) = (pool.stock surface).upon old := rfl

/-! ## Showing contacts -/

theorem moveSpot_upon (scale : Single) (icons : SpotIcons) (display : DisplayId)
    (contact : Contact) (spot : Spot) (surface : Surface) :
    moveSpot scale icons display contact (spot.shift old.created) (surface.upon old) =
      ((moveSpot scale icons display contact spot surface).1.shift old.created,
        (moveSpot scale icons display contact spot surface).2.upon old) := by
  simp only [moveSpot, Spot.shift, Surface.setLayer, Surface.setAlpha, Surface.setTransform,
    Surface.setPosition, Surface.setDisplay, Surface.setIcon, Surface.setVisible,
    Surface.change_upon]
  split <;> rfl

theorem moveFollower_upon (scale : Single) (icons : SpotIcons) (display : DisplayId)
    (contact : Contact) (surface : Surface) (spots : List Spot) :
    moveFollower scale icons display contact (spots.map (.shift old.created)) (surface.upon old) =
      (moveFollower scale icons display contact spots surface).map fun (spots, surface) =>
        (spots.map (.shift old.created), surface.upon old) := by
  induction spots with
  | nil => rfl
  | cons s rest ih =>
      have hfollows : (s.shift old.created).follows contact.id = s.follows contact.id := rfl
      simp only [List.map_cons, moveFollower, hfollows, ih, moveSpot_upon]
      split
      · rfl
      · cases moveFollower scale icons display contact rest surface <;> rfl

theorem takeFading_shift (n : Nat) (spots : List Spot) :
    takeFading (spots.map (.shift n)) =
      (takeFading spots).map fun (victim, others) =>
        (victim.shift n, others.map (.shift n)) := by
  induction spots with
  | nil => rfl
  | cons s rest ih =>
      have hfading : (s.shift n).isFading = s.isFading := rfl
      simp only [List.map_cons, takeFading, hfading, ih]
      split
      · rfl
      · cases takeFading rest <;> rfl

theorem takeVictim_shift (n : Nat) (spots : List Spot) :
    takeVictim (spots.map (.shift n)) =
      (takeVictim spots).map fun (victim, others) =>
        (victim.shift n, others.map (.shift n)) := by
  simp only [takeVictim, takeFading_shift]
  cases takeFading spots with
  | none => cases spots <;> rfl
  | some found => rfl

theorem makeRoom_upon (capacity rounds : Nat) :
    ∀ (spots : List Spot) {stock : SpriteStock}, stock.surface.Tidy →
      makeRoom capacity rounds (spots.map (.shift old.created)) (stock.upon old) =
        ((makeRoom capacity rounds spots stock).1.map (.shift old.created),
          (makeRoom capacity rounds spots stock).2.upon old) := by
  induction rounds with
  | zero => exact fun _ _ _ => rfl
  | succ rounds ih =>
      intro spots stock h
      simp only [makeRoom, takeVictim_shift, List.length_map]
      split
      · rfl
      · cases takeVictim spots with
        | none => rfl
        | some found =>
            have hback := SpriteStock.giveBack_upon old h found.1.sprite
            have hrest := ih found.2 (tidy_drawing.giveBack h found.1.sprite)
            rw [← hback] at hrest
            exact hrest

theorem showContact_upon (pool : SpotPool) (icons : SpotIcons) (display : DisplayId)
    (contact : Contact) (spots : List Spot) {stock : SpriteStock} (h : stock.surface.Tidy) :
    (pool.shift old.created).showContact icons display contact (spots.map (.shift old.created))
        (stock.upon old) =
      ((pool.showContact icons display contact spots stock).1.map (.shift old.created),
        (pool.showContact icons display contact spots stock).2.upon old) := by
  have hfollower := moveFollower_upon old pool.scale icons display contact stock.surface
    spots
  have hnew (sprite : SpriteId) : Spot.new contact.id (sprite.shift old.created) =
      (Spot.new contact.id sprite).shift old.created := rfl
  have hroom := makeRoom_upon old pool.maxSpots spots.length spots h
  unfold showContact
  simp only [shift, List.length_map, SpriteStock.surface_upon, hfollower]
  cases moveFollower pool.scale icons display contact spots stock.surface with
  | some moved => rfl
  | none =>
      simp only [Option.map_none, hroom, SpriteStock.take_upon, hnew, SpriteStock.surface_upon,
        moveSpot_upon]
      simp [SpriteStock.upon]

theorem showContacts_upon (pool : SpotPool) (icons : SpotIcons) (display : DisplayId)
    (contacts : List Contact) : ∀ (spots : List Spot) {stock : SpriteStock}, stock.surface.Tidy →
      (pool.shift old.created).showContacts icons display contacts
          (spots.map (.shift old.created)) (stock.upon old) =
        ((pool.showContacts icons display contacts spots stock).1.map (.shift old.created),
          (pool.showContacts icons display contacts spots stock).2.upon old) := by
  induction contacts with
  | nil => exact fun _ _ _ => rfl
  | cons contact rest ih =>
      intro spots stock h
      simp only [showContacts, showContact_upon old pool icons display contact spots h]
      exact ih _ (tidy_drawing.showContact pool icons display contact spots h)

/-! ## Pools -/

theorem byDisplay_shift (n : Nat) (pool : SpotPool) :
    (pool.shift n).byDisplay = pool.byDisplay.map fun e => (e.1, e.2.map (.shift n)) := rfl

theorem spots_shift (n : Nat) (pool : SpotPool) (display : DisplayId) :
    (pool.shift n).spots display = (pool.spots display).map (.shift n) := by
  simp only [SpotPool.spots, byDisplay_shift, Keyed.find?_mapValues]
  cases Keyed.find? display pool.byDisplay <;> rfl

theorem setSpots_shift (n : Nat) (pool : SpotPool) (display : DisplayId) (spots : List Spot) :
    (pool.shift n).setSpots display (spots.map (.shift n)) =
      (pool.setSpots display spots).shift n := by
  simp only [setSpots, shift, Keyed.insert_mapValues, Keyed.erase_mapValues, List.isEmpty_map]
  split <;> rfl

theorem fadeIfLifted_shift (n : Nat) (contacts : List Contact) (s : Spot) :
    fadeIfLifted contacts (s.shift n) = (fadeIfLifted contacts s).shift n := by
  have hlifted : isLifted contacts (s.shift n) = isLifted contacts s := rfl
  simp only [fadeIfLifted, hlifted]
  split <;> rfl

theorem update_upon (pool : SpotPool) (contacts : List Contact) (display : DisplayId)
    (icons : SpotIcons) {surface : Surface} (h : surface.Tidy) :
    (pool.shift old.created).update contacts display icons (surface.upon old) =
      ((pool.update contacts display icons surface).1,
        (pool.update contacts display icons surface).2.1.shift old.created,
        (pool.update contacts display icons surface).2.2.upon old) := by
  have htidy : (pool.stock surface).surface.Tidy := h
  have hshown := showContacts_upon old pool icons display contacts (pool.spots display) htidy
  have hlifted : ∀ spots : List Spot, (spots.map (Spot.shift old.created)).any
      (isLifted contacts) = spots.any (isLifted contacts) := by
    intro spots
    rw [List.any_map]
    rfl
  have hfaded : ∀ spots : List Spot, (spots.map (Spot.shift old.created)).map
      (fadeIfLifted contacts) = (spots.map (fadeIfLifted contacts)).map (.shift old.created) := by
    simp [fadeIfLifted_shift]
  simp only [update, spots_shift, stock_shift, hshown, hlifted, hfaded, setSpots_shift]
  rfl

theorem fadeAll_shift (n : Nat) (pool : SpotPool) :
    (pool.shift n).fadeAll = (pool.fadeAll.1, pool.fadeAll.2.shift n) := by
  simp [fadeAll, shift, Function.comp_def, Spot.shift, Spot.isFading]
  rfl

/-! ## Fading -/

theorem dimSpots_upon (delta : Single) (spots : List Spot) :
    ∀ {stock : SpriteStock}, stock.surface.Tidy →
      dimSpots delta (spots.map (.shift old.created)) (stock.upon old) =
        ((dimSpots delta spots stock).1.map (.shift old.created),
          (dimSpots delta spots stock).2.upon old) := by
  induction spots with
  | nil => exact fun _ => rfl
  | cons s rest ih =>
      intro stock h
      have hfading : (s.shift old.created).isFading = s.isFading := rfl
      have halpha : (s.shift old.created).alpha = s.alpha := rfl
      simp only [List.map_cons, dimSpots, hfading, halpha]
      split
      · split
        · have hback := SpriteStock.giveBack_upon old h s.sprite
          have hrest := ih (tidy_drawing.giveBack h s.sprite)
          rw [← hback] at hrest
          exact hrest
        · have hdimmed : (stock.upon old).onSurface
              (·.setAlpha (s.shift old.created).sprite (s.alpha - delta)) =
              (stock.onSurface (·.setAlpha s.sprite (s.alpha - delta))).upon old :=
            congrArg (SpriteStock.mk · _ _) (Surface.change_upon ..)
          have hkept : (stock.onSurface (·.setAlpha s.sprite (s.alpha - delta))).surface.Tidy :=
            tidy_drawing.change _ _ (fun r => { r with alpha := s.alpha - delta }) h
          rw [hdimmed, ih hkept]
          rfl
      · rw [ih h]
        rfl

theorem dimDisplays_upon (delta : Single) (table : Keyed DisplayId (List Spot)) :
    ∀ {stock : SpriteStock}, stock.surface.Tidy →
      dimDisplays delta (table.map fun e => (e.1, e.2.map (.shift old.created)))
          (stock.upon old) =
        ((dimDisplays delta table stock).1.map fun e => (e.1, e.2.map (.shift old.created)),
          (dimDisplays delta table stock).2.upon old) := by
  induction table with
  | nil => exact fun _ => rfl
  | cons entry rest ih =>
      intro stock h
      simp only [List.map_cons, dimDisplays, dimSpots_upon old delta entry.2 h, List.isEmpty_map,
        ih (tidy_drawing.dimSpots delta entry.2 h)]
      split <;> rfl

theorem advanceFades_upon (pool : SpotPool) (delta : Single) {surface : Surface}
    (h : surface.Tidy) :
    (pool.shift old.created).advanceFades delta (surface.upon old) =
      ((pool.advanceFades delta surface).1,
        (pool.advanceFades delta surface).2.1.shift old.created,
        (pool.advanceFades delta surface).2.2.upon old) := by
  have htidy : (pool.stock surface).surface.Tidy := h
  have hdimmed := dimDisplays_upon old delta pool.byDisplay htidy
  simp only [advanceFades, stock_shift]
  rw [byDisplay_shift, hdimmed]
  simp only [List.any_map, Function.comp_def]
  rfl

/-! ## Giving up -/

theorem sprites_shift (n : Nat) (pool : SpotPool) :
    (pool.shift n).sprites = pool.sprites.map (.shift n) := by
  simp [sprites, shift, List.flatMap_map, List.map_flatMap, Function.comp_def, Spot.shift,
    List.map_reverse]

theorem releaseAll_upon (pool : SpotPool) {surface : Surface} (h : surface.Tidy) :
    (pool.shift old.created).releaseAll (surface.upon old) =
      ((pool.releaseAll surface).1.shift old.created, (pool.releaseAll surface).2.upon old) := by
  simp only [releaseAll, sprites_shift, Surface.releaseAll_upon old h]
  rfl

end SpotPool

end ScreenPointer
