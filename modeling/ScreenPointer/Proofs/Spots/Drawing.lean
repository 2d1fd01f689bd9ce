/-
# What drawing spots is made of

Showing contacts and fading spots changes, makes and releases sprites and does
nothing else to a surface.  A property of surfaces that these three keep is kept by
both, whatever the spots and the stock of spare sprites are.
-/

import ScreenPointer.Spots

namespace ScreenPointer

namespace Surface

/-- A property of surfaces that changing, making and releasing sprites keep. -/
structure Drawing (P : Surface → Prop) : Prop where
  change : ∀ s id f, P s → P (s.change id f)
  create : ∀ s, P s → P s.create.2
  release : ∀ s id, P s → P (s.release id)

namespace Drawing

variable {P : Surface → Prop}

theorem giveBack (keeps : Drawing P) {stock : SpriteStock} (h : P stock.surface)
    (sprite : SpriteId) : P (stock.giveBack sprite).surface := by
  have hcleared := keeps.change stock.surface sprite (fun r => { r with icon := none }) h
  unfold SpriteStock.giveBack
  dsimp only
  split
  · exact hcleared
  · exact keeps.release _ sprite hcleared

theorem take (keeps : Drawing P) {stock : SpriteStock} (h : P stock.surface) :
    P stock.take.2.surface := by
  unfold SpriteStock.take
  split
  · exact h
  · exact keeps.create _ h

theorem moveSpot (keeps : Drawing P) (scale : Single) (icons : SpotIcons) (display : DisplayId)
    (contact : Contact) (spot : Spot) {surface : Surface} (h : P surface) :
    P (SpotPool.moveSpot scale icons display contact spot surface).2 := by
  have hmoved := keeps.change _ spot.sprite (fun r => { r with display }) <|
    keeps.change _ spot.sprite (fun r => { r with position := contact.position }) <|
    keeps.change _ spot.sprite (fun r => { r with transform := .scale scale }) <|
    keeps.change _ spot.sprite (fun r => { r with alpha := spot.alpha }) <|
    keeps.change _ spot.sprite (fun r => { r with layer := Spot.layer contact.id }) h
  unfold SpotPool.moveSpot
  dsimp only
  split
  · exact hmoved
  · dsimp only
    exact keeps.change _ _ _ (keeps.change _ _ _ hmoved)

theorem moveFollower (keeps : Drawing P) (scale : Single) (icons : SpotIcons)
    (display : DisplayId) (contact : Contact) {surface : Surface} (h : P surface) :
    ∀ {spots : List Spot} {moved : List Spot × Surface},
      SpotPool.moveFollower scale icons display contact spots surface = some moved →
        P moved.2 := by
  intro spots
  induction spots with
  | nil => intro moved hmoved; cases hmoved
  | cons s rest ih =>
      intro moved hmoved
      simp only [SpotPool.moveFollower] at hmoved
      split at hmoved
      · cases hmoved
        exact keeps.moveSpot scale icons display contact s h
      · obtain ⟨others, hothers, heq⟩ := Option.map_eq_some_iff.mp hmoved
        have hrest := ih hothers
        rw [← heq]
        exact hrest

theorem makeRoom (keeps : Drawing P) (capacity rounds : Nat) :
    ∀ (spots : List Spot) {stock : SpriteStock}, P stock.surface →
      P (SpotPool.makeRoom capacity rounds spots stock).2.surface := by
  induction rounds with
  | zero => exact fun _ _ h => h
  | succ rounds ih =>
      intro spots stock h
      unfold SpotPool.makeRoom
      split
      · exact h
      · split
        · exact h
        · exact ih _ (keeps.giveBack h _)

theorem showContact (keeps : Drawing P) (pool : SpotPool) (icons : SpotIcons)
    (display : DisplayId) (contact : Contact) (spots : List Spot) {stock : SpriteStock}
    (h : P stock.surface) : P (pool.showContact icons display contact spots stock).2.surface := by
  unfold SpotPool.showContact
  split
  · rename_i moved surface hmoved
    exact keeps.moveFollower _ _ _ _ h hmoved
  · exact keeps.moveSpot _ _ _ _ _ (keeps.take (keeps.makeRoom _ _ _ h))

theorem showContacts (keeps : Drawing P) (pool : SpotPool) (icons : SpotIcons)
    (display : DisplayId) (contacts : List Contact) :
    ∀ (spots : List Spot) {stock : SpriteStock}, P stock.surface →
      P (pool.showContacts icons display contacts spots stock).2.surface := by
  induction contacts with
  | nil => exact fun _ _ h => h
  | cons contact rest ih =>
      exact fun spots stock h => ih _ (keeps.showContact pool icons display contact spots h)

/-- Showing contacts is drawing. -/
theorem update (keeps : Drawing P) (pool : SpotPool) (contacts : List Contact)
    (display : DisplayId) (icons : SpotIcons) {surface : Surface} (h : P surface) :
    P (pool.update contacts display icons surface).2.2 := by
  have hstock : P (pool.stock surface).surface := h
  exact keeps.showContacts pool icons display contacts _ hstock

theorem dimSpots (keeps : Drawing P) (delta : Single) (spots : List Spot) :
    ∀ {stock : SpriteStock}, P stock.surface →
      P (SpotPool.dimSpots delta spots stock).2.surface := by
  induction spots with
  | nil => exact fun h => h
  | cons s rest ih =>
      intro stock h
      simp only [SpotPool.dimSpots]
      split
      · split
        · exact ih (keeps.giveBack h s.sprite)
        · have hdimmed := keeps.change _ s.sprite (fun r => { r with alpha := s.alpha - delta }) h
          exact ih hdimmed
      · exact ih h

theorem dimDisplays (keeps : Drawing P) (delta : Single)
    (displays : Keyed DisplayId (List Spot)) :
    ∀ {stock : SpriteStock}, P stock.surface →
      P (SpotPool.dimDisplays delta displays stock).2.surface := by
  induction displays with
  | nil => exact fun h => h
  | cons entry rest ih => exact fun h => ih (keeps.dimSpots delta entry.2 h)

/-- Fading spots is drawing. -/
theorem advanceFades (keeps : Drawing P) (pool : SpotPool) (delta : Single) {surface : Surface}
    (h : P surface) : P (pool.advanceFades delta surface).2.2 := by
  have hstock : P (pool.stock surface).surface := h
  exact keeps.dimDisplays delta pool.byDisplay hstock

end Drawing

end Surface

end ScreenPointer
