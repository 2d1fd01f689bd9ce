/-
# In whose hands sprites are

What a display does with its spots concerns the sprites of these spots and the spare ones
only.  `Guards` says that the sprites on a surface are the spare ones and those of a list
of owners; `Leaves` says what an operation on the sprites of some owners leaves of them, and
that it spares all the others.  Owners may be set aside and come back, so the lemma about
one display serves every table of displays.
-/

import ScreenPointer.Proofs.Spots.Pool

namespace ScreenPointer

namespace SpriteStock

/-- The sprites on the surface are the spare ones and those of the owners, and no more are
spare than are to be kept. -/
structure Guards (stock : SpriteStock) (owners : List SpriteId) : Prop where
  owned : stock.surface.Owned (stock.spare ++ owners)
  shelf : stock.spare.length ≤ stock.capacity

/-- The sprites of the owners are as they were. -/
structure Spares (owners : List SpriteId) (before after : SpriteStock) : Prop where
  records : ∀ id ∈ owners, after.surface.record? id = before.surface.record? id
  capacity : after.capacity = before.capacity

/-- What an operation makes of some sprites, next to those of the owners. -/
structure Leaves (owners : List SpriteId) (before : SpriteStock) (mine : List SpriteId)
    (after : SpriteStock) : Prop extends Spares owners before after where
  guards : after.Guards (mine ++ owners)

variable {stock before between after : SpriteStock} {owners owners' mine : List SpriteId}
  {sprite : SpriteId}

namespace Spares

theorem refl (owners : List SpriteId) (stock : SpriteStock) : Spares owners stock stock :=
  ⟨fun _ _ => rfl, rfl⟩

theorem trans (first : Spares owners before between) (second : Spares owners between after) :
    Spares owners before after :=
  ⟨fun id hid => (second.records id hid).trans (first.records id hid),
    second.capacity.trans first.capacity⟩

/-- Fewer owners may be told of. -/
theorem within {aside : List SpriteId} (h : Spares (aside ++ owners) before after) :
    Spares owners before after :=
  ⟨fun id hid => h.records id (List.mem_append_right _ hid), h.capacity⟩

end Spares

namespace Guards

theorem perm (h : stock.Guards owners) (hperm : owners.Perm owners') : stock.Guards owners' :=
  ⟨h.owned.perm (hperm.append_left _), h.shelf⟩

/-- One owner in front. -/
theorem head (h : stock.Guards (sprite :: owners)) :
    stock.surface.Owned (sprite :: (stock.spare ++ owners)) :=
  h.owned.perm List.perm_middle

theorem exists_record (h : stock.Guards owners) {id : SpriteId} (hid : id ∈ owners) :
    ∃ r, stock.surface.record? id = some r :=
  h.owned.exists_record (List.mem_append_right _ hid)

/-- Changing one sprite spares the others. -/
theorem write (h : stock.Guards (sprite :: owners)) {surface : Surface}
    (hconf : Surface.Confined sprite stock.surface surface) :
    Leaves owners stock [sprite] { stock with surface } where
  records id hid := hconf.others id (h.head.ne_head (List.mem_append_right _ hid))
  capacity := rfl
  guards := ⟨h.owned.confined hconf, h.shelf⟩

/-- The stock takes a sprite over or releases it. -/
theorem giveBack (h : stock.Guards (sprite :: owners)) :
    Leaves owners stock [] (stock.giveBack sprite) := by
  have hcleared : Surface.Confined sprite stock.surface (stock.surface.clearIcon sprite) :=
    (Surface.Confined.refl _ _).change _
  have howned := h.head.confined hcleared
  have hapart : ∀ id ∈ owners, id ≠ sprite := fun id hid =>
    h.head.ne_head (List.mem_append_right _ hid)
  unfold SpriteStock.giveBack
  dsimp only
  split
  · rename_i hroom
    exact ⟨⟨fun id hid => hcleared.others id (hapart id hid), rfl⟩, howned, hroom⟩
  · refine ⟨⟨fun id hid => ?_, rfl⟩, howned.release, h.shelf⟩
    exact (Surface.record?_release_of_ne _ (hapart id hid)).trans
      (hcleared.others id (hapart id hid))

/-- A sprite that is handed out has a new owner. -/
theorem take (h : stock.Guards owners) : Leaves owners stock [stock.take.1] stock.take.2 := by
  obtain ⟨surface, spare, capacity⟩ := stock
  cases spare with
  | nil =>
      refine ⟨⟨fun id hid => ?_, rfl⟩, h.owned.create, Nat.zero_le _⟩
      exact Surface.record?_create_of_ne _ fun heq => h.owned.next_not_mem (heq ▸ hid)
  | cons id rest =>
      exact ⟨⟨fun _ _ => rfl, rfl⟩, h.owned.perm List.perm_middle.symm, Nat.le_of_succ_le h.shelf⟩

end Guards

namespace Leaves

theorem refl (h : stock.Guards (mine ++ owners)) : Leaves owners stock mine stock :=
  ⟨.refl _ _, h⟩

/-- What was left may be worked on. -/
theorem trans {mine' : List SpriteId} (first : Leaves owners before mine between)
    (second : Leaves owners between mine' after) : Leaves owners before mine' after :=
  ⟨first.toSpares.trans second.toSpares, second.guards⟩

/-- Sprites that were set aside come back. -/
theorem back {aside : List SpriteId} (h : Leaves (aside ++ owners) before mine after) :
    Leaves owners before (aside ++ mine) after where
  toSpares := h.toSpares.within
  guards := by
    rw [List.append_assoc]
    exact h.guards.perm (List.perm_append_comm_assoc _ _ _)

end Leaves

end SpriteStock

def spritesOf (spots : List Spot) : List SpriteId := spots.map (·.sprite)

/-! ## One display -/

namespace SpotPool

open SpriteStock (Spares Leaves)

variable {stock : SpriteStock} {owners : List SpriteId} {scale : Single} {icons : SpotIcons}
  {display : DisplayId} {contact : Contact}

/-- The first spot is set aside. -/
theorem guards_aside {s : Spot} {rest : List Spot}
    (h : stock.Guards (spritesOf (s :: rest) ++ owners)) :
    stock.Guards (spritesOf rest ++ ([s.sprite] ++ owners)) :=
  h.perm List.perm_middle.symm

theorem moveSpot_leaves (scale : Single) (icons : SpotIcons) (display : DisplayId)
    (contact : Contact) {s : Spot} (h : stock.Guards (s.sprite :: owners)) :
    Leaves owners stock [s.sprite]
      { stock with surface := (moveSpot scale icons display contact s stock.surface).2 } :=
  h.write (moveSpot_confined contact s stock.surface)

theorem moveFollower_leaves {spots spots' : List Spot} {surface' : Surface}
    (h : stock.Guards (spritesOf spots ++ owners))
    (hmove : moveFollower scale icons display contact spots stock.surface =
      some (spots', surface')) :
    Leaves owners stock (spritesOf spots') { stock with surface := surface' } := by
  induction spots generalizing spots' owners with
  | nil => cases hmove
  | cons s rest ih =>
      unfold moveFollower at hmove
      split at hmove
      · simp only [Option.some.injEq, Prod.mk.injEq] at hmove
        obtain ⟨rfl, rfl⟩ := hmove
        have hmoved := moveSpot_leaves scale icons display contact h
        have hsprites :
            spritesOf ((moveSpot scale icons display contact s stock.surface).1 :: rest) =
              spritesOf (s :: rest) :=
          congrArg (· :: spritesOf rest) (moveSpot_sprite contact s stock.surface)
        rw [hsprites]
        exact ⟨hmoved.toSpares.within, hmoved.guards⟩
      · obtain ⟨⟨others, surface⟩, hrest, heq⟩ := Option.map_eq_some_iff.mp hmove
        cases heq
        exact (ih (guards_aside h) hrest).back

theorem makeRoom_leaves (capacity : Nat) (rounds : Nat) {spots : List Spot} {stock : SpriteStock}
    (h : stock.Guards (spritesOf spots ++ owners)) :
    Leaves owners stock (spritesOf (makeRoom capacity rounds spots stock).1)
      (makeRoom capacity rounds spots stock).2 := by
  induction rounds generalizing spots stock with
  | zero => exact .refl h
  | succ rounds ih =>
      unfold makeRoom
      split
      · exact .refl h
      · split
        · exact .refl h
        · rename_i victim others hvictim
          have hperm := ((takeVictim_perm hvictim).map (·.sprite)).append_right owners
          have hgiven := (h.perm hperm).giveBack
          have hrest := ih hgiven.guards
          exact ⟨hgiven.toSpares.within.trans hrest.toSpares, hrest.guards⟩

theorem showContact_leaves (pool : SpotPool) (icons : SpotIcons) (display : DisplayId)
    (contact : Contact) {spots : List Spot} {stock : SpriteStock}
    (h : stock.Guards (spritesOf spots ++ owners)) :
    Leaves owners stock (spritesOf (pool.showContact icons display contact spots stock).1)
      (pool.showContact icons display contact spots stock).2 := by
  unfold showContact
  split
  · rename_i spots' surface' hmove
    exact moveFollower_leaves h hmove
  · have hroom := makeRoom_leaves pool.maxSpots spots.length h
    generalize makeRoom pool.maxSpots spots.length spots stock = made at hroom
    obtain ⟨kept, stock'⟩ := made
    have htaken := hroom.guards.take
    have hmoved := moveSpot_leaves (s := .new contact.id stock'.take.1) pool.scale icons display
      contact htaken.guards
    have hnew : spritesOf (kept ++ [(moveSpot pool.scale icons display contact
        (.new contact.id stock'.take.1) stock'.take.2.surface).1]) =
          spritesOf kept ++ [stock'.take.1] := by
      rw [spritesOf, List.map_append, List.map_singleton, moveSpot_sprite]
      rfl
    dsimp only
    rw [hnew]
    have hspared := htaken.toSpares.trans hmoved.toSpares
    have hperm : (stock'.take.1 :: (spritesOf kept ++ owners)).Perm
        (spritesOf kept ++ [stock'.take.1] ++ owners) :=
      (List.perm_append_singleton _ _).symm.append_right owners
    exact ⟨hroom.toSpares.trans hspared.within, hmoved.guards.perm hperm⟩

theorem showContacts_leaves (pool : SpotPool) (icons : SpotIcons) (display : DisplayId)
    (contacts : List Contact) {spots : List Spot} {stock : SpriteStock}
    (h : stock.Guards (spritesOf spots ++ owners)) :
    Leaves owners stock (spritesOf (pool.showContacts icons display contacts spots stock).1)
      (pool.showContacts icons display contacts spots stock).2 := by
  induction contacts generalizing spots stock with
  | nil => exact .refl h
  | cons contact rest ih =>
      have hshown := showContact_leaves pool icons display contact h
      exact hshown.trans (ih hshown.guards)

theorem dimSpots_leaves (delta : Single) {spots : List Spot} {stock : SpriteStock}
    (h : stock.Guards (spritesOf spots ++ owners)) :
    Leaves owners stock (spritesOf (dimSpots delta spots stock).1)
      (dimSpots delta spots stock).2 := by
  induction spots generalizing stock owners with
  | nil => exact .refl h
  | cons s rest ih =>
      unfold dimSpots
      dsimp only
      split
      · split
        · have hgiven := SpriteStock.Guards.giveBack h
          have hrest := ih hgiven.guards
          exact ⟨hgiven.toSpares.within.trans hrest.toSpares, hrest.guards⟩
        · have hdimmed := SpriteStock.Guards.write h ((Surface.Confined.refl s.sprite
            stock.surface).change fun r => { r with alpha := s.alpha - delta })
          have hrest := (ih (guards_aside hdimmed.guards)).back
          exact ⟨hdimmed.toSpares.within.trans hrest.toSpares, hrest.guards⟩
      · exact (ih (guards_aside h)).back

/-! ## All displays -/

def spritesIn (table : Keyed DisplayId (List Spot)) : List SpriteId :=
  (liveIn table).map (·.2.sprite)

theorem sprites_onDisplay (display : DisplayId) (spots : List Spot) :
    (onDisplay display spots).map (·.2.sprite) = spritesOf spots :=
  List.map_map

theorem spritesIn_cons (display : DisplayId) (spots : List Spot)
    (rest : Keyed DisplayId (List Spot)) :
    spritesIn ((display, spots) :: rest) = spritesOf spots ++ spritesIn rest := by
  rw [spritesIn, liveIn, List.flatMap_cons, List.map_append, sprites_onDisplay]
  rfl

theorem mem_spritesIn {table : Keyed DisplayId (List Spot)} {spots : List Spot}
    (hlisted : (display, spots) ∈ table) {s : Spot} (hs : s ∈ spots) :
    s.sprite ∈ spritesIn table :=
  List.mem_map.mpr ⟨(display, s), List.mem_flatMap.mpr ⟨(display, spots), hlisted,
    List.mem_map.mpr ⟨s, hs, rfl⟩⟩, rfl⟩

theorem dimDisplays_leaves (delta : Single) {table : Keyed DisplayId (List Spot)}
    {stock : SpriteStock} (h : stock.Guards (spritesIn table ++ owners)) :
    Leaves owners stock (spritesIn (dimDisplays delta table stock).1)
      (dimDisplays delta table stock).2 := by
  induction table generalizing stock owners with
  | nil => exact .refl h
  | cons e rest ih =>
      obtain ⟨display, spots⟩ := e
      rw [spritesIn_cons, List.append_assoc] at h
      have hdimmed := dimSpots_leaves delta h
      have hrest := (ih (hdimmed.guards.perm (List.perm_append_comm_assoc _ _ _))).back
      have hspared := hdimmed.toSpares.within.trans hrest.toSpares
      unfold dimDisplays
      dsimp only
      split
      · rename_i hempty
        rw [List.isEmpty_iff.mp hempty] at hrest
        exact ⟨hspared, hrest.guards⟩
      · rw [spritesIn_cons]
        exact ⟨hspared, hrest.guards⟩

/-- The sprites on the surface are those of the pool and those of other owners.  Nothing is said
about who the others are, so two pools may share a surface. -/
structure Housed (owners : List SpriteId) (pool : SpotPool) (surface : Surface) : Prop where
  unique : Keyed.Unique pool.byDisplay
  guards : (pool.stock surface).Guards (spritesIn pool.byDisplay ++ owners)

namespace Housed

variable {pool : SpotPool} {surface : Surface}

theorem new {surface : Surface} (h : surface.Owned owners) (maxSpots maxRecycled : Nat)
    (scale : Single) : Housed owners (.new maxSpots maxRecycled scale) surface :=
  ⟨List.nodup_nil, h, Nat.zero_le _⟩

/-- The order of the displays does not matter. -/
theorem reorder (h : Housed owners pool surface) {table : Keyed DisplayId (List Spot)}
    (hperm : table.Perm pool.byDisplay) :
    Housed owners { pool with byDisplay := table } surface :=
  ⟨(Keyed.unique_of_perm hperm).mpr h.unique,
    h.guards.perm (((liveIn_perm hperm.symm).map _).append_right _)⟩

theorem spritesIn_setSpots_perm (h : Housed owners pool surface) (display : DisplayId)
    (spots : List Spot) :
    (spritesIn (pool.setSpots display spots).byDisplay).Perm
      (spritesOf spots ++ spritesIn (Keyed.erase display pool.byDisplay)) := by
  unfold spritesIn
  rw [← sprites_onDisplay display, ← List.map_append]
  exact (live_setSpots_perm h.unique display spots).map _

/-- Of all displays, one is to be worked on. -/
theorem guards_display (h : Housed owners pool surface) (display : DisplayId) :
    (pool.stock surface).Guards (spritesOf (pool.spots display) ++
      (spritesIn (Keyed.erase display pool.byDisplay) ++ owners)) := by
  unfold spritesIn
  rw [← List.append_assoc, ← sprites_onDisplay display, ← List.map_append]
  exact h.guards.perm (((live_perm h.unique display).map _).append_right _)

theorem spritesOf_map {f : Spot → Spot} (hf : ∀ s, (f s).sprite = s.sprite) (spots : List Spot) :
    spritesOf (spots.map f) = spritesOf spots := by
  simp [spritesOf, Function.comp_def, hf]

/-- Showing the contacts of a display spares the sprites of all others. -/
theorem update (h : Housed owners pool surface) (contacts : List Contact) (display : DisplayId)
    (icons : SpotIcons) :
    Housed owners (pool.update contacts display icons surface).2.1
        (pool.update contacts display icons surface).2.2 ∧
      Spares (spritesIn (Keyed.erase display pool.byDisplay)) (pool.stock surface)
        ((pool.update contacts display icons surface).2.1.stock
          (pool.update contacts display icons surface).2.2) := by
  have hshown := showContacts_leaves pool icons display contacts (h.guards_display display)
  unfold SpotPool.update
  dsimp only
  generalize pool.showContacts icons display contacts (pool.spots display) (pool.stock surface) =
    made at hshown ⊢
  obtain ⟨shown, stock⟩ := made
  obtain ⟨⟨hrecords, hcapacity⟩, hguards⟩ := hshown
  have hcapacity : stock.capacity = pool.maxRecycled := hcapacity
  have hsprites := h.spritesIn_setSpots_perm display (shown.map (fadeIfLifted contacts))
  rw [spritesOf_map (fadeIfLifted_sprite contacts)] at hsprites
  rw [← List.append_assoc] at hguards
  have hafter := hguards.perm (hsprites.symm.append_right owners)
  have hshelf := hafter.shelf
  rw [hcapacity] at hshelf
  exact ⟨⟨unique_setSpots h.unique _ _, hafter.owned, hshelf⟩,
    fun id hid => hrecords id (List.mem_append_left _ hid), rfl⟩

theorem fadeAll (h : Housed owners pool surface) : Housed owners pool.fadeAll.2 surface := by
  have hsprites : spritesIn pool.fadeAll.2.byDisplay = spritesIn pool.byDisplay := by
    rw [spritesIn, SpotPool.fadeAll, liveIn_map, List.map_map]
    rfl
  refine ⟨?_, ?_⟩
  · have hkeys : pool.fadeAll.2.byDisplay.map Prod.fst = pool.byDisplay.map Prod.fst := by
      simp [SpotPool.fadeAll, Function.comp_def]
    unfold Keyed.Unique
    rw [hkeys]
    exact h.unique
  · rw [hsprites]
    exact h.guards

theorem advanceFades (h : Housed owners pool surface) (delta : Single) :
    Housed owners (pool.advanceFades delta surface).2.1 (pool.advanceFades delta surface).2.2 := by
  have hdimmed := dimDisplays_leaves delta h.guards
  have hshelf := hdimmed.guards.shelf
  rw [hdimmed.capacity] at hshelf
  exact ⟨(dimDisplays_keys delta pool.byDisplay _).nodup h.unique, hdimmed.guards.owned, hshelf⟩

end Housed

end SpotPool

end ScreenPointer
