/-
# One step of fading

A step of fading treats every spot by itself: a spot that does not fade is left alone, one
that does either goes on with less opacity or is finished.  The lists of spots are filtered
accordingly, and what happens to the sprites is a fold over the spots of all displays.  So
it does not matter which neighbours finish together: the sprites of finished spots, in
order, go onto the shelf until it is full, and those that come later are released.
-/

import ScreenPointer.Proofs.Spots.Settling

namespace ScreenPointer

namespace Spot

/-- Is the spot finished by a step of fading? -/
def endsBy (delta : Single) (s : Spot) : Bool := s.isFading && (s.alpha - delta).atMost 0

/-- The spot after a step of fading, if it is not finished. -/
def dimmed? (delta : Single) (s : Spot) : Option Spot :=
  if s.endsBy delta then none
  else if s.isFading then some { s with alpha := s.alpha - delta }
  else some s

variable {delta : Single} {s : Spot}

theorem endsBy_of_fading (h : s.isFading = true) :
    s.endsBy delta = (s.alpha - delta).atMost 0 := by
  rw [endsBy, h, Bool.true_and]

theorem dimmed?_of_ends (h : s.endsBy delta = true) : s.dimmed? delta = none := if_pos h

theorem dimmed?_of_fading (hends : s.endsBy delta = false) (hfading : s.isFading = true) :
    s.dimmed? delta = some { s with alpha := s.alpha - delta } := by
  simp [dimmed?, hends, hfading]

theorem dimmed?_eq_none_iff : s.dimmed? delta = none ↔ s.endsBy delta = true := by
  by_cases hends : s.endsBy delta = true
  · simp [dimmed?, hends]
  · cases hfading : s.isFading <;> simp [dimmed?, hends, hfading]

theorem dimmed?_of_active (h : s.isFading = false) : s.dimmed? delta = some s := by
  simp [dimmed?, endsBy, h]

end Spot

namespace SpriteStock

variable {delta : Single} {stock : SpriteStock} {s : Spot} {spots : List Spot}
  {id sprite : SpriteId}

/-- How many more sprites may be kept. -/
def room (stock : SpriteStock) : Nat := stock.capacity - stock.spare.length

/-! ## Giving back one sprite -/

theorem giveBack_of_room (hroom : 0 < stock.room) (sprite : SpriteId) :
    stock.giveBack sprite =
      { stock with
        surface := stock.surface.clearIcon sprite
        spare := sprite :: stock.spare } :=
  if_pos (Nat.lt_of_sub_pos hroom)

theorem giveBack_of_full (hfull : stock.room = 0) (sprite : SpriteId) :
    stock.giveBack sprite =
      { stock with surface := (stock.surface.clearIcon sprite).release sprite } :=
  if_neg (Nat.not_lt.mpr (Nat.sub_eq_zero_iff_le.mp hfull))

theorem giveBack_room (stock : SpriteStock) (sprite : SpriteId) :
    (stock.giveBack sprite).room = stock.room - 1 := by
  rcases Nat.eq_zero_or_pos stock.room with hfull | hroom
  · rw [giveBack_of_full hfull, hfull]
    exact hfull
  · rw [giveBack_of_room hroom]
    exact Nat.sub_succ _ _

theorem giveBack_record_of_ne (stock : SpriteStock) (hne : id ≠ sprite) :
    (stock.giveBack sprite).surface.record? id = stock.surface.record? id := by
  have hcleared : (stock.surface.clearIcon sprite).record? id = stock.surface.record? id :=
    Surface.record?_change_of_ne _ hne _
  rcases Nat.eq_zero_or_pos stock.room with hfull | hroom
  · rw [giveBack_of_full hfull]
    exact (Surface.record?_release_of_ne _ hne).trans hcleared
  · rw [giveBack_of_room hroom]
    exact hcleared

/-! ## The sprite of one spot -/

/-- What a step of fading does with the sprite of a spot. -/
def dim (delta : Single) (stock : SpriteStock) (s : Spot) : SpriteStock :=
  if s.endsBy delta then stock.giveBack s.sprite
  else if s.isFading then stock.onSurface (·.setAlpha s.sprite (s.alpha - delta))
  else stock

theorem dim_of_ends (hends : s.endsBy delta = true) :
    stock.dim delta s = stock.giveBack s.sprite :=
  if_pos hends

/-- A spot that goes on takes no room. -/
theorem dim_of_lasts (stock : SpriteStock) (hends : s.endsBy delta = false) :
    (stock.dim delta s).spare = stock.spare ∧ (stock.dim delta s).room = stock.room := by
  unfold dim
  rw [hends]
  split
  · contradiction
  · split <;> exact ⟨rfl, rfl⟩

theorem dim_of_fading (hends : s.endsBy delta = false) (hfading : s.isFading = true) :
    stock.dim delta s = stock.onSurface (·.setAlpha s.sprite (s.alpha - delta)) := by
  simp [dim, hends, hfading]

theorem dim_of_active (hactive : s.isFading = false) : stock.dim delta s = stock := by
  simp [dim, Spot.endsBy, hactive]

theorem dim_record_of_ne (stock : SpriteStock) (hne : s.isFading = true → id ≠ s.sprite) :
    (stock.dim delta s).surface.record? id = stock.surface.record? id := by
  cases hfading : s.isFading with
  | false => rw [dim_of_active hfading]
  | true =>
      cases hends : s.endsBy delta with
      | true =>
          rw [dim_of_ends hends]
          exact giveBack_record_of_ne stock (hne hfading)
      | false =>
          rw [dim_of_fading hends hfading]
          exact Surface.record?_change_of_ne _ (hne hfading) _

/-- Every spot that fades has its sprite changed once, and no sprite is made. -/
theorem dim_counts (delta : Single) (stock : SpriteStock) (s : Spot) :
    (stock.dim delta s).surface.created = stock.surface.created ∧
      (stock.dim delta s).surface.mutations =
        stock.surface.mutations + if s.isFading then 1 else 0 := by
  cases hfading : s.isFading with
  | false =>
      rw [dim_of_active hfading]
      exact ⟨rfl, rfl⟩
  | true =>
      cases hends : s.endsBy delta with
      | false =>
          rw [dim_of_fading hends hfading]
          exact ⟨rfl, rfl⟩
      | true =>
          rw [dim_of_ends hends]
          rcases Nat.eq_zero_or_pos stock.room with hfull | hroom
          · rw [giveBack_of_full hfull]
            exact ⟨Surface.created_release _ _, Surface.mutations_release _ _⟩
          · rw [giveBack_of_room hroom]
            exact ⟨rfl, rfl⟩

/-! ## The sprites of many spots -/

def dimAll (delta : Single) (stock : SpriteStock) (spots : List Spot) : SpriteStock :=
  spots.foldl (dim delta) stock

theorem dimAll_record_of_ne (stock : SpriteStock)
    (hne : ∀ s ∈ spots, s.isFading = true → id ≠ s.sprite) :
    (stock.dimAll delta spots).surface.record? id = stock.surface.record? id := by
  induction spots generalizing stock with
  | nil => rfl
  | cons s rest ih =>
      obtain ⟨hfirst, hrest⟩ := List.forall_mem_cons.mp hne
      exact (ih (stock.dim delta s) hrest).trans (dim_record_of_ne stock hfirst)

theorem dimAll_record_of_not_mem (delta : Single) (stock : SpriteStock)
    (hid : id ∉ spritesOf spots) :
    (stock.dimAll delta spots).surface.record? id = stock.surface.record? id :=
  dimAll_record_of_ne stock fun s hs _ heq => hid (List.mem_map.mpr ⟨s, hs, heq.symm⟩)

theorem dimAll_counts (delta : Single) (stock : SpriteStock) (spots : List Spot) :
    (stock.dimAll delta spots).surface.created = stock.surface.created ∧
      (stock.dimAll delta spots).surface.mutations =
        stock.surface.mutations + spots.countP Spot.isFading := by
  induction spots generalizing stock with
  | nil => exact ⟨rfl, rfl⟩
  | cons s rest ih =>
      obtain ⟨hcreated, hmutations⟩ := dim_counts delta stock s
      obtain ⟨ihcreated, ihmutations⟩ := ih (stock.dim delta s)
      refine ⟨ihcreated.trans hcreated, ihmutations.trans ?_⟩
      rw [hmutations, List.countP_cons]
      omega

/-- A sprite that keeps on drawing its spot is told the new opacity. -/
theorem dimAll_lasting (stock : SpriteStock) (hnodup : (spritesOf spots).Nodup) (hs : s ∈ spots)
    (hends : s.endsBy delta = false) (hfading : s.isFading = true) :
    (stock.dimAll delta spots).surface.record? s.sprite =
      (stock.surface.record? s.sprite).map fun r => { r with alpha := s.alpha - delta } := by
  obtain ⟨before, after, rfl⟩ := List.append_of_mem hs
  rw [spritesOf, List.map_append, List.map_cons] at hnodup
  have hbefore : s.sprite ∉ spritesOf before := fun hmem =>
    (List.nodup_append.mp hnodup).2.2 _ hmem _ List.mem_cons_self rfl
  have hafter : s.sprite ∉ spritesOf after :=
    (List.nodup_cons.mp (List.nodup_append.mp hnodup).2.1).1
  unfold dimAll
  rw [List.foldl_append, List.foldl_cons]
  change (dimAll delta ((dimAll delta stock before).dim delta s) after).surface.record? _ = _
  rw [dimAll_record_of_not_mem delta _ hafter, dim_of_fading hends hfading]
  have hsame := dimAll_record_of_not_mem delta stock hbefore
  unfold onSurface Surface.setAlpha
  rw [Surface.record?_change_self, hsame]

end SpriteStock

/-- The sprites of the spots that a step of fading finishes. -/
def finishedBy (delta : Single) (spots : List Spot) : List SpriteId :=
  spritesOf (spots.filter (Spot.endsBy delta))

section Finished

variable {delta : Single} {s : Spot} {spots rest : List Spot} {id : SpriteId}

theorem finishedBy_cons_of_ends (hends : s.endsBy delta = true) (rest : List Spot) :
    finishedBy delta (s :: rest) = s.sprite :: finishedBy delta rest := by
  unfold finishedBy
  rw [List.filter_cons_of_pos hends]
  rfl

theorem finishedBy_cons_of_lasts (hends : s.endsBy delta = false) (rest : List Spot) :
    finishedBy delta (s :: rest) = finishedBy delta rest := by
  unfold finishedBy
  rw [List.filter_cons_of_neg (by rw [hends]; exact Bool.false_ne_true)]

theorem finishedBy_sublist (delta : Single) (spots : List Spot) :
    (finishedBy delta spots).Sublist (spritesOf spots) :=
  List.filter_sublist.map _

end Finished

namespace SpriteStock

variable {delta : Single} {stock : SpriteStock} {s : Spot} {spots : List Spot}
  {id sprite : SpriteId}

/-- The shelf takes the sprites of finished spots, in order, while there is room. -/
theorem dimAll_spare (delta : Single) (stock : SpriteStock) (spots : List Spot) :
    (stock.dimAll delta spots).spare =
      ((finishedBy delta spots).take stock.room).reverse ++ stock.spare := by
  induction spots generalizing stock with
  | nil => simp [dimAll, finishedBy, spritesOf]
  | cons s rest ih =>
      have hrest := ih (stock.dim delta s)
      change (dimAll delta (stock.dim delta s) rest).spare = _
      cases hends : s.endsBy delta with
      | false =>
          obtain ⟨hspare, hroom⟩ := dim_of_lasts stock hends
          rw [hrest, hspare, hroom, finishedBy_cons_of_lasts hends]
      | true =>
          rw [hrest, dim_of_ends hends, giveBack_room, finishedBy_cons_of_ends hends]
          rcases Nat.eq_zero_or_pos stock.room with hfull | hroom
          · rw [giveBack_of_full hfull, hfull]
            rfl
          · obtain ⟨n, hn⟩ := Nat.exists_eq_add_one_of_ne_zero (Nat.ne_of_gt hroom)
            rw [giveBack_of_room hroom, hn, Nat.add_sub_cancel, List.take_succ_cons,
              List.reverse_cons, List.append_assoc]
            rfl

/-- The sprites of finished spots lose their icon, and those that find no room are
released. -/
theorem dimAll_finished (delta : Single) (stock : SpriteStock) (hnodup : (spritesOf spots).Nodup) :
    (∀ id ∈ (finishedBy delta spots).take stock.room,
        (stock.dimAll delta spots).surface.record? id =
          (stock.surface.record? id).map fun r => { r with icon := none }) ∧
      ∀ id ∈ (finishedBy delta spots).drop stock.room,
        (stock.dimAll delta spots).surface.record? id = none := by
  induction spots generalizing stock with
  | nil => exact ⟨fun id hid => by simp [finishedBy, spritesOf] at hid,
      fun id hid => by simp [finishedBy, spritesOf] at hid⟩
  | cons s rest ih =>
      obtain ⟨hfirst, hnodup⟩ := List.nodup_cons.mp hnodup
      obtain ⟨ihkept, ihlost⟩ := ih (stock.dim delta s) hnodup
      have hself : (dimAll delta (stock.dim delta s) rest).surface.record? s.sprite =
          (stock.dim delta s).surface.record? s.sprite := dimAll_record_of_not_mem delta _ hfirst
      have hothers : ∀ id ∈ finishedBy delta rest,
          (stock.dim delta s).surface.record? id = stock.surface.record? id := fun id hid =>
        dim_record_of_ne stock fun _ heq => by
          have hmem := (finishedBy_sublist delta rest).subset hid
          rw [heq] at hmem
          exact hfirst hmem
      change (∀ id ∈ _, (dimAll delta (stock.dim delta s) rest).surface.record? id = _) ∧
        ∀ id ∈ _, (dimAll delta (stock.dim delta s) rest).surface.record? id = _
      cases hends : s.endsBy delta with
      | false =>
          obtain ⟨-, hroom⟩ := dim_of_lasts stock hends
          rw [hroom] at ihkept ihlost
          rw [finishedBy_cons_of_lasts hends]
          exact ⟨fun id hid => (ihkept id hid).trans
            (by rw [hothers id (List.mem_of_mem_take hid)]), ihlost⟩
      | true =>
          rw [dim_of_ends hends] at ihkept ihlost hself hothers ⊢
          rw [giveBack_room] at ihkept ihlost
          rw [finishedBy_cons_of_ends hends]
          rcases Nat.eq_zero_or_pos stock.room with hfull | hroom
          · rw [hfull] at ihlost ⊢
            refine ⟨fun id hid => by simp at hid, fun id hid => ?_⟩
            rcases List.mem_cons.mp hid with rfl | hrest
            · rw [hself, giveBack_of_full hfull]
              exact Surface.record?_release_self _ _
            · exact ihlost id hrest
          · obtain ⟨n, hn⟩ := Nat.exists_eq_add_one_of_ne_zero (Nat.ne_of_gt hroom)
            rw [hn, Nat.add_sub_cancel] at ihkept ihlost
            rw [hn, List.take_succ_cons, List.drop_succ_cons]
            refine ⟨fun id hid => ?_, ihlost⟩
            rcases List.mem_cons.mp hid with rfl | hrest
            · rw [hself, giveBack_of_room hroom]
              exact Surface.record?_change_self _ _ _
            · rw [ihkept id hrest, hothers id (List.mem_of_mem_take hrest)]

end SpriteStock

namespace SpotPool

variable {delta : Single}

/-! ## The lists of spots -/

/-- Dimming a list filters the spots and folds over the sprites. -/
theorem dimSpots_eq (delta : Single) (spots : List Spot) (stock : SpriteStock) :
    dimSpots delta spots stock =
      (spots.filterMap (Spot.dimmed? delta), stock.dimAll delta spots) := by
  induction spots generalizing stock with
  | nil => rfl
  | cons s rest ih =>
      have hstock : stock.dimAll delta (s :: rest) = (stock.dim delta s).dimAll delta rest := rfl
      rw [hstock, List.filterMap_cons]
      unfold dimSpots
      dsimp only
      cases hfading : s.isFading with
      | false =>
          rw [Spot.dimmed?_of_active hfading, SpriteStock.dim_of_active hfading]
          simp [ih]
      | true =>
          rw [← Spot.endsBy_of_fading hfading]
          cases hends : s.endsBy delta with
          | true =>
              rw [Spot.dimmed?_of_ends hends, SpriteStock.dim_of_ends hends]
              simp [ih]
          | false =>
              rw [Spot.dimmed?_of_fading hends hfading, SpriteStock.dim_of_fading hends hfading]
              simp [ih]

def leftOver (delta : Single) (e : DisplayId × List Spot) : DisplayId × List Spot :=
  (e.1, e.2.filterMap (Spot.dimmed? delta))

def allSpots (table : Keyed DisplayId (List Spot)) : List Spot := table.flatMap Prod.snd

theorem dimDisplays_eq (delta : Single) (table : Keyed DisplayId (List Spot))
    (stock : SpriteStock) :
    dimDisplays delta table stock =
      ((table.map (leftOver delta)).filter fun e => !e.2.isEmpty,
        stock.dimAll delta (allSpots table)) := by
  induction table generalizing stock with
  | nil => rfl
  | cons e rest ih =>
      obtain ⟨display, spots⟩ := e
      have hstock : stock.dimAll delta (allSpots ((display, spots) :: rest)) =
          (stock.dimAll delta spots).dimAll delta (allSpots rest) := by
        unfold SpriteStock.dimAll allSpots
        rw [List.flatMap_cons, List.foldl_append]
      unfold dimDisplays
      rw [dimSpots_eq, hstock, List.map_cons, List.filter_cons]
      dsimp only
      rw [ih]
      cases hempty : (spots.filterMap (Spot.dimmed? delta)).isEmpty <;>
        simp [leftOver, hempty]

def dimmedOn? (delta : Single) (e : DisplayId × Spot) : Option (DisplayId × Spot) :=
  (e.2.dimmed? delta).map (Prod.mk e.1)

theorem onDisplay_leftOver (delta : Single) (display : DisplayId) (spots : List Spot) :
    onDisplay display (spots.filterMap (Spot.dimmed? delta)) =
      (onDisplay display spots).filterMap (dimmedOn? delta) := by
  simp [onDisplay, dimmedOn?, List.map_filterMap, List.filterMap_map, Function.comp_def]

/-- To forget displays without spots makes no difference to the spots. -/
theorem liveIn_leftOver (delta : Single) (table : Keyed DisplayId (List Spot)) :
    liveIn ((table.map (leftOver delta)).filter fun e => !e.2.isEmpty) =
      (liveIn table).filterMap (dimmedOn? delta) := by
  induction table with
  | nil => rfl
  | cons e rest ih =>
      obtain ⟨display, spots⟩ := e
      have hfirst : liveIn ((display, spots) :: rest) =
          onDisplay display spots ++ liveIn rest := rfl
      rw [hfirst, List.filterMap_append, ← onDisplay_leftOver, ← ih, List.map_cons,
        List.filter_cons]
      split
      · rfl
      · rename_i hempty
        have hnone : spots.filterMap (Spot.dimmed? delta) = [] := by
          simpa [leftOver] using hempty
        rw [hnone]
        rfl

theorem allSpots_eq_live (pool : SpotPool) : allSpots pool.byDisplay = pool.live.map Prod.snd := by
  simp [allSpots, live, liveIn, onDisplay, List.map_flatMap, Function.comp_def]

theorem mem_allSpots {pool : SpotPool} {e : DisplayId × Spot} (he : e ∈ pool.live) :
    e.2 ∈ allSpots pool.byDisplay := by
  rw [allSpots_eq_live]
  exact List.mem_map.mpr ⟨e, he, rfl⟩

theorem spritesOf_allSpots (table : Keyed DisplayId (List Spot)) :
    spritesOf (allSpots table) = spritesIn table := by
  simp [spritesOf, allSpots, spritesIn, liveIn, onDisplay, List.map_flatMap, Function.comp_def]

theorem dimmedOn?_eq_none_iff {e : DisplayId × Spot} :
    dimmedOn? delta e = none ↔ e.2.endsBy delta = true := by
  rw [dimmedOn?, Option.map_eq_none_iff, Spot.dimmed?_eq_none_iff]

/-- Every spot is finished or left. -/
theorem length_dimmedOn? (delta : Single) (live : List (DisplayId × Spot)) :
    (live.filterMap (dimmedOn? delta)).length + (finishedBy delta (live.map Prod.snd)).length =
      live.length := by
  induction live with
  | nil => rfl
  | cons e rest ih =>
      rw [List.map_cons, List.filterMap_cons]
      cases hends : e.2.endsBy delta with
      | true =>
          rw [dimmedOn?_eq_none_iff.mpr hends, finishedBy_cons_of_ends hends, List.length_cons,
            List.length_cons, ← ih]
          rfl
      | false =>
          have hleft : dimmedOn? delta e ≠ none := fun hnone => by
            rw [dimmedOn?_eq_none_iff.mp hnone] at hends
            cases hends
          obtain ⟨left, hleft⟩ := Option.ne_none_iff_exists'.mp hleft
          rw [hleft, finishedBy_cons_of_lasts hends, List.length_cons, List.length_cons, ← ih]
          omega

/-! ## The pool -/

def finished (delta : Single) (pool : SpotPool) : List SpriteId :=
  finishedBy delta (allSpots pool.byDisplay)

/-- Those of them that are kept: as many of the first ones as there is room for. -/
def shelved (delta : Single) (pool : SpotPool) : List SpriteId :=
  (pool.finished delta).take (pool.maxRecycled - pool.recycled.length)

def discarded (delta : Single) (pool : SpotPool) : List SpriteId :=
  (pool.finished delta).drop (pool.maxRecycled - pool.recycled.length)

/-- The pool after a step of fading.  Every display has its old list, in order, with less
opacity for the fading spots and without the finished ones, and a display without spots left
is forgotten.  The sprites that are kept lie on top of the shelf. -/
def dimmed (delta : Single) (pool : SpotPool) : SpotPool :=
  { pool with
    byDisplay := (pool.byDisplay.map (leftOver delta)).filter fun e => !e.2.isEmpty
    recycled := (pool.shelved delta).reverse ++ pool.recycled }

theorem live_dimmed (delta : Single) (pool : SpotPool) :
    (pool.dimmed delta).live = pool.live.filterMap (dimmedOn? delta) :=
  liveIn_leftOver delta pool.byDisplay

theorem advanceFades_eq (pool : SpotPool) (delta : Single) (surface : Surface) :
    pool.advanceFades delta surface =
      ((pool.dimmed delta).byDisplay.any (fun (_, spots) => spots.any Spot.isFading),
        pool.dimmed delta,
        ((pool.stock surface).dimAll delta (allSpots pool.byDisplay)).surface) := by
  have hspare := SpriteStock.dimAll_spare delta (pool.stock surface) (allSpots pool.byDisplay)
  unfold advanceFades
  rw [dimDisplays_eq]
  dsimp only
  rw [hspare]
  rfl

/-- What one step of fading makes of a pool and its surface, and what it tells.  Spots that are
finished go, and their sprites are kept without an icon as long as there is room on the shelf. -/
structure FadeStep (delta : Single) (pool : SpotPool) (surface : Surface) (tells : Bool)
    (pool' : SpotPool) (surface' : Surface) : Prop where
  leaves : pool' = pool.dimmed delta
  shelf : pool'.recycled.length =
    min pool.maxRecycled (pool.recycled.length + (pool.finished delta).length)
  cleared : ∀ id ∈ pool.shelved delta, ∃ r, surface.record? id = some r ∧
    surface'.record? id = some { r with icon := none }
  gone : ∀ id ∈ pool.discarded delta, surface'.record? id = none
  lasting : ∀ e ∈ pool.live, e.2.isFading = true → e.2.endsBy delta = false →
    ∃ r, surface.record? e.2.sprite = some r ∧
      surface'.record? e.2.sprite = some { r with alpha := e.2.alpha - delta }
  /-- Only the sprites of fading spots are touched. -/
  others : ∀ id, (∀ e ∈ pool.live, e.2.isFading = true → id ≠ e.2.sprite) →
    surface'.record? id = surface.record? id
  created : surface'.created = surface.created
  released : surface'.released = surface.released + (pool.discarded delta).length
  /-- A lasting spot's sprite is told its opacity, and a finished one's loses its icon, whether
  it is kept or released afterwards. -/
  mutations : surface'.mutations = surface.mutations + pool.live.countP fun e => e.2.isFading
  tells : tells = true ↔ pool'.Fades

/-- What was created is what is owned and what was released, before and after. -/
theorem released_of_created {owners : List SpriteId} {pool : SpotPool} {surface surface' : Surface}
    (hbefore : surface.Owned (pool.recycled ++ (spritesIn pool.byDisplay ++ owners)))
    (hafter : surface'.Owned ((pool.dimmed delta).recycled ++
      (spritesIn (pool.dimmed delta).byDisplay ++ owners)))
    (hcreated : surface'.created = surface.created) :
    surface'.released = surface.released + (pool.discarded delta).length := by
  have hleft : (spritesIn (pool.dimmed delta).byDisplay).length + (pool.finished delta).length =
      (spritesIn pool.byDisplay).length := by
    have hlength := length_dimmedOn? delta pool.live
    rw [← live_dimmed, ← allSpots_eq_live] at hlength
    rw [spritesIn, spritesIn, List.length_map, List.length_map]
    exact hlength
  have hshelf : (pool.dimmed delta).recycled.length + (pool.discarded delta).length =
      pool.recycled.length + (pool.finished delta).length := by
    simp only [dimmed, shelved, discarded, List.length_append, List.length_reverse,
      List.length_take, List.length_drop]
    omega
  have hbefore := hbefore.balance
  have hafter := hafter.balance
  rw [List.length_append, List.length_append] at hbefore hafter
  omega

/-- A step of fading finishes the spots that it leaves without opacity, and no others. -/
theorem advanceFades_step {owners : List SpriteId} {pool : SpotPool} {surface : Surface}
    (h : Housed owners pool surface) (delta : Single) :
    FadeStep delta pool surface (pool.advanceFades delta surface).1
      (pool.advanceFades delta surface).2.1 (pool.advanceFades delta surface).2.2 := by
  have hafter := h.advanceFades delta
  have hshelf : pool.recycled.length ≤ pool.maxRecycled := h.guards.shelf
  have hnodup : (spritesOf (allSpots pool.byDisplay)).Nodup := by
    rw [spritesOf_allSpots]
    exact (List.nodup_append.mp (List.nodup_append.mp h.guards.owned.distinct).2.1).1
  have halive : ∀ id ∈ spritesOf (allSpots pool.byDisplay), ∃ r, surface.record? id = some r :=
    fun id hid => h.guards.exists_record (List.mem_append_left _ (spritesOf_allSpots _ ▸ hid))
  obtain ⟨hcleared, hgone⟩ := SpriteStock.dimAll_finished delta (pool.stock surface) hnodup
  obtain ⟨hcreated, hmutations⟩ := SpriteStock.dimAll_counts delta (pool.stock surface)
    (allSpots pool.byDisplay)
  rw [advanceFades_eq] at hafter ⊢
  refine {
    leaves := rfl
    shelf := ?shelf
    cleared := ?cleared
    gone := hgone
    lasting := ?lasting
    others := ?others
    created := hcreated
    released := released_of_created h.guards.owned hafter.guards.owned hcreated
    mutations := ?mutations
    tells := fades_iff_any.symm }
  case shelf =>
    simp only [dimmed, shelved, List.length_append, List.length_reverse, List.length_take]
    omega
  case cleared =>
    intro id hid
    obtain ⟨r, hr⟩ := halive id ((finishedBy_sublist delta _).subset (List.mem_of_mem_take hid))
    exact ⟨r, hr, (hcleared id hid).trans (congrArg _ hr)⟩
  case lasting =>
    intro e he hfading hends
    have hmem := mem_allSpots he
    obtain ⟨r, hr⟩ := halive e.2.sprite (List.mem_map.mpr ⟨e.2, hmem, rfl⟩)
    exact ⟨r, hr,
      (SpriteStock.dimAll_lasting _ hnodup hmem hends hfading).trans (congrArg _ hr)⟩
  case others =>
    intro id hid
    apply SpriteStock.dimAll_record_of_ne (pool.stock surface)
    intro s hs
    rw [allSpots_eq_live] at hs
    obtain ⟨e, he, rfl⟩ := List.mem_map.mp hs
    exact hid e he
  case mutations =>
    rw [hmutations, allSpots_eq_live, List.countP_map]
    rfl

section

/-- Room for four spots, two of them just lifted; one sprite may be kept. -/
def twoLifted : SpotPool × Surface :=
  report [finger 3, finger 4] .builtin Catalogue.plain.spots
    (report [finger 1, finger 2, finger 3, finger 4] .builtin Catalogue.plain.spots (new 4 1 1, {}))

/-- The first two spots have half of their opacity left, and the last was lifted after them. -/
def neighbours : SpotPool × Surface :=
  report [finger 3] .builtin Catalogue.plain.spots
    (twoLifted.1.advanceFades Binary.half twoLifted.2).2

theorem Housed.report {owners : List SpriteId} {state : SpotPool × Surface}
    (h : Housed owners state.1 state.2) (contacts : List Contact) (display : DisplayId)
    (icons : SpotIcons) :
    Housed owners (report contacts display icons state).1
      (report contacts display icons state).2 :=
  (h.update contacts display icons).1

theorem neighbours_housed : Housed [] neighbours.1 neighbours.2 := by
  have hnew : Housed [] (new 4 1 1, ({} : Surface)).1 (new 4 1 1, ({} : Surface)).2 :=
    Housed.new Surface.owned_empty 4 1 1
  have hlifted : Housed [] twoLifted.1 twoLifted.2 := (hnew.report _ _ _).report _ _ _
  have hdimmed := hlifted.advanceFades Binary.half
  exact hdimmed.report [finger 3] .builtin Catalogue.plain.spots

/-- Of two neighbours that finish together, the first leaves its sprite on the shelf and the
second one's is released. -/
theorem advanceFades_step_neighbours :
    Housed [] neighbours.1 neighbours.2 ∧
      neighbours.1.finished Binary.half = [⟨0⟩, ⟨1⟩] ∧
      ((neighbours.1.advanceFades Binary.half neighbours.2).2.1.spots .builtin).map
          (fun s => (s.phase, s.alpha)) = [(.active ⟨3⟩, 1), (.fading, Binary.half)] ∧
      (neighbours.1.advanceFades Binary.half neighbours.2).2.1.recycled = [⟨0⟩] ∧
      FadeStep Binary.half neighbours.1 neighbours.2
        (neighbours.1.advanceFades Binary.half neighbours.2).1
        (neighbours.1.advanceFades Binary.half neighbours.2).2.1
        (neighbours.1.advanceFades Binary.half neighbours.2).2.2 :=
  ⟨neighbours_housed, by decide +kernel, by decide +kernel, by decide +kernel,
    advanceFades_step neighbours_housed Binary.half⟩

end

end SpotPool

end ScreenPointer
