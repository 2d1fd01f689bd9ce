/-
# The spots of all displays

The upkeep of sprites and the limits of displays, put together for a pool: each
display has one list of spots, the list is a roster, and the sprites are the
pointer's, those of the spots and the spare ones.  `Kept` is this invariant; the
operations of a pool keep it.
-/

import ScreenPointer.Proofs.Spots.Upkeep

namespace ScreenPointer

namespace SpotPool

/-- All spots, each with its display. -/
def live (pool : SpotPool) : List (DisplayId × Spot) := liveIn pool.byDisplay

/-- A pool in order on a surface, next to the pointer's sprite: every display is listed once, within
its limit, and every sprite of the pool shows what the pool says. -/
structure Kept (pointer : SpriteId) (look : Option SpriteRecord) (icons : SpotIcons)
    (pool : SpotPool) (surface : Surface) : Prop where
  tended : SpriteStock.Tended pointer look pool.scale icons pool.maxRecycled pool.live
    (pool.stock surface)
  unique : Keyed.Unique pool.byDisplay
  rosters : ∀ e ∈ pool.byDisplay, Roster pool.maxSpots e.2
  positive : 1 ≤ pool.maxSpots

/-! ## One display and the others -/

theorem mem_live {pool : SpotPool} {e : DisplayId × Spot} :
    e ∈ pool.live ↔ ∃ spots, (e.1, spots) ∈ pool.byDisplay ∧ e.2 ∈ spots := by
  unfold live liveIn onDisplay
  simp only [List.mem_flatMap, List.mem_map]
  constructor
  · rintro ⟨⟨display, spots⟩, hmem, s, hs, rfl⟩
    exact ⟨spots, hmem, hs⟩
  · rintro ⟨spots, hmem, hs⟩
    exact ⟨(e.1, spots), hmem, e.2, hs, rfl⟩

theorem liveIn_perm {table table' : Keyed DisplayId (List Spot)} (hperm : table.Perm table') :
    (liveIn table).Perm (liveIn table') :=
  hperm.flatMap_right _

/-- The spots of one display come first, up to order. -/
theorem live_perm {pool : SpotPool} (hunique : Keyed.Unique pool.byDisplay)
    (display : DisplayId) :
    pool.live.Perm
      (onDisplay display (pool.spots display) ++ liveIn (Keyed.erase display pool.byDisplay)) := by
  unfold live spots
  cases hfind : Keyed.find? display pool.byDisplay with
  | none =>
      rw [Keyed.erase_of_find?_none hfind]
      exact .refl _
  | some spots => exact liveIn_perm (Keyed.perm_cons_erase hunique hfind)

theorem live_setSpots_perm {pool : SpotPool} (hunique : Keyed.Unique pool.byDisplay)
    (display : DisplayId) (spots : List Spot) :
    (pool.setSpots display spots).live.Perm
      (onDisplay display spots ++ liveIn (Keyed.erase display pool.byDisplay)) := by
  unfold live setSpots
  dsimp only
  split
  · rename_i hempty
    rw [List.isEmpty_iff.mp hempty]
    exact .refl _
  · exact liveIn_perm (Keyed.insert_perm hunique display spots)

theorem spots_setSpots_self (pool : SpotPool) (display : DisplayId) (spots : List Spot) :
    (pool.setSpots display spots).spots display = spots := by
  unfold SpotPool.spots setSpots
  dsimp only
  split
  · rename_i hempty
    rw [Keyed.find?_erase_self, List.isEmpty_iff.mp hempty]
    rfl
  · rw [Keyed.find?_insert_self]
    rfl

theorem spots_setSpots_of_ne (pool : SpotPool) {display other : DisplayId}
    (hne : other ≠ display) (spots : List Spot) :
    (pool.setSpots display spots).spots other = pool.spots other := by
  unfold SpotPool.spots setSpots
  dsimp only
  split
  · rw [Keyed.find?_erase_of_ne hne]
  · rw [Keyed.find?_insert_of_ne hne]

/-- A display that was given its spots is not listed without any. -/
theorem find?_setSpots_ne_nil (pool : SpotPool) (display : DisplayId) (spots : List Spot) :
    Keyed.find? display (pool.setSpots display spots).byDisplay ≠ some [] := by
  unfold setSpots
  dsimp only
  split
  · rw [Keyed.find?_erase_self]
    simp
  · rename_i hsome
    rw [Keyed.find?_insert_self]
    rintro heq
    cases heq
    exact hsome rfl

/-- Giving a display the spots that it has changes nothing. -/
theorem setSpots_spots {pool : SpotPool} {display : DisplayId}
    (hlisted : Keyed.find? display pool.byDisplay ≠ some []) :
    pool.setSpots display (pool.spots display) = pool := by
  have hsame : (if (pool.spots display).isEmpty then pool.byDisplay.erase display
      else pool.byDisplay.insert display (pool.spots display)) = pool.byDisplay := by
    unfold SpotPool.spots
    cases hfind : Keyed.find? display pool.byDisplay with
    | none => exact Keyed.erase_of_find?_none hfind
    | some spots =>
        have hsome : spots.isEmpty = false := by
          cases spots with
          | nil => exact absurd hfind hlisted
          | cons s rest => rfl
        rw [Option.getD_some, hsome]
        exact Keyed.insert_of_find? hfind
  unfold setSpots
  rw [hsame]

theorem mem_setSpots {pool : SpotPool} {display : DisplayId} {spots : List Spot}
    {e : DisplayId × List Spot} (he : e ∈ (pool.setSpots display spots).byDisplay) :
    e = (display, spots) ∨ e ∈ pool.byDisplay := by
  unfold setSpots at he
  dsimp only at he
  split at he
  · exact .inr (List.mem_filter.mp he).1
  · exact Keyed.mem_insert he

theorem mem_live_of_mem_spots {pool : SpotPool} {display : DisplayId} {s : Spot}
    (hs : s ∈ pool.spots display) : (display, s) ∈ pool.live := by
  unfold SpotPool.spots at hs
  cases hfind : Keyed.find? display pool.byDisplay with
  | none =>
      rw [hfind] at hs
      cases hs
  | some spots =>
      rw [hfind] at hs
      exact mem_live.mpr ⟨spots, Keyed.mem_of_find? hfind, hs⟩

theorem unique_setSpots {pool : SpotPool} (hunique : Keyed.Unique pool.byDisplay)
    (display : DisplayId) (spots : List Spot) :
    Keyed.Unique (pool.setSpots display spots).byDisplay := by
  unfold setSpots
  dsimp only
  split
  · exact Keyed.unique_erase hunique display
  · exact Keyed.unique_insert hunique display spots

/-! ## Fading and lifting -/

theorem fadeIfLifted_sprite (contacts : List Contact) (s : Spot) :
    (fadeIfLifted contacts s).sprite = s.sprite := by
  unfold fadeIfLifted
  split <;> rfl

theorem fadeIfLifted_phase (contacts : List Contact) (s : Spot) :
    (fadeIfLifted contacts s).phase = s.phase ∨ (fadeIfLifted contacts s).phase = .fading := by
  unfold fadeIfLifted
  split
  · exact .inr rfl
  · exact .inl rfl

theorem fadeIfLifted_draws (contacts : List Contact) (r : SpriteRecord) (s : Spot)
    (display : DisplayId) {scale : Single} {icons : SpotIcons}
    (h : r.Draws s display scale icons) :
    r.Draws (fadeIfLifted contacts s) display scale icons := by
  unfold fadeIfLifted
  split
  · exact h.fading
  · exact h

/-- Spots that may fade, one by one, follow no new contacts. -/
theorem Roster.map {capacity : Nat} {spots : List Spot} (h : Roster capacity spots)
    {f : Spot → Spot} (hf : ∀ s, (f s).phase = s.phase ∨ (f s).phase = .fading) :
    Roster capacity (spots.map f) := by
  apply h.of_sublist (Nat.le_of_eq (List.length_map f))
  clear h
  induction spots with
  | nil => exact .slnil
  | cons s rest ih =>
      unfold down at *
      rw [List.map_cons, List.filterMap_cons, List.filterMap_cons]
      rcases hf s with hsame | hfading
      · rw [hsame]
        split
        · exact ih
        · exact ih.cons_cons _
      · rw [hfading]
        dsimp only [SpotPhase.contact?]
        split
        · exact ih
        · exact ih.cons _

theorem onDisplay_map (display : DisplayId) (spots : List Spot) (f : Spot → Spot) :
    (onDisplay display spots).map (fun e => (e.1, f e.2)) = onDisplay display (spots.map f) := by
  simp [onDisplay, Function.comp_def]

theorem liveIn_map (table : Keyed DisplayId (List Spot)) (f : Spot → Spot) :
    liveIn (table.map fun (display, spots) => (display, spots.map f)) =
      (liveIn table).map fun e => (e.1, f e.2) := by
  unfold liveIn
  rw [List.flatMap_map, List.map_flatMap]
  exact congrArg (List.flatMap · table) (funext fun e => (onDisplay_map e.1 e.2 f).symm)

/-! ## Dimming -/

/-- Dimming lets fading spots go and changes no phase. -/
theorem dimSpots_phases (delta : Single) :
    ∀ (spots : List Spot) (stock : SpriteStock),
      ((dimSpots delta spots stock).1.map (·.phase)).Sublist (spots.map (·.phase)) := by
  intro spots
  induction spots with
  | nil => intro _; exact .slnil
  | cons s rest ih =>
      intro stock
      unfold dimSpots
      dsimp only
      split
      · split
        · exact (ih _).cons _
        · exact (ih _).cons_cons _
      · exact (ih _).cons_cons _

theorem Roster.dim {capacity : Nat} {spots : List Spot} (h : Roster capacity spots)
    (delta : Single) (stock : SpriteStock) : Roster capacity (dimSpots delta spots stock).1 := by
  have hphases := dimSpots_phases delta spots stock
  apply h.of_sublist (by simpa using hphases.length_le)
  have hdown := hphases.filterMap SpotPhase.contact?
  rwa [List.filterMap_map, List.filterMap_map] at hdown

theorem dimDisplays_keys (delta : Single) :
    ∀ (table : Keyed DisplayId (List Spot)) (stock : SpriteStock),
      ((dimDisplays delta table stock).1.map Prod.fst).Sublist (table.map Prod.fst) := by
  intro table
  induction table with
  | nil => intro _; exact .slnil
  | cons e rest ih =>
      intro stock
      unfold dimDisplays
      dsimp only
      split
      · exact (ih _).cons _
      · exact (ih _).cons_cons _

theorem dimDisplays_rosters {capacity : Nat} (delta : Single) :
    ∀ (table : Keyed DisplayId (List Spot)) (stock : SpriteStock),
      (∀ e ∈ table, Roster capacity e.2) →
      ∀ e ∈ (dimDisplays delta table stock).1, Roster capacity e.2 := by
  intro table
  induction table with
  | nil => intro _ _ e he; cases he
  | cons first rest ih =>
      intro stock h
      obtain ⟨hfirst, hrest⟩ := List.forall_mem_cons.mp h
      unfold dimDisplays
      dsimp only
      split
      · exact ih _ hrest
      · exact List.forall_mem_cons.mpr ⟨hfirst.dim delta stock, ih _ hrest⟩

/-- A display that has no spots keeps to any limit. -/
theorem roster_of_rosters {pool : SpotPool} {capacity : Nat}
    (h : ∀ e ∈ pool.byDisplay, Roster capacity e.2) (display : DisplayId) :
    Roster capacity (pool.spots display) := by
  unfold SpotPool.spots
  cases hfind : Keyed.find? display pool.byDisplay with
  | none => exact ⟨Nat.zero_le _, List.nodup_nil⟩
  | some spots => exact h _ (Keyed.mem_of_find? hfind)

/-! ## The operations keep the pool in order -/

namespace Kept

variable {pointer : SpriteId} {look : Option SpriteRecord} {icons : SpotIcons} {pool : SpotPool}
  {surface surface' : Surface}

/-- A new pool, next to the first sprite. -/
theorem new (maxSpots maxRecycled : Nat) (scale : Single) (howned : surface.Owned [pointer]) :
    Kept pointer (surface.record? pointer) icons (.new maxSpots maxRecycled scale) surface where
  tended := by
    refine ⟨howned, ⟨rfl, ?_, ?_⟩, Nat.zero_le _, rfl⟩
    · intro e he
      cases he
    · intro id hid
      cases hid
  unique := List.nodup_nil
  rosters e he := by cases he
  positive := Nat.le_max_right _ _

/-- Changes to the pointer's sprite do not touch the spots. -/
theorem repaint (h : Kept pointer look icons pool surface)
    (hconf : Surface.Confined pointer surface surface') :
    Kept pointer (surface'.record? pointer) icons pool surface' where
  tended := by
    obtain ⟨howned, ⟨-, hdrawn, hblank⟩, hshelf, hroom⟩ := h.tended
    have hothers : ∀ id ∈ pool.live.map (·.2.sprite) ++ pool.recycled,
        surface'.record? id = surface.record? id :=
      fun id hid => hconf.others id (howned.ne_head hid)
    refine ⟨howned.confined hconf, ⟨rfl, fun e he => ?_, fun id hid => ?_⟩, hshelf, hroom⟩
    · obtain ⟨r, hr, hdraw⟩ := hdrawn e he
      have hlive : e.2.sprite ∈ pool.live.map (·.2.sprite) := List.mem_map.mpr ⟨e, he, rfl⟩
      exact ⟨r, (hothers _ (List.mem_append_left _ hlive)).trans hr, hdraw⟩
    · obtain ⟨r, hr, hempty⟩ := hblank id hid
      exact ⟨r, (hothers id (List.mem_append_right _ hid)).trans hr, hempty⟩
  unique := h.unique
  rosters := h.rosters
  positive := h.positive

/-- The live spots of a display are those on its list. -/
theorem mem_live_iff (h : Kept pointer look icons pool surface) {display : DisplayId} {s : Spot} :
    (display, s) ∈ pool.live ↔ s ∈ pool.spots display := by
  refine ⟨fun hlive => ?_, mem_live_of_mem_spots⟩
  obtain ⟨spots, hmem, hs⟩ := mem_live.mp hlive
  unfold SpotPool.spots
  rw [Keyed.find?_of_mem h.unique hmem]
  exact hs

theorem roster (h : Kept pointer look icons pool surface) (display : DisplayId) :
    Roster pool.maxSpots (pool.spots display) :=
  roster_of_rosters h.rosters display

theorem update (h : Kept pointer look icons pool surface) (contacts : List Contact)
    (display : DisplayId) :
    Kept pointer look icons (pool.update contacts display icons surface).2.1
      (pool.update contacts display icons surface).2.2 := by
  have hshown := showContacts_tended contacts (h.tended.perm (live_perm h.unique display))
  have hfaded := hshown.mapSpots (fadeIfLifted contacts) (fadeIfLifted_sprite contacts)
    fun r s display hdraw => fadeIfLifted_draws contacts r s display hdraw
  rw [onDisplay_map] at hfaded
  have hroster : Roster pool.maxSpots (pool.showContacts icons display contacts
      (pool.spots display) (pool.stock surface)).1 :=
    showContacts_roster h.positive contacts (h.roster display)
  have hback := hfaded.perm (live_setSpots_perm h.unique display _).symm
  refine ⟨⟨hback.owned, hback.records, ?_, rfl⟩, unique_setSpots h.unique display _, ?_, h.positive⟩
  · exact Nat.le_trans hback.shelf (Nat.le_of_eq hback.room)
  · intro e he
    rcases mem_setSpots he with rfl | hmem
    · exact hroster.map (fadeIfLifted_phase contacts)
    · exact h.rosters e hmem

theorem fadeAll (h : Kept pointer look icons pool surface) :
    Kept pointer look icons pool.fadeAll.2 surface where
  tended := by
    have hall := (h.tended.perm (.of_eq (List.append_nil _).symm)).mapSpots
      (fun s => { s with phase := .fading }) (fun _ => rfl) fun _ _ _ => SpriteRecord.Draws.fading
    rw [List.append_nil] at hall
    have hlive := liveIn_map pool.byDisplay fun s => { s with phase := .fading }
    unfold SpotPool.fadeAll live
    dsimp only
    rw [hlive]
    exact hall
  unique := by
    unfold SpotPool.fadeAll Keyed.Unique
    dsimp only
    rw [List.map_map]
    exact h.unique
  rosters e he := by
    obtain ⟨⟨display, spots⟩, hmem, rfl⟩ := List.mem_map.mp he
    exact (h.rosters _ hmem).map fun _ => .inr rfl
  positive := h.positive

theorem advanceFades (h : Kept pointer look icons pool surface) (delta : Single) :
    Kept pointer look icons (pool.advanceFades delta surface).2.1
      (pool.advanceFades delta surface).2.2 := by
  have hdimmed := dimDisplays_tended delta pool.byDisplay
    (h.tended.perm (.of_eq (List.append_nil _).symm))
  rw [List.append_nil] at hdimmed
  refine ⟨⟨hdimmed.owned, hdimmed.records, ?_, rfl⟩,
    (dimDisplays_keys delta pool.byDisplay _).nodup h.unique,
    dimDisplays_rosters delta pool.byDisplay _ h.rosters, h.positive⟩
  exact Nat.le_trans hdimmed.shelf (Nat.le_of_eq hdimmed.room)

/-- After the pointer's sprite, the sprites of the pool are all there is to give up. -/
theorem releaseAll (h : Kept pointer look icons pool surface) :
    (pool.releaseAll (surface.release pointer)).2.Owned [] := by
  have hsprites : (pool.live.map (·.2.sprite) ++ pool.recycled).Perm (pool.sprites ++ []) := by
    rw [List.append_nil]
    apply (List.Perm.append_left _ (List.reverse_perm pool.recycled).symm).trans
    simp [sprites, live, liveIn, onDisplay, List.map_flatMap, Function.comp_def]
  exact (h.tended.owned.release.perm hsprites).releaseAll

end Kept

/-! ## Spots that fade -/

def Fades (pool : SpotPool) : Prop := ∃ e ∈ pool.live, e.2.isFading = true

theorem fades_iff_any {pool : SpotPool} :
    pool.Fades ↔ (pool.byDisplay.any fun (_, spots) => spots.any Spot.isFading) = true := by
  unfold Fades
  simp only [List.any_eq_true]
  constructor
  · rintro ⟨e, he, hfading⟩
    obtain ⟨spots, hspots, hs⟩ := mem_live.mp he
    exact ⟨(e.1, spots), hspots, e.2, hs, hfading⟩
  · rintro ⟨⟨display, spots⟩, hspots, s, hs, hfading⟩
    exact ⟨(display, s), mem_live.mpr ⟨spots, hspots, hs⟩, hfading⟩

/-- Unless showing contacts tells that a spot starts to fade, none fades that did not
before. -/
theorem fades_of_update {pool : SpotPool} {contacts : List Contact} {display : DisplayId}
    {icons : SpotIcons} {surface : Surface}
    (hstarted : (pool.update contacts display icons surface).1 = false)
    (hfades : (pool.update contacts display icons surface).2.1.Fades) : pool.Fades := by
  obtain ⟨e, he, hfading⟩ := hfades
  obtain ⟨spots, hspots, hs⟩ := mem_live.mp he
  rcases mem_setSpots hspots with heq | hold
  · cases heq
    obtain ⟨s, hshown, hlifted⟩ := List.mem_map.mp hs
    have hkept : isLifted contacts s = false :=
      Bool.eq_false_iff.mpr (List.any_eq_false.mp hstarted s hshown)
    rw [fadeIfLifted, hkept] at hlifted
    rw [← hlifted] at hfading
    exact ⟨(e.1, s), mem_live_of_mem_spots (showContacts_fading hfading contacts hshown), hfading⟩
  · exact ⟨e, mem_live.mpr ⟨spots, hold, hs⟩, hfading⟩

/-- Unless letting all spots fade tells that one starts to, all did before. -/
theorem fades_of_fadeAll {pool : SpotPool} (hstarted : pool.fadeAll.1 = false)
    (hfades : pool.fadeAll.2.Fades) : pool.Fades := by
  obtain ⟨e, he, -⟩ := hfades
  obtain ⟨spots, hspots, hs⟩ := mem_live.mp he
  obtain ⟨⟨display, before⟩, hbefore, heq⟩ := List.mem_map.mp hspots
  cases heq
  obtain ⟨s, hmem, -⟩ := List.mem_map.mp hs
  have hall := List.any_eq_false.mp hstarted _ hbefore
  have hfading := List.any_eq_false.mp (Bool.eq_false_iff.mpr hall) s hmem
  exact ⟨(e.1, s), mem_live.mpr ⟨before, hbefore, hmem⟩, by simpa using hfading⟩

end SpotPool

end ScreenPointer
