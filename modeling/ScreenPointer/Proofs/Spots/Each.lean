/-
# What holds of each spot

A property of single spots holds of all spots of a pool as soon as new spots have it
and moving, fading and dimming keep it.  Neither the place of a spot in its list nor
the sprites matter here, so nothing is asked about limits and owners.
-/

import ScreenPointer.Proofs.Spots.Pool

namespace ScreenPointer

namespace SpotPool

variable {P : Spot → Prop} {pool : SpotPool}

def Each (P : Spot → Prop) (pool : SpotPool) : Prop := ∀ e ∈ pool.live, P e.2

theorem each_iff : pool.Each P ↔ ∀ e ∈ pool.byDisplay, ∀ s ∈ e.2, P s := by
  constructor
  · intro h e he s hs
    exact h (e.1, s) (mem_live.mpr ⟨e.2, he, hs⟩)
  · intro h e he
    obtain ⟨spots, hspots, hs⟩ := mem_live.mp he
    exact h (e.1, spots) hspots e.2 hs

theorem Each.on (h : pool.Each P) (display : DisplayId) : ∀ s ∈ pool.spots display, P s :=
  fun s hs => h (display, s) (mem_live_of_mem_spots hs)

theorem each_new (maxSpots maxRecycled : Nat) (scale : Single) :
    (new maxSpots maxRecycled scale).Each P := fun e he => by cases he

/-! ## Reports of contacts -/

section

variable {icons : SpotIcons} {display : DisplayId}

theorem showContact_each {contact : Contact} {spots : List Spot} {stock : SpriteStock}
    (hnew : ∀ sprite, P ((Spot.new contact.id sprite).moved contact))
    (hmoved : ∀ s, P s → P (s.moved contact)) (h : ∀ s ∈ spots, P s) :
    ∀ s ∈ (pool.showContact icons display contact spots stock).1, P s := by
  unfold showContact
  split
  · rename_i spots' surface' hmove
    obtain ⟨before, t, after, rfl, -, rfl, -⟩ := moveFollower_eq_some hmove
    obtain ⟨hbefore, hrest⟩ := List.forall_mem_append.mp h
    obtain ⟨ht, hafter⟩ := List.forall_mem_cons.mp hrest
    exact List.forall_mem_append.mpr ⟨hbefore, List.forall_mem_cons.mpr ⟨hmoved t ht, hafter⟩⟩
  · dsimp only
    rw [moveSpot_fst]
    refine List.forall_mem_append.mpr ⟨fun s hs => h s (mem_of_mem_makeRoom _ hs), fun s hs => ?_⟩
    rw [List.mem_singleton.mp hs]
    exact hnew _

theorem showContacts_each
    (hnew : ∀ (contact : Contact) sprite, P ((Spot.new contact.id sprite).moved contact))
    (hmoved : ∀ s contact, P s → P (Spot.moved s contact)) (contacts : List Contact) :
    ∀ {spots : List Spot} {stock : SpriteStock}, (∀ s ∈ spots, P s) →
      ∀ s ∈ (pool.showContacts icons display contacts spots stock).1, P s := by
  induction contacts with
  | nil => exact fun h => h
  | cons contact rest ih =>
      exact fun h => ih (showContact_each (hnew contact) (fun s => hmoved s contact) h)

end

theorem Each.update (h : pool.Each P)
    (hnew : ∀ (contact : Contact) sprite, P ((Spot.new contact.id sprite).moved contact))
    (hmoved : ∀ s contact, P s → P (Spot.moved s contact))
    (hfading : ∀ s, P s → P { s with phase := .fading }) (contacts : List Contact)
    (display : DisplayId) (icons : SpotIcons) (surface : Surface) :
    (pool.update contacts display icons surface).2.1.Each P := by
  have hshown : ∀ s ∈ (pool.showContacts icons display contacts (pool.spots display)
      (pool.stock surface)).1, P s :=
    showContacts_each hnew hmoved contacts (h.on display)
  refine each_iff.mpr fun e he => ?_
  rcases mem_setSpots he with rfl | hold
  · refine List.forall_mem_map.mpr fun s hs => ?_
    unfold fadeIfLifted
    split
    · exact hfading s (hshown s hs)
    · exact hshown s hs
  · exact each_iff.mp h e hold

/-! ## Fading and dimming -/

theorem Each.fadeAll {Q : Spot → Prop} (h : pool.Each P)
    (hfading : ∀ s, P s → Q { s with phase := .fading }) : pool.fadeAll.2.Each Q := by
  refine each_iff.mpr fun e he => ?_
  obtain ⟨e, hmem, rfl⟩ := List.mem_map.mp he
  exact List.forall_mem_map.mpr fun s hs => hfading s (each_iff.mp h e hmem s hs)

variable {delta : Single}

theorem dimSpots_each
    (hdimmed : ∀ s, P s → s.isFading = true → (s.alpha - delta).atMost 0 = false →
      P { s with alpha := s.alpha - delta }) (spots : List Spot) :
    ∀ (stock : SpriteStock), (∀ s ∈ spots, P s) → ∀ s ∈ (dimSpots delta spots stock).1, P s := by
  induction spots with
  | nil => exact fun _ h => h
  | cons s rest ih =>
      intro stock h
      obtain ⟨hs, hrest⟩ := List.forall_mem_cons.mp h
      by_cases hfading : s.isFading = true
      · by_cases hgone : (s.alpha - delta).atMost 0 = true
        · simpa only [dimSpots, hfading, hgone, if_true] using ih _ hrest
        · have hlit := hdimmed s hs hfading (Bool.eq_false_iff.mpr hgone)
          simp only [dimSpots, hfading, hgone, if_true, Bool.false_eq_true, if_false]
          exact List.forall_mem_cons.mpr ⟨hlit, ih _ hrest⟩
      · simp only [dimSpots, hfading, Bool.false_eq_true, if_false]
        exact List.forall_mem_cons.mpr ⟨hs, ih _ hrest⟩

theorem dimDisplays_each
    (hdimmed : ∀ s, P s → s.isFading = true → (s.alpha - delta).atMost 0 = false →
      P { s with alpha := s.alpha - delta }) (table : Keyed DisplayId (List Spot)) :
    ∀ (stock : SpriteStock), (∀ e ∈ table, ∀ s ∈ e.2, P s) →
      ∀ e ∈ (dimDisplays delta table stock).1, ∀ s ∈ e.2, P s := by
  induction table with
  | nil => exact fun _ h => h
  | cons first rest ih =>
      intro stock h
      obtain ⟨hfirst, hrest⟩ := List.forall_mem_cons.mp h
      have hleft := dimSpots_each hdimmed first.2 stock hfirst
      simp only [dimDisplays]
      split
      · exact ih _ hrest
      · exact List.forall_mem_cons.mpr ⟨hleft, ih _ hrest⟩

theorem Each.advanceFades (h : pool.Each P)
    (hdimmed : ∀ s, P s → s.isFading = true → (s.alpha - delta).atMost 0 = false →
      P { s with alpha := s.alpha - delta }) (surface : Surface) :
    (pool.advanceFades delta surface).2.1.Each P :=
  each_iff.mpr (dimDisplays_each hdimmed pool.byDisplay (pool.stock surface) (each_iff.mp h))

end SpotPool

end ScreenPointer
