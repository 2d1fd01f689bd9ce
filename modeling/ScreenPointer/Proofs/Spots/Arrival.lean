/-
# Contacts arriving at a display

What showing one contact can do to the spots of a display, apart from sprites:
its spot moves, or a new spot joins, or a new spot displaces one.  `Arrival` is
the list of these cases, and what a whole report of contacts does is followed
through it one contact at a time.  `takePlace` is all of it that concerns who is
followed: places are given first come, first gone, except that spots that fade go
before all others.
-/

import ScreenPointer.Spots

namespace ScreenPointer

def SpotPhase.contact? : SpotPhase → Option ContactId
  | active contact => some contact
  | fading => none

def Spot.moved (s : Spot) (contact : Contact) : Spot :=
  { s with position := contact.position, shown := some (.ofContact contact) }

namespace SpotPool

/-- The contacts that spots follow. -/
def down (spots : List Spot) : List ContactId := spots.filterMap (·.phase.contact?)

theorem contact?_eq_some {phase : SpotPhase} {id : ContactId} :
    phase.contact? = some id ↔ phase = .active id := by
  cases phase <;> simp [SpotPhase.contact?]

theorem mem_down {spots : List Spot} {id : ContactId} :
    id ∈ down spots ↔ ∃ s ∈ spots, s.phase = .active id := by
  simp only [down, List.mem_filterMap, contact?_eq_some]

theorem down_append (first second : List Spot) :
    down (first ++ second) = down first ++ down second :=
  List.filterMap_append

theorem down_single {s : Spot} {id : ContactId} (hactive : s.phase = .active id) :
    down [s] = [id] := by
  simp [down, hactive, SpotPhase.contact?]

theorem down_move {contact : Contact} {before after : List Spot} (s : Spot) :
    down (before ++ s.moved contact :: after) = down (before ++ s :: after) := by
  unfold down
  rw [List.filterMap_append, List.filterMap_append, List.filterMap_cons, List.filterMap_cons]
  rfl

theorem down_concat {contact : Contact} {others : List Spot} (sprite : SpriteId) :
    down (others ++ [(Spot.new contact.id sprite).moved contact]) =
      down others ++ [contact.id] := by
  have hlast : down [(Spot.new contact.id sprite).moved contact] = [contact.id] := down_single rfl
  rw [down_append, hlast]

/-- A new spot follows a contact that no other spot follows. -/
theorem distinct_concat {contact : Contact} {others : List Spot} (sprite : SpriteId)
    (hdistinct : (down others).Nodup) (hnew : contact.id ∉ down others) :
    (down (others ++ [(Spot.new contact.id sprite).moved contact])).Nodup := by
  rw [down_concat]
  refine List.nodup_append.mpr ⟨hdistinct, by simp, fun id hid other hother heq => ?_⟩
  rw [List.mem_singleton.mp hother] at heq
  exact hnew (heq ▸ hid)

/-! ## Who is displaced -/

theorem takeFading_perm {spots others : List Spot} {victim : Spot}
    (h : takeFading spots = some (victim, others)) : spots.Perm (victim :: others) := by
  induction spots generalizing others with
  | nil => cases h
  | cons s rest ih =>
      unfold takeFading at h
      split at h
      · cases h
        exact .refl _
      · obtain ⟨⟨v, kept⟩, hrest, heq⟩ := Option.map_eq_some_iff.mp h
        cases heq
        exact ((ih hrest).cons s).trans (.swap _ _ _)

theorem takeFading_isFading {spots others : List Spot} {victim : Spot}
    (h : takeFading spots = some (victim, others)) : victim.isFading = true := by
  induction spots generalizing others with
  | nil => cases h
  | cons s rest ih =>
      unfold takeFading at h
      split at h
      · rename_i hfading
        cases h
        exact hfading
      · obtain ⟨⟨v, kept⟩, hrest, heq⟩ := Option.map_eq_some_iff.mp h
        cases heq
        exact ih hrest

theorem takeFading_eq_none {spots : List Spot} (h : takeFading spots = none) :
    ∀ s ∈ spots, s.isFading = false := by
  induction spots with
  | nil => simp
  | cons s rest ih =>
      unfold takeFading at h
      split at h
      · cases h
      · rename_i hactive
        exact List.forall_mem_cons.mpr
          ⟨Bool.eq_false_iff.mpr hactive, ih (Option.map_eq_none_iff.mp h)⟩

theorem takeVictim_perm {spots others : List Spot} {victim : Spot}
    (h : takeVictim spots = some (victim, others)) : spots.Perm (victim :: others) := by
  unfold takeVictim at h
  split at h
  · rename_i found hfound
    cases h
    exact takeFading_perm hfound
  · cases h
    exact .refl _
  · cases h

theorem exists_takeVictim {spots : List Spot} (hsome : 0 < spots.length) :
    ∃ victim others, takeVictim spots = some (victim, others) := by
  unfold takeVictim
  split
  · exact ⟨_, _, rfl⟩
  · exact ⟨_, _, rfl⟩
  · simp at hsome

/-- A spot that follows a contact is displaced only when no spot is fading. -/
theorem takeVictim_active {spots others : List Spot} {victim : Spot}
    (h : takeVictim spots = some (victim, others)) (hactive : victim.isFading = false) :
    ∀ s ∈ spots, s.isFading = false := by
  unfold takeVictim at h
  split at h
  · rename_i found hfound
    cases h
    rw [takeFading_isFading hfound] at hactive
    cases hactive
  · rename_i oldest rest hnone
    exact takeFading_eq_none hnone
  · cases h

/-- The first phase of fading is the one that goes. -/
theorem takeFading_phases {spots others : List Spot} {victim : Spot}
    (h : takeFading spots = some (victim, others)) :
    .fading ∈ spots.map (·.phase) ∧
      others.map (·.phase) = (spots.map (·.phase)).erase .fading := by
  induction spots generalizing others with
  | nil => cases h
  | cons s rest ih =>
      unfold takeFading at h
      split at h
      · rename_i hfading
        have hphase : s.phase = .fading := by simpa [Spot.isFading] using hfading
        cases h
        simp [hphase]
      · rename_i hactive
        have hphase : s.phase ≠ .fading := by simpa [Spot.isFading] using hactive
        obtain ⟨⟨v, kept⟩, hrest, heq⟩ := Option.map_eq_some_iff.mp h
        cases heq
        obtain ⟨hmem, hkept⟩ := ih hrest
        refine ⟨List.mem_cons_of_mem _ hmem, ?_⟩
        rw [List.map_cons, List.map_cons, List.erase_cons_tail (by simpa using hphase), hkept]

theorem takeVictim_phases {spots others : List Spot} {victim : Spot}
    (h : takeVictim spots = some (victim, others)) :
    others.map (·.phase) =
      if .fading ∈ spots.map (·.phase) then (spots.map (·.phase)).erase .fading
      else (spots.map (·.phase)).tail := by
  unfold takeVictim at h
  split at h
  · rename_i found hfound
    cases h
    obtain ⟨hmem, hothers⟩ := takeFading_phases hfound
    rw [if_pos hmem, hothers]
  · rename_i oldest rest hnone
    cases h
    have hactive : .fading ∉ (victim :: others).map (·.phase) := by
      intro hmem
      obtain ⟨s, hs, hphase⟩ := List.mem_map.mp hmem
      have hkept := takeFading_eq_none hnone s hs
      simp [Spot.isFading, hphase] at hkept
    rw [if_neg hactive]
    rfl
  · cases h

/-! ## One contact -/

/-- What showing a contact can do to the spots of a display that holds `capacity`. -/
inductive Arrival (capacity : Nat) (contact : Contact) : List Spot → List Spot → Prop
  | move {before after : List Spot} {s : Spot} (hactive : s.phase = .active contact.id) :
    Arrival capacity contact (before ++ s :: after) (before ++ s.moved contact :: after)
  | join {spots : List Spot} (sprite : SpriteId) (hnew : contact.id ∉ down spots)
    (hroom : spots.length < capacity) :
    Arrival capacity contact spots (spots ++ [(Spot.new contact.id sprite).moved contact])
  | displace {spots others : List Spot} {victim : Spot} (sprite : SpriteId)
    (hnew : contact.id ∉ down spots) (hfull : spots.length = capacity)
    (hvictim : takeVictim spots = some (victim, others)) :
    Arrival capacity contact spots (others ++ [(Spot.new contact.id sprite).moved contact])

/-- A display within its limit, with at most one spot for a contact. -/
structure Roster (capacity : Nat) (spots : List Spot) : Prop where
  length : spots.length ≤ capacity
  distinct : (down spots).Nodup

/-- Spots that fade or go leave a roster a roster. -/
theorem Roster.of_sublist {capacity : Nat} {spots spots' : List Spot}
    (h : Roster capacity spots) (hlength : spots'.length ≤ spots.length)
    (hdown : (down spots').Sublist (down spots)) : Roster capacity spots' :=
  ⟨Nat.le_trans hlength h.length, hdown.nodup h.distinct⟩

/-- With at most one spot for a contact, no spot but its own follows it. -/
theorem apart_of_active {before after : List Spot} {s : Spot} {id : ContactId}
    (hdistinct : (down (before ++ s :: after)).Nodup) (hactive : s.phase = .active id) :
    id ∉ down before ∧ id ∉ down after := by
  have hsplit : (down before ++ ([id] ++ down after)).Nodup := by
    rw [← down_single hactive, ← down_append, ← down_append]
    exact hdistinct
  obtain ⟨-, hback, hapart⟩ := List.nodup_append.mp hsplit
  exact ⟨fun hmem => hapart id hmem id (by simp) rfl, (List.nodup_cons.mp hback).1⟩

theorem not_follows_of_not_mem {spots : List Spot} {id : ContactId} (hnew : id ∉ down spots) :
    ∀ s ∈ spots, s.follows id = false := by
  intro s hs
  apply Bool.eq_false_iff.mpr
  intro hfollows
  exact hnew (mem_down.mpr ⟨s, hs, by simpa [Spot.follows] using hfollows⟩)

/-- With at most one spot for a contact, the spot found is the only one. -/
theorem filter_follows_eq {spots : List Spot} (hdistinct : (down spots).Nodup) {s : Spot}
    {id : ContactId} (hs : s ∈ spots) (hactive : s.phase = .active id) :
    spots.filter (·.follows id) = [s] := by
  have hfollows : s.follows id = true := by simp [Spot.follows, hactive]
  obtain ⟨before, after, rfl⟩ := List.append_of_mem hs
  obtain ⟨hfront, hback⟩ := apart_of_active hdistinct hactive
  have hnone : ∀ {others : List Spot}, id ∉ down others →
      others.filter (·.follows id) = [] := by
    intro others hnew
    apply List.filter_eq_nil_iff.mpr
    intro t ht
    exact Bool.eq_false_iff.mp (not_follows_of_not_mem hnew t ht)
  rw [List.filter_append, List.filter_cons, if_pos hfollows, hnone hfront, hnone hback]
  rfl

/-- Without the displaced spot, the same contacts or one fewer are followed. -/
theorem down_others {spots others : List Spot} {victim : Spot} (hdistinct : (down spots).Nodup)
    (hvictim : takeVictim spots = some (victim, others)) :
    (down others).Nodup ∧ ∀ id ∈ down others, id ∈ down spots := by
  have hperm : (down spots).Perm (down [victim] ++ down others) := by
    rw [← down_append]
    exact (takeVictim_perm hvictim).filterMap _
  obtain ⟨-, hothers, -⟩ := List.nodup_append.mp (hperm.nodup_iff.mp hdistinct)
  exact ⟨hothers, fun id hid => hperm.mem_iff.mpr (List.mem_append_right _ hid)⟩

/-- How a contact takes its place, in terms of phases: it has a place already, or takes
a free one, or that of the first spot that fades, or else that of the first spot. -/
def takePlace (capacity : Nat) (phases : List SpotPhase) (id : ContactId) : List SpotPhase :=
  if .active id ∈ phases then phases
  else if phases.length < capacity then phases ++ [.active id]
  else if .fading ∈ phases then phases.erase .fading ++ [.active id]
  else phases.tail ++ [.active id]

namespace Arrival

variable {capacity : Nat} {contact : Contact} {spots spots' : List Spot}

theorem roster (h : Arrival capacity contact spots spots') (hroster : Roster capacity spots) :
    Roster capacity spots' := by
  obtain ⟨hlength, hdistinct⟩ := hroster
  cases h with
  | move hactive =>
      refine ⟨by simpa using hlength, ?_⟩
      rw [down_move]
      exact hdistinct
  | join sprite hnew hroom =>
      refine ⟨?_, distinct_concat sprite hdistinct hnew⟩
      rw [List.length_append]
      exact hroom
  | displace sprite hnew hfull hvictim =>
      obtain ⟨hothers, hsubset⟩ := down_others hdistinct hvictim
      refine ⟨?_, distinct_concat sprite hothers fun hmem => hnew (hsubset _ hmem)⟩
      have hcount := (takeVictim_perm hvictim).length_eq
      rw [List.length_cons] at hcount
      rw [List.length_append, List.length_singleton]
      omega

/-- The contact is shown where it is. -/
theorem shown (h : Arrival capacity contact spots spots') :
    ∃ s ∈ spots', s.phase = .active contact.id ∧ s.position = contact.position := by
  cases h with
  | @move before after s hactive =>
      exact ⟨s.moved contact, List.mem_append_right _ List.mem_cons_self, hactive, rfl⟩
  | join sprite hnew hroom =>
      exact ⟨_, List.mem_append_right _ (List.mem_singleton_self _), rfl, rfl⟩
  | displace sprite hnew hfull hvictim =>
      exact ⟨_, List.mem_append_right _ (List.mem_singleton_self _), rfl, rfl⟩

/-- The spots that do not follow the contact were there before. -/
theorem mem_of_mem (h : Arrival capacity contact spots spots') {s : Spot} (hs : s ∈ spots')
    (hother : s.phase ≠ .active contact.id) : s ∈ spots := by
  cases h with
  | @move before after t hactive =>
      rcases List.mem_append.mp hs with hbefore | hafter
      · exact List.mem_append_left _ hbefore
      · rcases List.mem_cons.mp hafter with rfl | hafter
        · exact absurd hactive hother
        · exact List.mem_append_right _ (List.mem_cons_of_mem _ hafter)
  | join sprite hnew hroom =>
      rcases List.mem_append.mp hs with hold | hlast
      · exact hold
      · rw [List.mem_singleton.mp hlast] at hother
        exact absurd rfl hother
  | displace sprite hnew hfull hvictim =>
      rcases List.mem_append.mp hs with hold | hlast
      · exact (takeVictim_perm hvictim).mem_iff.mpr (List.mem_cons_of_mem _ hold)
      · rw [List.mem_singleton.mp hlast] at hother
        exact absurd rfl hother

/-- The contact has just one spot, where the contact is. -/
theorem position (h : Arrival capacity contact spots spots') (hroster : Roster capacity spots)
    {s : Spot} (hs : s ∈ spots') (hactive : s.phase = .active contact.id) :
    s.position = contact.position := by
  obtain ⟨t, ht, hshown, hposition⟩ := h.shown
  have hdistinct := (h.roster hroster).distinct
  have hone : [s] = [t] := (filter_follows_eq hdistinct hs hactive).symm.trans
    (filter_follows_eq hdistinct ht hshown)
  cases hone
  exact hposition

/-- Who is followed, and since when, is settled by taking places. -/
theorem phases (h : Arrival capacity contact spots spots') :
    spots'.map (·.phase) = takePlace capacity (spots.map (·.phase)) contact.id := by
  have hplace : contact.id ∉ down spots → .active contact.id ∉ spots.map (·.phase) := by
    intro hnew hmem
    obtain ⟨s, hs, hactive⟩ := List.mem_map.mp hmem
    exact hnew (mem_down.mpr ⟨s, hs, hactive⟩)
  unfold takePlace
  cases h with
  | @move before after s hactive =>
      have hmem : .active contact.id ∈ (before ++ s :: after).map (·.phase) :=
        List.mem_map.mpr ⟨s, List.mem_append_right _ List.mem_cons_self, hactive⟩
      rw [if_pos hmem]
      simp [Spot.moved]
  | join sprite hnew hroom =>
      rw [if_neg (hplace hnew), if_pos (by simpa using hroom)]
      simp [Spot.moved, Spot.new]
  | displace sprite hnew hfull hvictim =>
      rw [if_neg (hplace hnew), if_neg (by simp [hfull]), List.map_append,
        takeVictim_phases hvictim]
      split <;> rfl

/-- A spot that fades goes before one that follows a contact. -/
theorem mem_down_of_mem (h : Arrival capacity contact spots spots')
    (hplace : contact.id ∉ down spots → spots.length = capacity → ∃ s ∈ spots, s.isFading = true)
    {id : ContactId} (hid : id ∈ down spots) : id ∈ down spots' := by
  cases h with
  | move hactive =>
      rw [down_move]
      exact hid
  | join sprite hnew hroom =>
      rw [down_concat]
      exact List.mem_append_left _ hid
  | @displace _ others victim sprite hnew hfull hvictim =>
      have hgoes : victim.isFading = true := by
        cases hvictim' : victim.isFading with
        | true => rfl
        | false =>
            obtain ⟨s, hs, hfading⟩ := hplace hnew hfull
            exact absurd hfading (Bool.eq_false_iff.mp (takeVictim_active hvictim hvictim' s hs))
      obtain ⟨s, hs, hactive⟩ := mem_down.mp hid
      rw [down_concat]
      refine List.mem_append_left _ (mem_down.mpr ⟨s, ?_, hactive⟩)
      rcases List.mem_cons.mp ((takeVictim_perm hvictim).mem_iff.mp hs) with rfl | hmem
      · simp [Spot.isFading, hactive] at hgoes
      · exact hmem

/-- Nobody else is followed afterwards who was not before. -/
theorem eq_or_mem_down (h : Arrival capacity contact spots spots') {id : ContactId}
    (hid : id ∈ down spots') : id = contact.id ∨ id ∈ down spots := by
  obtain ⟨s, hs, hactive⟩ := mem_down.mp hid
  by_cases hown : id = contact.id
  · exact .inl hown
  · refine .inr (mem_down.mpr ⟨s, h.mem_of_mem hs fun heq => ?_, hactive⟩)
    rw [hactive] at heq
    cases heq
    exact hown rfl

end Arrival

/-! ## How a contact arrives -/

theorem moveSpot_fst (scale : Single) (icons : SpotIcons) (display : DisplayId)
    (contact : Contact) (spot : Spot) (surface : Surface) :
    (moveSpot scale icons display contact spot surface).1 = spot.moved contact := by
  unfold moveSpot
  dsimp only
  split <;> rfl

section

variable {pool : SpotPool} {icons : SpotIcons} {display : DisplayId} {contact : Contact}

theorem moveFollower_eq_some :
    ∀ {spots spots' : List Spot} {surface surface' : Surface},
      moveFollower pool.scale icons display contact spots surface = some (spots', surface') →
      ∃ before s after, spots = before ++ s :: after ∧ s.phase = .active contact.id ∧
        spots' = before ++ s.moved contact :: after ∧
        surface' = (moveSpot pool.scale icons display contact s surface).2 := by
  intro spots
  induction spots with
  | nil => intro spots' surface surface' h; cases h
  | cons s rest ih =>
      intro spots' surface surface' h
      unfold moveFollower at h
      split at h
      · rename_i hfollows
        have hactive : s.phase = .active contact.id := by simpa [Spot.follows] using hfollows
        dsimp only at h
        rw [moveSpot_fst] at h
        cases h
        exact ⟨[], s, rest, rfl, hactive, rfl, rfl⟩
      · obtain ⟨⟨others, left⟩, hrest, heq⟩ := Option.map_eq_some_iff.mp h
        cases heq
        obtain ⟨before, t, after, rfl, hactive, rfl, hsurface⟩ := ih hrest
        exact ⟨s :: before, t, after, rfl, hactive, rfl, hsurface⟩

theorem moveFollower_eq_none :
    ∀ {spots : List Spot} {surface : Surface},
      moveFollower pool.scale icons display contact spots surface = none →
      contact.id ∉ down spots := by
  intro spots
  induction spots with
  | nil => intro surface _ hmem; cases hmem
  | cons s rest ih =>
      intro surface h
      unfold moveFollower at h
      split at h
      · cases h
      · rename_i hfollows
        intro hmem
        obtain ⟨t, ht, hactive⟩ := mem_down.mp hmem
        rcases List.mem_cons.mp ht with rfl | ht
        · exact hfollows (by simpa [Spot.follows] using hactive)
        · exact ih (Option.map_eq_none_iff.mp h) (mem_down.mpr ⟨t, ht, hactive⟩)

theorem makeRoom_of_room {capacity rounds : Nat} {spots : List Spot} (stock : SpriteStock)
    (hroom : spots.length < capacity) :
    makeRoom capacity rounds spots stock = (spots, stock) := by
  cases rounds with
  | zero => rfl
  | succ rounds => rw [makeRoom, if_pos hroom]

/-- A display at its limit makes room for one spot by displacing one. -/
theorem makeRoom_of_full {spots : List Spot} (stock : SpriteStock) (hsome : 0 < spots.length) :
    ∃ victim others, takeVictim spots = some (victim, others) ∧
      makeRoom spots.length spots.length spots stock =
        (others, stock.giveBack victim.sprite) := by
  obtain ⟨victim, others, hvictim⟩ := exists_takeVictim hsome
  have hcount := (takeVictim_perm hvictim).length_eq
  rw [List.length_cons] at hcount
  refine ⟨victim, others, hvictim, ?_⟩
  rw [hcount, makeRoom, if_neg (by omega), hvictim]
  exact makeRoom_of_room _ (by omega)

theorem showContact_arrival (hpositive : 1 ≤ pool.maxSpots) {spots : List Spot}
    {stock : SpriteStock} (hlength : spots.length ≤ pool.maxSpots) :
    Arrival pool.maxSpots contact spots
      (pool.showContact icons display contact spots stock).1 := by
  unfold showContact
  split
  · rename_i spots' surface' hmove
    obtain ⟨before, s, after, rfl, hactive, rfl, -⟩ := moveFollower_eq_some hmove
    exact .move hactive
  · rename_i hmove
    have hnew := moveFollower_eq_none hmove
    dsimp only
    rw [moveSpot_fst]
    rcases Nat.lt_or_eq_of_le hlength with hroom | hfull
    · rw [makeRoom_of_room stock hroom]
      exact .join _ hnew hroom
    · obtain ⟨victim, others, hvictim, hmake⟩ := makeRoom_of_full stock (hfull ▸ hpositive)
      rw [← hfull, hmake, hfull]
      exact .displace _ hnew hfull hvictim

theorem showContacts_roster (hpositive : 1 ≤ pool.maxSpots) :
    ∀ (contacts : List Contact) {spots : List Spot} {stock : SpriteStock},
      Roster pool.maxSpots spots →
      Roster pool.maxSpots (pool.showContacts icons display contacts spots stock).1 := by
  intro contacts
  induction contacts with
  | nil => intro spots stock h; exact h
  | cons contact rest ih =>
      intro spots stock h
      exact ih ((showContact_arrival hpositive h.length).roster h)

theorem mem_of_mem_makeRoom {capacity : Nat} {s : Spot} :
    ∀ (rounds : Nat) {spots : List Spot} {stock : SpriteStock},
      s ∈ (makeRoom capacity rounds spots stock).1 → s ∈ spots := by
  intro rounds
  induction rounds with
  | zero => intro spots stock hs; exact hs
  | succ rounds ih =>
      intro spots stock hs
      unfold makeRoom at hs
      split at hs
      · exact hs
      · split at hs
        · exact hs
        · rename_i victim others hvictim
          exact (takeVictim_perm hvictim).mem_iff.mpr (List.mem_cons_of_mem _ (ih hs))

/-- Showing contacts makes no spot fade, whatever the limit. -/
theorem showContacts_fading {s : Spot} (hs : s.isFading = true) :
    ∀ (contacts : List Contact) {spots : List Spot} {stock : SpriteStock},
      s ∈ (pool.showContacts icons display contacts spots stock).1 → s ∈ spots := by
  have hmoved : ∀ (t : Spot) (contact : Contact), t.phase = .active contact.id →
      s ≠ t.moved contact := by
    rintro t contact hactive rfl
    simp [Spot.isFading, Spot.moved, hactive] at hs
  intro contacts
  induction contacts with
  | nil => intro spots stock hmem; exact hmem
  | cons contact rest ih =>
      intro spots stock hmem
      have hone : s ∈ (pool.showContact icons display contact spots stock).1 := ih hmem
      unfold showContact at hone
      split at hone
      · rename_i spots' surface' hmove
        obtain ⟨before, t, after, rfl, hactive, rfl, -⟩ := moveFollower_eq_some hmove
        rcases List.mem_append.mp hone with hbefore | hafter
        · exact List.mem_append_left _ hbefore
        · rcases List.mem_cons.mp hafter with heq | hafter
          · exact absurd heq (hmoved t contact hactive)
          · exact List.mem_append_right _ (List.mem_cons_of_mem _ hafter)
      · dsimp only at hone
        rw [moveSpot_fst] at hone
        rcases List.mem_append.mp hone with hold | hlast
        · exact mem_of_mem_makeRoom _ hold
        · exact absurd (List.mem_singleton.mp hlast) (hmoved _ contact rfl)

end

end SpotPool

end ScreenPointer
