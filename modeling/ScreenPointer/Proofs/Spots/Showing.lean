/-
# What a report of contacts shows

After a report a display should have one spot for each listed contact, where the
list last says it is, and everything else should fade.  Contacts take places
while the spots of lifted contacts still hold theirs, so a contact of the list
may be the first to go.  A report shows everything exactly when all its contacts
keep their places, which can be told from the phases of the spots and the order
of the list alone, and is certain while the contacts followed so far and those of
the list fit on the display together.
-/

import Mathlib.Data.Finset.Dedup
import Mathlib.Data.Finset.Card
import ScreenPointer.Proofs.Spots.Pool

namespace ScreenPointer

/-- Where a list of contacts last says that a contact is. -/
def lastPosition? (contacts : List Contact) (id : ContactId) : Option Point :=
  (contacts.filter fun c => c.id = id).getLast?.map (·.position)

namespace SpotPool

/-- Every listed contact has exactly one spot, at its last place, and every other spot is
fading. -/
structure ShowsAll (contacts : List Contact) (spots : List Spot) : Prop where
  shown : ∀ c ∈ contacts, ∃ s, spots.filter (·.follows c.id) = [s] ∧
    lastPosition? contacts c.id = some s.position
  others : ∀ s ∈ spots, (∀ c ∈ contacts, s.follows c.id = false) → s.isFading = true

/-- When all contacts of a list have come, one after another, each of them has a place. -/
def KeepPlaces (capacity : Nat) (phases : List SpotPhase) (ids : List ContactId) : Prop :=
  ∀ id ∈ ids, .active id ∈ ids.foldl (takePlace capacity) phases

instance (capacity : Nat) (phases : List SpotPhase) (ids : List ContactId) :
    Decidable (KeepPlaces capacity phases ids) :=
  inferInstanceAs (Decidable (∀ id ∈ ids, _))

/-! ## Lists of contacts -/

theorem exists_last_split {contacts : List Contact} {id : ContactId}
    (h : id ∈ contacts.map (·.id)) :
    ∃ earlier c later, contacts = earlier ++ c :: later ∧ c.id = id ∧ id ∉ later.map (·.id) := by
  induction contacts with
  | nil => cases h
  | cons first rest ih =>
      by_cases hrest : id ∈ rest.map (·.id)
      · obtain ⟨earlier, c, later, rfl, hid, hlast⟩ := ih hrest
        exact ⟨first :: earlier, c, later, rfl, hid, hlast⟩
      · have hfirst : id = first.id := (List.mem_cons.mp h).resolve_right hrest
        exact ⟨[], first, rest, rfl, hfirst.symm, hrest⟩

theorem lastPosition?_of_split {earlier later : List Contact} {c : Contact}
    (hlast : c.id ∉ later.map (·.id)) :
    lastPosition? (earlier ++ c :: later) c.id = some c.position := by
  have hnone : later.filter (fun other => decide (other.id = c.id)) = [] := by
    apply List.filter_eq_nil_iff.mpr
    intro other hother
    have hne : other.id ≠ c.id := fun heq => hlast (List.mem_map.mpr ⟨other, hother, heq⟩)
    simpa using hne
  simp [lastPosition?, hnone]

/-! ## Following a contact through a report -/

section

variable {pool : SpotPool} {icons : SpotIcons} {display : DisplayId}

theorem showContacts_append (first second : List Contact) (spots : List Spot)
    (stock : SpriteStock) :
    pool.showContacts icons display (first ++ second) spots stock =
      pool.showContacts icons display second
        (pool.showContacts icons display first spots stock).1
        (pool.showContacts icons display first spots stock).2 := by
  induction first generalizing spots stock with
  | nil => rfl
  | cons c rest ih => exact ih _ _

/-- Whom a report follows in the end is settled by taking places, one after another. -/
theorem showContacts_phases (hpositive : 1 ≤ pool.maxSpots) :
    ∀ (contacts : List Contact) {spots : List Spot} {stock : SpriteStock},
      Roster pool.maxSpots spots →
      (pool.showContacts icons display contacts spots stock).1.map (·.phase) =
        (contacts.map (·.id)).foldl (takePlace pool.maxSpots) (spots.map (·.phase)) := by
  intro contacts
  induction contacts with
  | nil => intro spots stock _; rfl
  | cons c rest ih =>
      intro spots stock hroster
      have harrival : Arrival pool.maxSpots c spots
          (pool.showContact icons display c spots stock).1 :=
        showContact_arrival hpositive hroster.length
      rw [List.map_cons, List.foldl_cons, ← harrival.phases]
      exact ih (harrival.roster hroster)

/-- A spot whose contact is not listed was there before. -/
theorem mem_of_mem_showContacts (hpositive : 1 ≤ pool.maxSpots) {s : Spot} {id : ContactId}
    (hactive : s.phase = .active id) :
    ∀ (contacts : List Contact) {spots : List Spot} {stock : SpriteStock},
      Roster pool.maxSpots spots → id ∉ contacts.map (·.id) →
      s ∈ (pool.showContacts icons display contacts spots stock).1 → s ∈ spots := by
  intro contacts
  induction contacts with
  | nil => intro spots stock _ _ hs; exact hs
  | cons c rest ih =>
      intro spots stock hroster hother hs
      obtain ⟨hne, hrest⟩ := not_or.mp (mt List.mem_cons.mpr hother)
      have harrival : Arrival pool.maxSpots c spots
          (pool.showContact icons display c spots stock).1 :=
        showContact_arrival hpositive hroster.length
      refine harrival.mem_of_mem (ih (harrival.roster hroster) hrest hs) fun heq => ?_
      rw [hactive] at heq
      cases heq
      exact hne rfl

/-- The spot of a listed contact is where the list last says the contact is: nothing
moves it after that. -/
theorem position_of_mem_showContacts (hpositive : 1 ≤ pool.maxSpots) {contacts : List Contact}
    {spots : List Spot} {stock : SpriteStock} (hroster : Roster pool.maxSpots spots) {s : Spot}
    {id : ContactId} (hlisted : id ∈ contacts.map (·.id))
    (hs : s ∈ (pool.showContacts icons display contacts spots stock).1)
    (hactive : s.phase = .active id) : lastPosition? contacts id = some s.position := by
  obtain ⟨earlier, c, later, rfl, rfl, hlast⟩ := exists_last_split hlisted
  have hfirst : Roster pool.maxSpots (pool.showContacts icons display earlier spots stock).1 :=
    showContacts_roster hpositive earlier hroster
  rw [showContacts_append] at hs
  have harrival : Arrival pool.maxSpots c
      (pool.showContacts icons display earlier spots stock).1
      (pool.showContact icons display c
        (pool.showContacts icons display earlier spots stock).1
        (pool.showContacts icons display earlier spots stock).2).1 :=
    showContact_arrival hpositive hfirst.length
  have hmoved := mem_of_mem_showContacts hpositive hactive later (harrival.roster hfirst) hlast hs
  rw [harrival.position hfirst hmoved hactive]
  exact lastPosition?_of_split hlast

/-! ## When everything is shown -/

theorem isLifted_of_listed {contacts : List Contact} {s : Spot} {id : ContactId}
    (hactive : s.phase = .active id) (hlisted : id ∈ contacts.map (·.id)) :
    isLifted contacts s = false := by
  obtain ⟨c, hc, rfl⟩ := List.mem_map.mp hlisted
  have hany : contacts.any (fun other => decide (other.id = c.id)) = true :=
    List.any_eq_true.mpr ⟨c, hc, by simp⟩
  simp [isLifted, hactive, hany]

theorem fadeIfLifted_of_listed {contacts : List Contact} {s : Spot} {id : ContactId}
    (hactive : s.phase = .active id) (hlisted : id ∈ contacts.map (·.id)) :
    fadeIfLifted contacts s = s := by
  rw [fadeIfLifted, isLifted_of_listed hactive hlisted]
  rfl

/-- After lifted contacts were let go, only listed ones are followed, by spots that were
shown. -/
theorem listed_of_active {contacts : List Contact} {s : Spot} {id : ContactId}
    (hactive : (fadeIfLifted contacts s).phase = .active id) :
    s.phase = .active id ∧ id ∈ contacts.map (·.id) := by
  unfold fadeIfLifted at hactive
  split at hactive
  · cases hactive
  · rename_i hkept
    refine ⟨hactive, ?_⟩
    simp only [isLifted, hactive, Bool.not_eq_true', Bool.not_eq_false, List.any_eq_true,
      decide_eq_true_eq] at hkept
    obtain ⟨c, hc, hid⟩ := hkept
    exact List.mem_map.mpr ⟨c, hc, hid⟩

/-- A report shows all its contacts exactly when they all keep their places. -/
theorem update_showsAll_iff (hpositive : 1 ≤ pool.maxSpots) (contacts : List Contact)
    (surface : Surface) (hroster : Roster pool.maxSpots (pool.spots display)) :
    ShowsAll contacts ((pool.update contacts display icons surface).2.1.spots display) ↔
      KeepPlaces pool.maxSpots ((pool.spots display).map (·.phase)) (contacts.map (·.id)) := by
  have hspots : (pool.update contacts display icons surface).2.1.spots display =
      (pool.showContacts icons display contacts (pool.spots display)
        (pool.stock surface)).1.map (fadeIfLifted contacts) :=
    spots_setSpots_self pool display _
  have hphases : (pool.showContacts icons display contacts (pool.spots display)
      (pool.stock surface)).1.map (·.phase) = (contacts.map (·.id)).foldl
        (takePlace pool.maxSpots) ((pool.spots display).map (·.phase)) :=
    showContacts_phases hpositive contacts hroster
  have hshown : Roster pool.maxSpots ((pool.showContacts icons display contacts
      (pool.spots display) (pool.stock surface)).1.map (fadeIfLifted contacts)) :=
    (showContacts_roster hpositive contacts hroster).map (fadeIfLifted_phase contacts)
  unfold KeepPlaces
  rw [hspots, ← hphases]
  constructor
  · intro hall id hlisted
    obtain ⟨c, hc, rfl⟩ := List.mem_map.mp hlisted
    obtain ⟨s, hs, -⟩ := hall.shown c hc
    obtain ⟨hmem, hfollows⟩ := List.mem_filter.mp (hs ▸ List.mem_singleton_self s)
    obtain ⟨t, ht, rfl⟩ := List.mem_map.mp hmem
    have hactive : (fadeIfLifted contacts t).phase = .active c.id := by
      simpa [Spot.follows] using hfollows
    exact List.mem_map.mpr ⟨t, ht, (listed_of_active hactive).1⟩
  · intro hkept
    refine ⟨fun c hc => ?_, fun s hs hnone => ?_⟩
    · have hlisted : c.id ∈ contacts.map (·.id) := List.mem_map.mpr ⟨c, hc, rfl⟩
      obtain ⟨s, hs, hactive⟩ := List.mem_map.mp (hkept c.id hlisted)
      have hstays : s ∈ (pool.showContacts icons display contacts (pool.spots display)
          (pool.stock surface)).1.map (fadeIfLifted contacts) :=
        List.mem_map.mpr ⟨s, hs, fadeIfLifted_of_listed hactive hlisted⟩
      exact ⟨s, filter_follows_eq hshown.distinct hstays hactive,
        position_of_mem_showContacts hpositive hroster hlisted hs hactive⟩
    · obtain ⟨t, -, rfl⟩ := List.mem_map.mp hs
      cases hphase : (fadeIfLifted contacts t).phase with
      | fading => simp [Spot.isFading, hphase]
      | active id =>
          obtain ⟨c, hc, hid⟩ := List.mem_map.mp (listed_of_active hphase).2
          have hother := hnone c hc
          simp [Spot.follows, hphase, hid] at hother

-- The contact listed first loses its place, although another one was lifted; in the other
-- order both find a place.
example : ¬ KeepPlaces 2 [.active ⟨1⟩, .active ⟨2⟩] [⟨1⟩, ⟨3⟩] := by decide
example : KeepPlaces 2 [.active ⟨1⟩, .active ⟨2⟩] [⟨3⟩, ⟨1⟩] := by decide

/-! ## Contacts that fit together -/

theorem length_down_of_active {spots : List Spot} (hall : ∀ s ∈ spots, s.isFading = false) :
    (down spots).length = spots.length := by
  induction spots with
  | nil => rfl
  | cons s rest ih =>
      obtain ⟨hs, hrest⟩ := List.forall_mem_cons.mp hall
      cases hphase : s.phase with
      | fading => simp [Spot.isFading, hphase] at hs
      | active id =>
          have hcons : down (s :: rest) = id :: down rest := by
            simp [down, hphase, SpotPhase.contact?]
          rw [hcons, List.length_cons, List.length_cons, ih hrest]

/-- A full display without a spot for a contact has one that fades, if all its contacts and
this one fit. -/
theorem exists_fading_of_fit {capacity : Nat} {spots : List Spot} {ids : Finset ContactId}
    {id : ContactId} (hfit : ids.card ≤ capacity) (hdistinct : (down spots).Nodup)
    (hdown : ∀ other ∈ down spots, other ∈ ids) (hid : id ∈ ids) (hnew : id ∉ down spots)
    (hfull : spots.length = capacity) : ∃ s ∈ spots, s.isFading = true := by
  by_contra hnone
  have hall : ∀ s ∈ spots, s.isFading = false := by
    intro s hs
    exact Bool.eq_false_iff.mpr fun hfading => hnone ⟨s, hs, hfading⟩
  have hsubset : (id :: down spots).toFinset ⊆ ids := by
    intro other hother
    rcases List.mem_cons.mp (List.mem_toFinset.mp hother) with rfl | hmem
    · exact hid
    · exact hdown other hmem
  have hcount := List.toFinset_card_of_nodup (List.nodup_cons.mpr ⟨hnew, hdistinct⟩)
  have hle := (Finset.card_le_card hsubset).trans hfit
  rw [hcount, List.length_cons, length_down_of_active hall, hfull] at hle
  exact Nat.not_succ_le_self _ hle

/-- While all contacts fit together nobody who is followed or listed goes. -/
theorem mem_down_showContacts_of_fit (hpositive : 1 ≤ pool.maxSpots) {ids : Finset ContactId}
    (hfit : ids.card ≤ pool.maxSpots) {id : ContactId} :
    ∀ (contacts : List Contact) {spots : List Spot} {stock : SpriteStock},
      Roster pool.maxSpots spots → (∀ other ∈ down spots, other ∈ ids) →
      (∀ c ∈ contacts, c.id ∈ ids) → id ∈ down spots ∨ id ∈ contacts.map (·.id) →
      id ∈ down (pool.showContacts icons display contacts spots stock).1 := by
  intro contacts
  induction contacts with
  | nil =>
      intro spots stock _ _ _ hid
      exact hid.resolve_right List.not_mem_nil
  | cons c rest ih =>
      intro spots stock hroster hdown hlisted hid
      obtain ⟨hc, hrest⟩ := List.forall_mem_cons.mp hlisted
      have harrival : Arrival pool.maxSpots c spots
          (pool.showContact icons display c spots stock).1 :=
        showContact_arrival hpositive hroster.length
      have hown : c.id ∈ down (pool.showContact icons display c spots stock).1 := by
        obtain ⟨s, hs, hactive, -⟩ := harrival.shown
        exact mem_down.mpr ⟨s, hs, hactive⟩
      apply ih (harrival.roster hroster) _ hrest
      · rcases hid with hfollowed | hlater
        · exact .inl (harrival.mem_down_of_mem
            (exists_fading_of_fit hfit hroster.distinct hdown hc) hfollowed)
        · rcases List.mem_cons.mp hlater with rfl | hlater
          · exact .inl hown
          · exact .inr hlater
      · intro other hother
        rcases harrival.eq_or_mem_down hother with rfl | hbefore
        · exact hc
        · exact hdown other hbefore

/-- A report shows all its contacts if they and those followed before fit on the display
together. -/
theorem update_showsAll_of_fit (hpositive : 1 ≤ pool.maxSpots) {contacts : List Contact}
    (surface : Surface) (hroster : Roster pool.maxSpots (pool.spots display))
    (hfit : (down (pool.spots display) ++ contacts.map (·.id)).toFinset.card ≤ pool.maxSpots) :
    ShowsAll contacts ((pool.update contacts display icons surface).2.1.spots display) := by
  have hphases : (pool.showContacts icons display contacts (pool.spots display)
      (pool.stock surface)).1.map (·.phase) = (contacts.map (·.id)).foldl
        (takePlace pool.maxSpots) ((pool.spots display).map (·.phase)) :=
    showContacts_phases hpositive contacts hroster
  apply (update_showsAll_iff hpositive contacts surface hroster).mpr
  intro id hid
  have hdown : id ∈ down (pool.showContacts icons display contacts (pool.spots display)
      (pool.stock surface)).1 := by
    apply mem_down_showContacts_of_fit hpositive hfit contacts hroster
    · intro other hother
      exact List.mem_toFinset.mpr (List.mem_append_left _ hother)
    · intro c hc
      exact List.mem_toFinset.mpr
        (List.mem_append_right _ (List.mem_map.mpr ⟨c, hc, rfl⟩))
    · exact .inr hid
  obtain ⟨s, hs, hactive⟩ := mem_down.mp hdown
  rw [← hphases]
  exact List.mem_map.mpr ⟨s, hs, hactive⟩

end

end SpotPool

end ScreenPointer
