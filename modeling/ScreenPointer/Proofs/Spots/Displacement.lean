/-
# Which spots a report keeps

A report goes through its contacts one after another, and each may displace a
spot that an earlier one moved or made.  So that a spot can be told from another
that looks the same, spots have ranks: those of the display come first, in their
order, and then those made for contacts, in the order of the contacts.  A report
leaves spots by rising rank, and what a spot has become can be told from its rank
alone.
-/

import Mathlib.Data.List.Basic
import ScreenPointer.Proofs.Spots.Showing

namespace ScreenPointer

namespace Spot

/-- A spot when a contact has been shown: it moves if it follows this contact. -/
def follow (contact : Contact) (s : Spot) : Spot :=
  if s.follows contact.id then s.moved contact else s

def followAll (contacts : List Contact) (s : Spot) : Spot :=
  contacts.foldl (fun s contact => s.follow contact) s

variable {s : Spot} {contact : Contact} {contacts : List Contact}

@[simp]
theorem follow_phase (contact : Contact) (s : Spot) : (s.follow contact).phase = s.phase := by
  unfold follow
  split <;> rfl

@[simp]
theorem follow_sprite (contact : Contact) (s : Spot) : (s.follow contact).sprite = s.sprite := by
  unfold follow
  split <;> rfl

theorem follow_of_not_follows (h : s.follows contact.id = false) : s.follow contact = s := by
  rw [follow, h]
  rfl

theorem follow_of_active (h : s.phase = .active contact.id) :
    s.follow contact = s.moved contact := by
  rw [follow, if_pos (by simp [follows, h])]

theorem follows_eq_false_of_fading {id : ContactId} (h : s.isFading = true) :
    s.follows id = false := by
  have hphase : s.phase = .fading := by simpa [isFading] using h
  simp [follows, hphase]

theorem followAll_append (first second : List Contact) (s : Spot) :
    s.followAll (first ++ second) = (s.followAll first).followAll second :=
  List.foldl_append

@[simp]
theorem followAll_phase (contacts : List Contact) (s : Spot) :
    (s.followAll contacts).phase = s.phase := by
  induction contacts generalizing s with
  | nil => rfl
  | cons contact rest ih => exact (ih (s.follow contact)).trans (follow_phase contact s)

@[simp]
theorem followAll_sprite (contacts : List Contact) (s : Spot) :
    (s.followAll contacts).sprite = s.sprite := by
  induction contacts generalizing s with
  | nil => rfl
  | cons contact rest ih => exact (ih (s.follow contact)).trans (follow_sprite contact s)

theorem followAll_of_fading (h : s.isFading = true) : s.followAll contacts = s := by
  induction contacts with
  | nil => rfl
  | cons contact rest ih =>
      have hstays : s.follow contact = s := follow_of_not_follows (follows_eq_false_of_fading h)
      rw [followAll, List.foldl_cons, hstays]
      exact ih

end Spot

namespace SpotPool

variable {capacity : Nat} {contact : Contact} {spots spots' others : List Spot} {victim : Spot}

/-- A contact without a spot moves none. -/
theorem map_follow_of_not_mem (hnew : contact.id ∉ down spots) :
    spots.map (·.follow contact) = spots := by
  apply (List.map_congr_left _).trans (List.map_id' spots)
  intro s hs
  exact Spot.follow_of_not_follows (not_follows_of_not_mem hnew s hs)

/-- With at most one spot for a contact, it moves that one. -/
theorem map_follow_of_active {before after : List Spot} {s : Spot}
    (hdistinct : (down (before ++ s :: after)).Nodup) (hactive : s.phase = .active contact.id) :
    (before ++ s :: after).map (·.follow contact) = before ++ s.moved contact :: after := by
  obtain ⟨hbefore, hafter⟩ := apart_of_active hdistinct hactive
  rw [List.map_append, List.map_cons, map_follow_of_not_mem hbefore,
    map_follow_of_not_mem hafter, Spot.follow_of_active hactive]

/-! ## The victim -/

/-- The spot to go is the first one that fades, or the first of all if none fades. -/
def GoesFirst (before : List Spot) (victim : Spot) (after : List Spot) : Prop :=
  (victim.isFading = true ∧ ∀ s ∈ before, s.isFading = false) ∨
    (before = [] ∧ ∀ s ∈ victim :: after, s.isFading = false)

theorem takeFading_eq_some (h : takeFading spots = some (victim, others)) :
    ∃ before after, spots = before ++ victim :: after ∧ others = before ++ after ∧
      ∀ s ∈ before, s.isFading = false := by
  induction spots generalizing others with
  | nil => cases h
  | cons s rest ih =>
      unfold takeFading at h
      split at h
      · cases h
        exact ⟨[], rest, rfl, rfl, by simp⟩
      · rename_i hactive
        obtain ⟨⟨v, kept⟩, hrest, heq⟩ := Option.map_eq_some_iff.mp h
        cases heq
        obtain ⟨before, after, rfl, rfl, hbefore⟩ := ih hrest
        exact ⟨s :: before, after, rfl, rfl,
          List.forall_mem_cons.mpr ⟨Bool.eq_false_iff.mpr hactive, hbefore⟩⟩

theorem takeVictim_eq_some (h : takeVictim spots = some (victim, others)) :
    ∃ before after, spots = before ++ victim :: after ∧ others = before ++ after ∧
      GoesFirst before victim after := by
  unfold takeVictim at h
  split at h
  · rename_i found hfound
    cases h
    obtain ⟨before, after, hspots, hothers, hbefore⟩ := takeFading_eq_some hfound
    exact ⟨before, after, hspots, hothers, .inl ⟨takeFading_isFading hfound, hbefore⟩⟩
  · rename_i oldest rest hnone
    cases h
    exact ⟨[], _, rfl, rfl, .inr ⟨rfl, takeFading_eq_none hnone⟩⟩
  · cases h

/-! ## One contact -/

/-- How a contact takes its place among the spots of a display that holds `capacity`. -/
structure TakesPlace (capacity : Nat) (contact : Contact) (spots spots' : List Spot) : Prop where
  within : spots.length ≤ capacity
  /-- The spot of a contact moves, and all others stay. -/
  moves : contact.id ∈ down spots → spots' = spots.map (·.follow contact)
  /-- A new spot comes last. -/
  joins : contact.id ∉ down spots → spots.length < capacity →
    ∃ sprite, spots' = spots ++ [(Spot.new contact.id sprite).moved contact]
  /-- Where there is no room for it, just one other spot goes. -/
  displaces : contact.id ∉ down spots → spots.length = capacity →
    ∃ before victim after sprite, spots = before ++ victim :: after ∧
      GoesFirst before victim after ∧
      spots' = before ++ after ++ [(Spot.new contact.id sprite).moved contact]

theorem Arrival.takesPlace (h : Arrival capacity contact spots spots')
    (hroster : Roster capacity spots) : TakesPlace capacity contact spots spots' := by
  obtain ⟨hlength, hdistinct⟩ := hroster
  cases h with
  | @move before after s hactive =>
      have hown : contact.id ∈ down (before ++ s :: after) :=
        mem_down.mpr ⟨s, List.mem_append_right _ List.mem_cons_self, hactive⟩
      exact ⟨hlength, fun _ => (map_follow_of_active hdistinct hactive).symm,
        fun hnew => absurd hown hnew, fun hnew => absurd hown hnew⟩
  | join sprite hnew hroom =>
      exact ⟨hlength, fun hown => absurd hown hnew, fun _ _ => ⟨sprite, rfl⟩,
        fun _ hfull => absurd hfull (Nat.ne_of_lt hroom)⟩
  | displace sprite hnew hfull hvictim =>
      refine ⟨hlength, fun hown => absurd hown hnew,
        fun _ hroom => absurd hfull (Nat.ne_of_lt hroom), fun _ _ => ?_⟩
      obtain ⟨before, after, hspots, rfl, hfirst⟩ := takeVictim_eq_some hvictim
      exact ⟨before, _, after, sprite, hspots, hfirst, rfl⟩

/-- Whatever a contact does, the spots that stay keep their order, and at most one comes
after them. -/
theorem TakesPlace.exists_stayed (h : TakesPlace capacity contact spots spots') :
    ∃ stayed made : List Spot, stayed.Sublist spots ∧ spots' = stayed.map (·.follow contact) ++ made ∧
      (made = [] ∨ contact.id ∉ down spots ∧
        ∃ sprite, made = [(Spot.new contact.id sprite).moved contact]) := by
  by_cases hown : contact.id ∈ down spots
  · exact ⟨spots, [], List.Sublist.refl _, by rw [h.moves hown, List.append_nil], .inl rfl⟩
  rcases Nat.lt_or_eq_of_le h.within with hroom | hfull
  · obtain ⟨sprite, rfl⟩ := h.joins hown hroom
    exact ⟨spots, _, List.Sublist.refl _, by rw [map_follow_of_not_mem hown],
      .inr ⟨hown, sprite, rfl⟩⟩
  · obtain ⟨before, victim, after, sprite, hspots, -, rfl⟩ := h.displaces hown hfull
    have hstay : (before ++ after).Sublist spots := by
      rw [hspots]
      exact (List.sublist_cons_self victim after).append_left before
    have hothers : contact.id ∉ down (before ++ after) :=
      fun hmem => hown ((hstay.filterMap _).subset hmem)
    exact ⟨before ++ after, _, hstay, by rw [map_follow_of_not_mem hothers],
      .inr ⟨hown, sprite, rfl⟩⟩

/-! ## Ranks -/

section

variable {pool : SpotPool} {icons : SpotIcons} {display : DisplayId} {stock : SpriteStock}
  {contacts earlier : List Contact}

/-- What a spot of this rank has become when contacts have been shown.  It was on the old list,
or it was made for a contact that had no spot when its turn came, on the list that the contacts
before it had left by `shown`. -/
inductive Stems (shown : List Contact → List Spot) (old : List Spot) (contacts : List Contact) :
    Nat → Spot → Prop
  | old {rank : Nat} {s : Spot} (hold : old[rank]? = some s) :
    Stems shown old contacts rank (s.followAll contacts)
  | made {earlier later : List Contact} {c : Contact} (sprite : SpriteId)
    (hcontacts : contacts = earlier ++ c :: later) (hnew : c.id ∉ down (shown earlier)) :
    Stems shown old contacts (old.length + earlier.length)
      (((Spot.new c.id sprite).moved c).followAll later)

namespace Stems

variable {shown : List Contact → List Spot} {old : List Spot} {rank : Nat} {s t : Spot}

theorem rank_lt (h : Stems shown old contacts rank s) :
    rank < old.length + contacts.length := by
  cases h with
  | old hold =>
      obtain ⟨hlt, -⟩ := List.getElem?_eq_some_iff.mp hold
      exact Nat.lt_add_right _ hlt
  | made sprite hcontacts hnew =>
      have hlength := congrArg List.length hcontacts
      rw [List.length_append, List.length_cons] at hlength
      omega

/-- One more contact may move the spot. -/
theorem concat (h : Stems shown old earlier rank s) (contact : Contact) :
    Stems shown old (earlier ++ [contact]) rank (s.follow contact) := by
  cases h with
  | @old _ t hold =>
      have hmoved : Stems shown old (earlier ++ [contact]) rank
          (t.followAll (earlier ++ [contact])) := .old hold
      rwa [Spot.followAll_append] at hmoved
  | @made first later c sprite hcontacts hnew =>
      have hlonger : earlier ++ [contact] = first ++ c :: (later ++ [contact]) := by
        rw [hcontacts, List.append_assoc]
        rfl
      have hmoved : Stems shown old (earlier ++ [contact]) (old.length + first.length)
          (((Spot.new c.id sprite).moved c).followAll (later ++ [contact])) :=
        .made sprite hlonger hnew
      rwa [Spot.followAll_append] at hmoved

/-- The spot of a rank that was there before is that spot. -/
theorem eq_followAll (h : Stems shown old contacts rank s) (hold : old[rank]? = some t) :
    s = t.followAll contacts := by
  cases h with
  | old hold' =>
      rw [hold] at hold'
      cases hold'
      rfl
  | made sprite hcontacts hnew =>
      rw [List.getElem?_eq_none (Nat.le_add_right _ _)] at hold
      cases hold

/-- A spot whose contact was lifted was there before. -/
theorem exists_of_lifted (h : Stems shown old contacts rank s)
    (hlifted : isLifted contacts s = true) :
    ∃ t, old[rank]? = some t ∧ t.phase = s.phase := by
  cases h with
  | @old _ t hold => exact ⟨t, hold, (Spot.followAll_phase _ t).symm⟩
  | @made first later c sprite hcontacts hnew =>
      have hlisted : c.id ∈ contacts.map (·.id) := by simp [hcontacts]
      rw [isLifted_of_listed (Spot.followAll_phase _ _) hlisted] at hlifted
      cases hlifted

end Stems

/-- The spots of a display, with their ranks, when contacts have been shown. -/
structure Ranked (shown : List Contact → List Spot) (old : List Spot) (contacts : List Contact)
    (ranked : List (Nat × Spot)) : Prop where
  spots : ranked.map Prod.snd = shown contacts
  rising : (ranked.map Prod.fst).Pairwise (· < ·)
  stems : ∀ e ∈ ranked, Stems shown old contacts e.1 e.2

/-- A contact leaves the ranks in order. -/
theorem Ranked.exists_concat {shown : List Contact → List Spot} {old : List Spot}
    {ranked : List (Nat × Spot)} (h : Ranked shown old earlier ranked)
    (hplace : TakesPlace capacity contact (shown earlier) (shown (earlier ++ [contact]))) :
    ∃ ranked', Ranked shown old (earlier ++ [contact]) ranked' := by
  obtain ⟨stayed, made, hstay, hspots, hmade⟩ := hplace.exists_stayed
  rw [← h.spots] at hstay
  obtain ⟨kept, hkept, rfl⟩ := List.sublist_map_iff.mp hstay
  have hrising : (kept.map Prod.fst).Pairwise (· < ·) := h.rising.sublist (hkept.map _)
  have hmoved : ∀ e ∈ kept.map fun e => (e.1, e.2.follow contact),
      Stems shown old (earlier ++ [contact]) e.1 e.2 :=
    List.forall_mem_map.mpr fun e he => (h.stems e (hkept.subset he)).concat contact
  rcases hmade with rfl | ⟨hnew, sprite, rfl⟩
  · refine ⟨kept.map fun e => (e.1, e.2.follow contact), ?_, ?_, hmoved⟩
    · rw [hspots, List.append_nil, List.map_map, List.map_map]
      rfl
    · rw [List.map_map]
      exact hrising
  · have hlast : Stems shown old (earlier ++ [contact]) (old.length + earlier.length)
        (((Spot.new contact.id sprite).moved contact).followAll []) :=
      .made sprite rfl hnew
    refine ⟨(kept.map fun e => (e.1, e.2.follow contact)) ++
      [(old.length + earlier.length, (Spot.new contact.id sprite).moved contact)], ?_, ?_, ?_⟩
    · rw [hspots, List.map_append, List.map_map, List.map_map]
      rfl
    · rw [List.map_append, List.map_map]
      refine List.pairwise_append.mpr ⟨hrising, List.pairwise_singleton _ _, ?_⟩
      intro rank hrank last hmem
      obtain ⟨e, he, rfl⟩ := List.mem_map.mp hrank
      rw [List.mem_singleton.mp hmem]
      exact (h.stems e (hkept.subset he)).rank_lt
    · exact List.forall_mem_append.mpr ⟨hmoved, List.forall_mem_singleton.mpr hlast⟩

/-! ## A whole report -/

/-- Each contact of a report takes its place among the spots that the contacts before it
left. -/
theorem showContacts_takesPlace (hpositive : 1 ≤ pool.maxSpots)
    (hroster : Roster pool.maxSpots spots) (earlier : List Contact) (contact : Contact) :
    TakesPlace pool.maxSpots contact
      (pool.showContacts icons display earlier spots stock).1
      (pool.showContacts icons display (earlier ++ [contact]) spots stock).1 := by
  have hbefore : Roster pool.maxSpots (pool.showContacts icons display earlier spots stock).1 :=
    showContacts_roster hpositive earlier hroster
  rw [showContacts_append]
  exact (showContact_arrival hpositive hbefore.length).takesPlace hbefore

theorem showContacts_ranked (hpositive : 1 ≤ pool.maxSpots)
    (hroster : Roster pool.maxSpots spots) (contacts : List Contact) :
    ∃ ranked, Ranked (fun earlier => (pool.showContacts icons display earlier spots stock).1)
      spots contacts ranked := by
  induction contacts using List.reverseRecOn with
  | nil =>
      refine ⟨spots.zipIdx.map Prod.swap, ?_, ?_, ?_⟩
      · rw [List.map_map]
        exact List.zipIdx_map_fst 0 spots
      · rw [List.map_map]
        exact (List.zipIdx_map_snd 0 spots) ▸ List.pairwise_lt_range'
      · rintro ⟨rank, s⟩ he
        obtain ⟨⟨t, i⟩, hmem, heq⟩ := List.mem_map.mp he
        cases heq
        exact .old (List.mem_zipIdx_iff_getElem?.mp hmem)
  | append_singleton earlier contact ih =>
      obtain ⟨ranked, hranked⟩ := ih
      exact hranked.exists_concat (showContacts_takesPlace hpositive hroster earlier contact)

/-- A spot is let go when it did not fade and does so afterwards. -/
theorem isLifted_iff {s : Spot} :
    isLifted contacts s = true ↔
      s.isFading = false ∧ (fadeIfLifted contacts s).isFading = true := by
  constructor
  · intro hlifted
    have hactive : s.isFading = false := by
      cases hphase : s.phase with
      | active id => simp [Spot.isFading, hphase]
      | fading => simp [isLifted, hphase] at hlifted
    refine ⟨hactive, ?_⟩
    rw [fadeIfLifted, hlifted]
    rfl
  · rintro ⟨hactive, hfading⟩
    by_contra hkept
    rw [fadeIfLifted, if_neg hkept, hactive] at hfading
    cases hfading

theorem fadeIfLifted_of_fading {s : Spot} (h : s.isFading = true) :
    fadeIfLifted contacts s = s := by
  apply if_neg
  intro hlifted
  rw [(isLifted_iff.mp hlifted).1] at h
  cases h

/-- What a report makes of a display: the spots that stay, by rank, and whether one of them
starts to fade. -/
theorem Ranked.lifted {shown : List Contact → List Spot} {old : List Spot}
    {ranked : List (Nat × Spot)} (h : Ranked shown old contacts ranked) :
    (∀ e ∈ ranked, ∀ s, old[e.1]? = some s → s.isFading = true →
      fadeIfLifted contacts e.2 = s) ∧
    ((shown contacts).any (isLifted contacts) = true ↔
      ∃ e ∈ ranked, ∃ s, old[e.1]? = some s ∧ s.isFading = false ∧
        (fadeIfLifted contacts e.2).isFading = true) := by
  have hphase : ∀ {s t : Spot}, s.phase = t.phase → s.isFading = t.isFading := by
    intro s t heq
    rw [Spot.isFading, Spot.isFading, heq]
  refine ⟨fun e he s hold hfading => ?_, ?_, ?_⟩
  · rw [(h.stems e he).eq_followAll hold, Spot.followAll_of_fading hfading,
      fadeIfLifted_of_fading hfading]
  · intro hany
    rw [← h.spots] at hany
    obtain ⟨t, ht, hlifted⟩ := List.any_eq_true.mp hany
    obtain ⟨e, he, rfl⟩ := List.mem_map.mp ht
    obtain ⟨s, hold, hsame⟩ := (h.stems e he).exists_of_lifted hlifted
    obtain ⟨hactive, hgone⟩ := isLifted_iff.mp hlifted
    exact ⟨e, he, s, hold, (hphase hsame).trans hactive, hgone⟩
  · rintro ⟨e, he, s, hold, hactive, hgone⟩
    have hspot := (h.stems e he).eq_followAll hold
    have hkept : e.2.isFading = false := by
      rw [hspot, hphase (Spot.followAll_phase contacts s), hactive]
    rw [← h.spots]
    exact List.any_eq_true.mpr
      ⟨e.2, List.mem_map.mpr ⟨e, he, rfl⟩, isLifted_iff.mpr ⟨hkept, hgone⟩⟩

theorem spots_update (pool : SpotPool) (contacts : List Contact) (display : DisplayId)
    (icons : SpotIcons) (surface : Surface) :
    (pool.update contacts display icons surface).2.1.spots display =
      (pool.showContacts icons display contacts (pool.spots display)
        (pool.stock surface)).1.map (fadeIfLifted contacts) :=
  spots_setSpots_self pool display _

theorem update_roster (hpositive : 1 ≤ pool.maxSpots)
    (hroster : Roster pool.maxSpots (pool.spots display)) (contacts : List Contact)
    (icons : SpotIcons) (surface : Surface) :
    Roster pool.maxSpots ((pool.update contacts display icons surface).2.1.spots display) := by
  rw [spots_update]
  exact (showContacts_roster hpositive contacts hroster).map (fadeIfLifted_phase contacts)

/-- Only listed contacts are followed after a report. -/
theorem listed_of_mem_down {surface : Surface} {id : ContactId}
    (hid : id ∈ down ((pool.update contacts display icons surface).2.1.spots display)) :
    id ∈ contacts.map (·.id) := by
  rw [spots_update] at hid
  obtain ⟨s, hs, hactive⟩ := mem_down.mp hid
  obtain ⟨t, -, rfl⟩ := List.mem_map.mp hs
  exact (listed_of_active hactive).2

/-- A report leaves spots of the display, in their order, and after them spots made for its
contacts, in the order they were made.  A spot goes only when a contact without one comes to a
full display, and then the first fading spot goes, or the first of all if none is fading.
Afterwards the display keeps its limit and follows each contact with one spot at most, and only
listed ones; spots that were fading are as they were; and the answer tells whether a spot that
was there before and is still there has started to fade. -/
theorem update_displacement {limit : Nat} (hlimit : pool.maxSpots = max limit 1)
    (hroster : Roster (max limit 1) (pool.spots display)) (contacts : List Contact)
    (icons : SpotIcons) (surface : Surface) :
    let old := pool.spots display
    let shown := fun earlier =>
      (pool.showContacts icons display earlier old (pool.stock surface)).1
    let report := pool.update contacts display icons surface
    let new := report.2.1.spots display
    (∃ ranked : List (Nat × Spot),
      ranked.map Prod.snd = new ∧ (ranked.map Prod.fst).Pairwise (· < ·) ∧
      (∀ e ∈ ranked, ∃ s, Stems shown old contacts e.1 s ∧ e.2 = fadeIfLifted contacts s) ∧
      (∀ e ∈ ranked, ∀ s, old[e.1]? = some s → s.isFading = true → e.2 = s) ∧
      (report.1 = true ↔ ∃ e ∈ ranked, ∃ s, old[e.1]? = some s ∧ s.isFading = false ∧
        e.2.isFading = true)) ∧
    (∀ earlier c later, contacts = earlier ++ c :: later →
      TakesPlace (max limit 1) c (shown earlier) (shown (earlier ++ [c]))) ∧
    new = (shown contacts).map (fadeIfLifted contacts) ∧
    Roster (max limit 1) new ∧ ∀ id ∈ down new, id ∈ contacts.map (·.id) := by
  intro old shown report new
  have hpositive : 1 ≤ pool.maxSpots := hlimit ▸ Nat.le_max_right _ _
  rw [← hlimit] at hroster ⊢
  have hnew : new = (shown contacts).map (fadeIfLifted contacts) :=
    spots_update pool contacts display icons surface
  obtain ⟨ranked, hranked⟩ : ∃ ranked, Ranked shown old contacts ranked :=
    showContacts_ranked hpositive hroster contacts
  obtain ⟨hkept, hstarted⟩ := hranked.lifted
  refine ⟨⟨ranked.map fun e => (e.1, fadeIfLifted contacts e.2), ?_, ?_, ?_, ?_, ?_⟩,
    fun earlier c later _ => showContacts_takesPlace hpositive hroster earlier c, hnew,
    update_roster hpositive hroster contacts icons surface, fun id => listed_of_mem_down⟩
  · rw [hnew, ← hranked.spots, List.map_map, List.map_map]
    rfl
  · rw [List.map_map]
    exact hranked.rising
  · exact List.forall_mem_map.mpr fun e he => ⟨e.2, hranked.stems e he, rfl⟩
  · exact List.forall_mem_map.mpr hkept
  · refine hstarted.trans ⟨?_, ?_⟩
    · rintro ⟨e, he, hgone⟩
      exact ⟨_, List.mem_map.mpr ⟨e, he, rfl⟩, hgone⟩
    · rintro ⟨e', he', hgone⟩
      obtain ⟨e, he, rfl⟩ := List.mem_map.mp he'
      exact ⟨e, he, hgone⟩

def finger (number : Nat) : Contact := ⟨⟨number⟩, .origin, 1⟩

/-- A display with room for two spots, after the first of two fingers was lifted. -/
def oneLifted : SpotPool × Surface :=
  let both := (new 2 0 1).update [finger 1, finger 2] .builtin Catalogue.plain.spots {}
  (both.2.1.update [finger 2] .builtin Catalogue.plain.spots both.2.2).2

/-- What the display holds after a report that makes three spots. -/
def afterThree : SpotPool :=
  (oneLifted.1.update [finger 3, finger 4, finger 2] .builtin Catalogue.plain.spots
    oneLifted.2).2.1

/-- The first contact takes the place of the fading spot, the second displaces that of a contact
that is listed, and the third one that was made for the first. -/
theorem update_displacement_thrice :
    oneLifted.1.maxSpots = max 2 1 ∧ Roster (max 2 1) (oneLifted.1.spots .builtin) ∧
      (oneLifted.1.spots .builtin).map (·.phase) = [.fading, .active ⟨2⟩] ∧
      (afterThree.spots .builtin).map (·.phase) = [.active ⟨4⟩, .active ⟨2⟩] ∧
      Roster (max 2 1) (afterThree.spots .builtin) := by
  have hlimit : oneLifted.1.maxSpots = max 2 1 := by decide +kernel
  have hroster : Roster (max 2 1) (oneLifted.1.spots .builtin) :=
    ⟨by decide +kernel, by decide +kernel⟩
  have hafter : Roster (max 2 1) (afterThree.spots .builtin) :=
    (update_displacement hlimit hroster [finger 3, finger 4, finger 2]
      Catalogue.plain.spots oneLifted.2).2.2.2.1
  exact ⟨hlimit, hroster, by decide +kernel, by decide +kernel, hafter⟩

end

end SpotPool

end ScreenPointer
