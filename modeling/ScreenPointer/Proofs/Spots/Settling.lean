/-
# Reports that are repeated

Painting a spot over and over comes to the same as painting it once: all that
remains is what the last contact wrote, and whether its icon had to be written
on the way.  So after any report each spot looks as one more round of the same
contacts would leave it.  A first report of contacts that fit may still displace
some of them, to the benefit of spots whose contacts were lifted; the second
cannot, and from then on a repeated report moves spots to where they are.
-/

import Mathlib.Logic.Function.Iterate
import ScreenPointer.Proofs.Spots.Displacement
import ScreenPointer.Proofs.Spots.Sights

namespace ScreenPointer

/-! ## Painting over -/

namespace SpotSight

variable {scale : Single} {icons : SpotIcons} {display : DisplayId}

/-- A spot that is painted as if it had never been shown. -/
def repainted (v : SpotSight) (scale : Single) (icons : SpotIcons) (display : DisplayId)
    (contact : Contact) : SpotSight :=
  { v with shown := none }.painted scale icons display contact

/-- How a spot appears when a contact has been shown. -/
def follow (scale : Single) (icons : SpotIcons) (display : DisplayId) (contact : Contact)
    (v : SpotSight) : SpotSight :=
  if v.phase = .active contact.id then v.painted scale icons display contact else v

def followAll (scale : Single) (icons : SpotIcons) (display : DisplayId)
    (contacts : List Contact) (v : SpotSight) : SpotSight :=
  contacts.foldl (fun v contact => v.follow scale icons display contact) v

/-- Of two contacts of one kind, the last one is all that is seen. -/
theorem painted_painted_of_eq (v : SpotSight) {first second : Contact}
    (hkind : SpotKind.ofContact first = SpotKind.ofContact second) :
    (v.painted scale icons display first).painted scale icons display second =
      v.painted scale icons display second := by
  obtain ⟨phase, position, alpha, shown, record⟩ := v
  by_cases hshown : shown = some (SpotKind.ofContact second) <;>
    simp [painted, hkind, hshown, Function.comp_def]

/-- Where the kind changes, the icon is written anew. -/
theorem painted_painted_of_ne (v : SpotSight) {first second : Contact}
    (hkind : SpotKind.ofContact first ≠ SpotKind.ofContact second) :
    (v.painted scale icons display first).painted scale icons display second =
      v.repainted scale icons display second := by
  obtain ⟨phase, position, alpha, shown, record⟩ := v
  by_cases hshown : shown = some (SpotKind.ofContact first) <;>
    simp [painted, repainted, hkind, hshown, Function.comp_def]

theorem repainted_painted (v : SpotSight) (first second : Contact) :
    (v.repainted scale icons display first).painted scale icons display second =
      v.repainted scale icons display second := by
  by_cases hkind : SpotKind.ofContact first = SpotKind.ofContact second
  · exact painted_painted_of_eq _ hkind
  · exact painted_painted_of_ne _ hkind

theorem repainted_repainted (v : SpotSight) (contact : Contact) :
    (v.repainted scale icons display contact).repainted scale icons display contact =
      v.repainted scale icons display contact := by
  obtain ⟨phase, position, alpha, shown, record⟩ := v
  simp [painted, repainted, Function.comp_def]

/-! ## A round of contacts -/

theorem follow_phase (contact : Contact) (v : SpotSight) :
    (v.follow scale icons display contact).phase = v.phase := by
  rw [follow]
  split <;> rfl

theorem followAll_append (first second : List Contact) (v : SpotSight) :
    v.followAll scale icons display (first ++ second) =
      (v.followAll scale icons display first).followAll scale icons display second :=
  List.foldl_append

theorem followAll_concat (earlier : List Contact) (contact : Contact) (v : SpotSight) :
    v.followAll scale icons display (earlier ++ [contact]) =
      (v.followAll scale icons display earlier).follow scale icons display contact :=
  followAll_append earlier [contact] v

theorem followAll_phase (contacts : List Contact) (v : SpotSight) :
    (v.followAll scale icons display contacts).phase = v.phase := by
  induction contacts generalizing v with
  | nil => rfl
  | cons contact rest ih => exact (ih _).trans (follow_phase contact v)

theorem follow_of_active {v : SpotSight} {contact : Contact} (h : v.phase = .active contact.id) :
    v.follow scale icons display contact = v.painted scale icons display contact :=
  if_pos h

theorem follow_of_ne {v : SpotSight} {contact : Contact} (h : v.phase ≠ .active contact.id) :
    v.follow scale icons display contact = v :=
  if_neg h

variable (scale icons display) in
/-- A round leaves all spots in a phase alone, or paints them all like one contact. -/
theorem followAll_cases (phase : SpotPhase) (contacts : List Contact) :
    (∀ v : SpotSight, v.phase = phase → v.followAll scale icons display contacts = v) ∨
      (∃ c, ∀ v : SpotSight, v.phase = phase →
        v.followAll scale icons display contacts = v.painted scale icons display c) ∨
      ∃ c, ∀ v : SpotSight, v.phase = phase →
        v.followAll scale icons display contacts = v.repainted scale icons display c := by
  induction contacts using List.reverseRecOn with
  | nil => exact .inl fun _ _ => rfl
  | append_singleton earlier c ih =>
      by_cases hown : phase = .active c.id
      · -- The contact paints the spots over, whatever they were painted like.
        have hlast : ∀ v : SpotSight, v.phase = phase →
            v.followAll scale icons display (earlier ++ [c]) =
              (v.followAll scale icons display earlier).painted scale icons display c := by
          intro v hv
          rw [followAll_concat]
          exact follow_of_active ((followAll_phase earlier v).trans (hv.trans hown))
        refine .inr ?_
        rcases ih with hleft | ⟨first, hpainted⟩ | ⟨first, hrepainted⟩
        · exact .inl ⟨c, fun v hv => by rw [hlast v hv, hleft v hv]⟩
        · by_cases hkind : SpotKind.ofContact first = SpotKind.ofContact c
          · refine .inl ⟨c, fun v hv => ?_⟩
            rw [hlast v hv, hpainted v hv, painted_painted_of_eq v hkind]
          · refine .inr ⟨c, fun v hv => ?_⟩
            rw [hlast v hv, hpainted v hv, painted_painted_of_ne v hkind]
        · refine .inr ⟨c, fun v hv => ?_⟩
          rw [hlast v hv, hrepainted v hv, repainted_painted]
      · have hsame : ∀ v : SpotSight, v.phase = phase →
            v.followAll scale icons display (earlier ++ [c]) =
              v.followAll scale icons display earlier := by
          intro v hv
          rw [followAll_concat]
          apply follow_of_ne
          rwa [followAll_phase, hv]
        rcases ih with hleft | ⟨first, hpainted⟩ | ⟨first, hrepainted⟩
        · exact .inl fun v hv => (hsame v hv).trans (hleft v hv)
        · exact .inr (.inl ⟨first, fun v hv => (hsame v hv).trans (hpainted v hv)⟩)
        · exact .inr (.inr ⟨first, fun v hv => (hsame v hv).trans (hrepainted v hv)⟩)

/-- A second round shows nothing new. -/
theorem followAll_followAll (contacts : List Contact) (v : SpotSight) :
    (v.followAll scale icons display contacts).followAll scale icons display contacts =
      v.followAll scale icons display contacts := by
  have hphase : (v.followAll scale icons display contacts).phase = v.phase :=
    followAll_phase contacts v
  rcases followAll_cases scale icons display v.phase contacts with
    hleft | ⟨c, hpainted⟩ | ⟨c, hrepainted⟩
  · rw [hleft v rfl, hleft v rfl]
  · rw [hpainted _ hphase, hpainted v rfl, painted_painted_of_eq v rfl]
  · rw [hrepainted _ hphase, hrepainted v rfl, repainted_repainted]

/-- A spot made by the last contact of a round looks as if it had been there for all of it. -/
theorem fresh_eq_followAll (earlier : List Contact) (contact : Contact) :
    fresh scale icons display contact =
      SpotSight.followAll scale icons display (earlier ++ [contact])
        ⟨.active contact.id, .origin, 1, none, some {}⟩ := by
  rw [followAll_concat, follow_of_active (followAll_phase earlier _)]
  rcases followAll_cases scale icons display (.active contact.id) earlier with
    hleft | ⟨c, hpainted⟩ | ⟨c, hrepainted⟩
  · rw [hleft _ rfl, fresh]
  · rw [hpainted _ rfl]
    by_cases hkind : SpotKind.ofContact c = SpotKind.ofContact contact
    · rw [painted_painted_of_eq _ hkind, fresh]
    · rw [painted_painted_of_ne _ hkind]
      rfl
  · rw [hrepainted _ rfl, repainted_painted]
    rfl

theorem followAll_of_fading {v : SpotSight} (h : v.phase = .fading) (contacts : List Contact) :
    v.followAll scale icons display contacts = v := by
  induction contacts with
  | nil => rfl
  | cons contact rest ih =>
      have hstays : v.follow scale icons display contact = v := follow_of_ne (by simp [h])
      rw [followAll, List.foldl_cons, hstays]
      exact ih

end SpotSight

/-! ## Changes to records only -/

/-- `s'` comes from `s` by changes to the records of these sprites. -/
structure Surface.Rewritten (ids : List SpriteId) (s s' : Surface) : Prop where
  alive : s'.alive = s.alive
  created : s'.created = s.created
  released : s'.released = s.released
  others : ∀ id, id ∉ ids → s'.record? id = s.record? id

namespace Surface.Rewritten

variable {ids : List SpriteId} {s s' s'' : Surface}

theorem refl (ids : List SpriteId) (s : Surface) : Rewritten ids s s :=
  ⟨rfl, rfl, rfl, fun _ _ => rfl⟩

theorem trans (first : Rewritten ids s s') (second : Rewritten ids s' s'') :
    Rewritten ids s s'' where
  alive := second.alive.trans first.alive
  created := second.created.trans first.created
  released := second.released.trans first.released
  others id hid := (second.others id hid).trans (first.others id hid)

theorem of_confined {id : SpriteId} (h : Confined id s s') (hid : id ∈ ids) :
    Rewritten ids s s' where
  alive := h.alive
  created := h.created
  released := h.released
  others other hother := h.others other fun heq => hother (heq ▸ hid)

end Surface.Rewritten

namespace SpotPool

variable {pool : SpotPool} {icons : SpotIcons} {display : DisplayId} {contact : Contact}
  {contacts : List Contact} {spots : List Spot} {stock : SpriteStock} {owners : List SpriteId}
  {surface : Surface}

/-! ## How one contact leaves the spots -/

theorem sight_follow_of_not_follows {s : Spot} (h : s.follows contact.id = false) :
    (s.sightOn surface).follow pool.scale icons display contact = s.sightOn surface := by
  have hother : s.phase ≠ .active contact.id := by simpa [Spot.follows] using h
  exact SpotSight.follow_of_ne hother

theorem sights_follow_of_not_mem (hnew : contact.id ∉ down spots) :
    (sightsOn spots surface).map (·.follow pool.scale icons display contact) =
      sightsOn spots surface := by
  rw [sightsOn, List.map_map]
  apply List.map_congr_left
  intro s hs
  exact sight_follow_of_not_follows (not_follows_of_not_mem hnew s hs)

/-- The spot of a contact that has one is painted over, and nothing else happens. -/
theorem showContact_of_mem (pool : SpotPool) (icons : SpotIcons) (display : DisplayId)
    (hdistinct : (down spots).Nodup) (hown : contact.id ∈ down spots)
    (hguards : stock.Guards (spritesOf spots ++ owners)) :
    ∃ surface', pool.showContact icons display contact spots stock =
        (spots.map (·.follow contact), { stock with surface := surface' }) ∧
      Surface.Rewritten (spritesOf spots) stock.surface surface' ∧
      sightsOn (spots.map (·.follow contact)) surface' =
        (sightsOn spots stock.surface).map (·.follow pool.scale icons display contact) := by
  cases hmove : moveFollower pool.scale icons display contact spots stock.surface with
  | none => exact absurd hown (moveFollower_eq_none hmove)
  | some moved =>
      obtain ⟨spots', surface'⟩ := moved
      obtain ⟨before, s, after, rfl, hactive, hspots, hsurface⟩ := moveFollower_eq_some hmove
      have hmap := map_follow_of_active hdistinct hactive
      obtain ⟨hbefore, hafter⟩ := apart_of_active hdistinct hactive
      refine ⟨surface', ?_, ?_, ?_⟩
      · rw [showContact, hmove, hmap, ← hspots]
      · rw [hsurface]
        exact .of_confined (moveSpot_confined contact s stock.surface)
          (List.mem_map.mpr ⟨s, List.mem_append_right _ List.mem_cons_self, rfl⟩)
      · have hfirst : stock.Guards (s.sprite :: (spritesOf (before ++ after) ++ owners)) := by
          have hsprites : (spritesOf (before ++ s :: after)).Perm
              (s.sprite :: spritesOf (before ++ after)) := List.perm_middle.map _
          exact hguards.perm (hsprites.append_right owners)
        have hmoved := moveSpot_leaves pool.scale icons display contact hfirst
        have hothers : ∀ {others : List Spot}, others.Sublist (before ++ after) →
            sightsOn others surface' = sightsOn others stock.surface := by
          intro others hsub
          rw [hsurface]
          exact hmoved.toSpares.sights fun t ht =>
            List.mem_append_left _ (List.mem_map.mpr ⟨t, hsub.subset ht, rfl⟩)
        have hspot : (s.moved contact).sightOn surface' =
            (s.sightOn stock.surface).follow pool.scale icons display contact := by
          rw [SpotSight.follow_of_active hactive, ← moveSpot_sight, hsurface, moveSpot_fst]
        calc sightsOn ((before ++ s :: after).map (·.follow contact)) surface'
            = sightsOn before surface' ++
                (s.moved contact).sightOn surface' :: sightsOn after surface' := by
              rw [hmap, sightsOn, List.map_append, List.map_cons]
              rfl
          _ = sightsOn before stock.surface ++
                (s.sightOn stock.surface).follow pool.scale icons display contact ::
                  sightsOn after stock.surface := by
              rw [hothers (List.sublist_append_left before after),
                hothers (List.sublist_append_right before after), hspot]
          _ = (sightsOn (before ++ s :: after) stock.surface).map
                (·.follow pool.scale icons display contact) := by
              rw [sightsOn, sightsOn, sightsOn, List.map_append, List.map_append, List.map_cons,
                List.map_cons]
              exact congr (congrArg (· ++ ·) (sights_follow_of_not_mem hbefore).symm)
                (congrArg _ (sights_follow_of_not_mem hafter).symm)

/-- A new spot comes after spots that look as before. -/
theorem showContact_of_not_mem (icons : SpotIcons) (display : DisplayId)
    (hpositive : 1 ≤ pool.maxSpots)
    (hlength : spots.length ≤ pool.maxSpots) (hnew : contact.id ∉ down spots)
    (hguards : stock.Guards (spritesOf spots ++ owners)) :
    ∃ kept : List Spot, kept.Sublist spots ∧
      sightsOn (pool.showContact icons display contact spots stock).1
          (pool.showContact icons display contact spots stock).2.surface =
        sightsOn kept stock.surface ++ [.fresh pool.scale icons display contact] := by
  have hnone : moveFollower pool.scale icons display contact spots stock.surface = none := by
    cases hmove : moveFollower pool.scale icons display contact spots stock.surface with
    | none => rfl
    | some moved =>
        obtain ⟨spots', surface'⟩ := moved
        obtain ⟨before, s, after, rfl, hactive, -⟩ := moveFollower_eq_some hmove
        exact absurd (mem_down.mpr ⟨s, by simp, hactive⟩) hnew
  rw [showContact, hnone]
  rcases Nat.lt_or_eq_of_le hlength with hroom | hfull
  · dsimp only
    rw [makeRoom_of_room stock hroom]
    exact ⟨spots, List.Sublist.refl _, enlist_sights hguards pool.scale icons display contact⟩
  · have hsome : 0 < spots.length := hfull ▸ hpositive
    obtain ⟨victim, others, hvictim, hmake⟩ := makeRoom_of_full stock hsome
    obtain ⟨before, after, hspots, hothers, -⟩ := takeVictim_eq_some hvictim
    have hkept : others.Sublist spots := by
      rw [hspots, hothers]
      exact (List.sublist_cons_self victim after).append_left before
    have hperm := ((takeVictim_perm hvictim).map (·.sprite)).append_right owners
    have hgiven := (hguards.perm hperm).giveBack
    refine ⟨others, hkept, ?_⟩
    dsimp only
    rw [← hfull, hmake, ← sights_of_spares hgiven.toSpares]
    exact enlist_sights hgiven.guards pool.scale icons display contact

/-! ## What a round of contacts leaves -/

theorem down_map {f : Spot → Spot} (hf : ∀ s, (f s).phase = s.phase) (spots : List Spot) :
    down (spots.map f) = down spots := by
  rw [down, down, List.filterMap_map]
  apply List.filterMap_congr
  intro s _
  rw [Function.comp_apply, hf]

/-- Contacts that all have spots paint these over, and nothing else happens. -/
theorem showContacts_of_mem (pool : SpotPool) (icons : SpotIcons) (display : DisplayId)
    (hdistinct : (down spots).Nodup)
    (hall : ∀ c ∈ contacts, c.id ∈ down spots)
    (hguards : stock.Guards (spritesOf spots ++ owners)) :
    ∃ surface', pool.showContacts icons display contacts spots stock =
        (spots.map (·.followAll contacts), { stock with surface := surface' }) ∧
      Surface.Rewritten (spritesOf spots) stock.surface surface' ∧
      sightsOn (spots.map (·.followAll contacts)) surface' =
        (sightsOn spots stock.surface).map (·.followAll pool.scale icons display contacts) := by
  induction contacts generalizing spots stock with
  | nil =>
      have hspots : spots.map (·.followAll []) = spots := List.map_id' spots
      refine ⟨stock.surface, ?_, .refl _ _, ?_⟩
      · rw [hspots]
        rfl
      · rw [hspots]
        exact (List.map_id' _).symm
  | cons c rest ih =>
      obtain ⟨hc, hrest⟩ := List.forall_mem_cons.mp hall
      obtain ⟨between, hone, hfirst, hsights⟩ :=
        showContact_of_mem pool icons display hdistinct hc hguards
      have hguards' := (showContact_leaves pool icons display c hguards).guards
      have hdown := down_map (Spot.follow_phase c) spots
      rw [hone] at hguards'
      obtain ⟨surface', hmore, hsecond, hsights'⟩ := ih (hdown ▸ hdistinct)
        (fun other hother => hdown.symm ▸ hrest other hother) hguards'
      have hmap : (spots.map (·.follow c)).map (·.followAll rest) =
          spots.map (·.followAll (c :: rest)) := List.map_map
      rw [Housed.spritesOf_map (Spot.follow_sprite c)] at hsecond
      rw [hmap] at hmore hsights'
      refine ⟨surface', ?_, hfirst.trans hsecond, ?_⟩
      · rw [showContacts, hone]
        exact hmore
      · rw [hsights', hsights, List.map_map]
        rfl

theorem showContacts_concat (earlier : List Contact) (contact : Contact) (spots : List Spot)
    (stock : SpriteStock) :
    pool.showContacts icons display (earlier ++ [contact]) spots stock =
      pool.showContact icons display contact
        (pool.showContacts icons display earlier spots stock).1
        (pool.showContacts icons display earlier spots stock).2 :=
  showContacts_append earlier [contact] spots stock

/-- After contacts have been shown, each spot looks as a whole round of them leaves it, also one
that was made in the middle. -/
theorem exists_followAll_of_mem (hpositive : 1 ≤ pool.maxSpots)
    (hroster : Roster pool.maxSpots spots) (hguards : stock.Guards (spritesOf spots ++ owners)) :
    ∀ v ∈ sightsOn (pool.showContacts icons display contacts spots stock).1
        (pool.showContacts icons display contacts spots stock).2.surface,
      ∃ w : SpotSight, v = w.followAll pool.scale icons display contacts := by
  induction contacts using List.reverseRecOn with
  | nil => exact fun v _ => ⟨v, rfl⟩
  | append_singleton earlier c ih =>
      have hroster' : Roster pool.maxSpots
          (pool.showContacts icons display earlier spots stock).1 :=
        showContacts_roster hpositive earlier hroster
      have hguards' := (showContacts_leaves pool icons display earlier hguards).guards
      rw [showContacts_concat]
      generalize pool.showContacts icons display earlier spots stock = made at *
      intro v hv
      by_cases hown : c.id ∈ down made.1
      · obtain ⟨surface', hone, -, hsights⟩ :=
          showContact_of_mem pool icons display hroster'.distinct hown hguards'
        rw [hone, hsights] at hv
        obtain ⟨u, hu, rfl⟩ := List.mem_map.mp hv
        obtain ⟨w, rfl⟩ := ih u hu
        exact ⟨w, (SpotSight.followAll_concat earlier c w).symm⟩
      · obtain ⟨kept, hkept, hsights⟩ :=
          showContact_of_not_mem icons display hpositive hroster'.length hown hguards'
        rw [hsights] at hv
        rcases List.mem_append.mp hv with hold | hnew
        · obtain ⟨s, hs, rfl⟩ := List.mem_map.mp hold
          have hbefore := hkept.subset hs
          obtain ⟨w, hw⟩ := ih _ (List.mem_map.mpr ⟨s, hbefore, rfl⟩)
          refine ⟨w, ?_⟩
          rw [SpotSight.followAll_concat, ← hw]
          exact (sight_follow_of_not_follows (not_follows_of_not_mem hown s hbefore)).symm
        · rw [List.mem_singleton.mp hnew]
          exact ⟨_, SpotSight.fresh_eq_followAll earlier c⟩

theorem update_rest (hpositive : 1 ≤ pool.maxSpots) (hhoused : Housed owners pool surface)
    (hroster : Roster pool.maxSpots (pool.spots display)) :
    ∀ v ∈ (pool.update contacts display icons surface).2.1.sights
        (pool.update contacts display icons surface).2.2 display,
      v.followAll pool.scale icons display contacts = v := by
  intro v hv
  rw [sights, spots_update] at hv
  obtain ⟨s, hs, rfl⟩ := List.mem_map.mp hv
  obtain ⟨t, ht, rfl⟩ := List.mem_map.mp hs
  by_cases hlifted : isLifted contacts t = true
  · apply SpotSight.followAll_of_fading
    rw [fadeIfLifted, if_pos hlifted]
    rfl
  · rw [fadeIfLifted, if_neg hlifted]
    obtain ⟨w, hw⟩ := exists_followAll_of_mem hpositive hroster (hhoused.guards_display display)
      _ (List.mem_map.mpr ⟨t, ht, rfl⟩)
    exact hw.symm ▸ SpotSight.followAll_followAll contacts w

/-! ## Settled displays -/

/-- Everything that reports of these contacts can change on the display is as they want it. -/
structure Settled (owners : List SpriteId) (contacts : List Contact) (display : DisplayId)
    (icons : SpotIcons) (pool : SpotPool) (surface : Surface) : Prop where
  housed : Housed owners pool surface
  distinct : (down (pool.spots display)).Nodup
  shows : ShowsAll contacts (pool.spots display)
  rest : ∀ v ∈ pool.sights surface display,
    v.followAll pool.scale icons display contacts = v
  listed : Keyed.find? display pool.byDisplay ≠ some []

theorem ShowsAll.mem_down (h : ShowsAll contacts spots) : ∀ c ∈ contacts, c.id ∈ down spots := by
  intro c hc
  obtain ⟨s, hs, -⟩ := h.shown c hc
  obtain ⟨hmem, hfollows⟩ := List.mem_filter.mp (hs ▸ List.mem_singleton_self s)
  exact SpotPool.mem_down.mpr ⟨s, hmem, by simpa [Spot.follows] using hfollows⟩

/-- Where everything is shown, no spot is left to fade. -/
theorem ShowsAll.not_lifted (h : ShowsAll contacts spots) :
    ∀ s ∈ spots, isLifted contacts s = false := by
  intro s hs
  by_cases hlisted : ∀ c ∈ contacts, s.follows c.id = false
  · have hfading := h.others s hs hlisted
    apply Bool.eq_false_iff.mpr
    intro hlifted
    rw [(isLifted_iff.mp hlifted).1] at hfading
    cases hfading
  · push Not at hlisted
    obtain ⟨c, hc, hfollows⟩ := hlisted
    have hactive : s.phase = .active c.id := by simpa [Spot.follows] using hfollows
    exact isLifted_of_listed hactive (List.mem_map.mpr ⟨c, hc, rfl⟩)

/-- A spot is known by its sprite and its sight. -/
theorem eq_of_sightOn {s t : Spot} {first second : Surface} (hsprite : s.sprite = t.sprite)
    (h : s.sightOn first = t.sightOn second) : s = t := by
  obtain ⟨phase, position, alpha, shown, sprite⟩ := s
  obtain ⟨phase', position', alpha', shown', sprite'⟩ := t
  simp only [Spot.sightOn, SpotSight.mk.injEq] at h hsprite
  obtain ⟨rfl, rfl, rfl, rfl, -⟩ := h
  rw [hsprite]

/-- A report to a settled display changes nothing that can be seen. -/
theorem Settled.update (h : Settled owners contacts display icons pool surface) :
    ∃ surface', pool.update contacts display icons surface = (false, pool, surface') ∧
      Surface.Rewritten [] surface surface' ∧
      Settled owners contacts display icons pool surface' := by
  obtain ⟨surface', hshown, hrewritten, hsights⟩ :=
    showContacts_of_mem pool icons display h.distinct h.shows.mem_down
      (h.housed.guards_display display)
  have hrest : (sightsOn (pool.spots display) surface).map
      (·.followAll pool.scale icons display contacts) = sightsOn (pool.spots display) surface :=
    (List.map_congr_left h.rest).trans (List.map_id' _)
  have hsame : ∀ s ∈ pool.spots display,
      (s.followAll contacts).sightOn surface' = s.sightOn surface := by
    have heq := hsights.trans hrest
    rw [sightsOn, List.map_map] at heq
    exact List.map_inj_left.mp heq
  have hspot : ∀ s ∈ pool.spots display, s.followAll contacts = s := fun s hs =>
    eq_of_sightOn (Spot.followAll_sprite contacts s) (hsame s hs)
  have hspots : (pool.spots display).map (·.followAll contacts) = pool.spots display :=
    (List.map_congr_left hspot).trans (List.map_id' _)
  have hrecords : ∀ id, surface'.record? id = surface.record? id := by
    intro id
    by_cases hid : id ∈ spritesOf (pool.spots display)
    · obtain ⟨s, hs, rfl⟩ := List.mem_map.mp hid
      have hsight := hsame s hs
      rw [hspot s hs] at hsight
      exact congrArg SpotSight.record hsight
    · exact hrewritten.others id hid
  have hupdate : pool.update contacts display icons surface = (false, pool, surface') := by
    have hnone : (pool.spots display).any (isLifted contacts) = false :=
      List.any_eq_false.mpr fun s hs => Bool.eq_false_iff.mp (h.shows.not_lifted s hs)
    have hkept : (pool.spots display).map (fadeIfLifted contacts) = pool.spots display := by
      apply (List.map_congr_left _).trans (List.map_id' _)
      intro s hs
      rw [fadeIfLifted, h.shows.not_lifted s hs]
      rfl
    rw [hspots] at hshown
    rw [SpotPool.update, hshown]
    dsimp only
    rw [hnone, hkept, setSpots_spots h.listed]
    rfl
  refine ⟨surface', hupdate, ⟨hrewritten.alive, hrewritten.created, hrewritten.released,
    fun id _ => hrecords id⟩, ?_, h.distinct, h.shows, ?_, h.listed⟩
  · have hhoused := (h.housed.update contacts display icons).1
    rwa [hupdate] at hhoused
  · have hseen : pool.sights surface' display = pool.sights surface display := by
      rw [hspots] at hsights
      exact hsights.trans hrest
    rw [hseen]
    exact h.rest

/-! ## The second report -/

/-- The pool and the surface after the contacts of a display were reported. -/
def report (contacts : List Contact) (display : DisplayId) (icons : SpotIcons)
    (state : SpotPool × Surface) : SpotPool × Surface :=
  (state.1.update contacts display icons state.2).2

/-- Further reports to a settled display leave it settled, and change nothing that can be
seen. -/
theorem Settled.reports (h : Settled owners contacts display icons pool surface) (n : Nat) :
    ∃ surface', (report contacts display icons)^[n] (pool, surface) = (pool, surface') ∧
      Surface.Rewritten [] surface surface' ∧
      Settled owners contacts display icons pool surface' := by
  induction n with
  | zero => exact ⟨surface, rfl, .refl _ _, h⟩
  | succ n ih =>
      obtain ⟨between, hstate, hfirst, hsettled⟩ := ih
      obtain ⟨surface', hupdate, hsecond, hsettled'⟩ := hsettled.update
      refine ⟨surface', ?_, hfirst.trans hsecond, hsettled'⟩
      rw [Function.iterate_succ_apply', hstate, report, hupdate]

/-- After a report of contacts that fit on the display together with those it followed, it is
settled. -/
theorem update_settled (hpositive : 1 ≤ pool.maxSpots) (hhoused : Housed owners pool surface)
    (hroster : Roster pool.maxSpots (pool.spots display))
    (hfit : (down (pool.spots display) ++ contacts.map (·.id)).toFinset.card ≤ pool.maxSpots) :
    Settled owners contacts display icons (pool.update contacts display icons surface).2.1
      (pool.update contacts display icons surface).2.2 where
  housed := (hhoused.update contacts display icons).1
  distinct := (update_roster hpositive hroster contacts icons surface).distinct
  shows := update_showsAll_of_fit hpositive surface hroster hfit
  rest := update_rest hpositive hhoused hroster
  listed := find?_setSpots_ne_nil pool display _

/-- When the same contacts are reported again and again, and fit on the display, the second
report has all of them shown and lets every other spot fade.  Every further one is answered no,
leaves the pool as it is, makes and releases no sprite, and leaves all that sprites show. -/
theorem reports_settle {limit : Nat} (hlimit : pool.maxSpots = max limit 1)
    (hhoused : Housed owners pool surface)
    (hroster : Roster (max limit 1) (pool.spots display))
    (hfit : (contacts.map (·.id)).toFinset.card ≤ max limit 1) (n : Nat) :
    let again := report contacts display icons
    let settled := again^[2] (pool, surface)
    let later := again^[n] settled
    let next := later.1.update contacts display icons later.2
    ShowsAll contacts (settled.1.spots display) ∧
      next.1 = false ∧ next.2.1 = settled.1 ∧
      next.2.2.created = settled.2.created ∧ next.2.2.released = settled.2.released ∧
      ∀ id, next.2.2.record? id = settled.2.record? id := by
  intro again settled later next
  rw [← hlimit] at hroster hfit
  have hpositive : 1 ≤ pool.maxSpots := hlimit ▸ Nat.le_max_right _ _
  have hroster' := update_roster hpositive hroster contacts icons surface
  -- Only listed contacts are followed now, so this time all of them fit.
  have hfit' : (down ((pool.update contacts display icons surface).2.1.spots display) ++
      contacts.map (·.id)).toFinset.card ≤ pool.maxSpots := by
    refine (Finset.card_le_card fun id hid => ?_).trans hfit
    rcases List.mem_append.mp (List.mem_toFinset.mp hid) with hdown | hmem
    · exact List.mem_toFinset.mpr (listed_of_mem_down hdown)
    · exact List.mem_toFinset.mpr hmem
  have hsettled : Settled owners contacts display icons settled.1 settled.2 :=
    update_settled hpositive (hhoused.update contacts display icons).1 hroster' hfit'
  obtain ⟨between, hlater, hfirst, hagain⟩ := hsettled.reports n
  obtain ⟨surface', hnext, hsecond, -⟩ := hagain.update
  have hnext' : next = (false, settled.1, surface') := by
    rw [← hnext]
    exact congrArg (fun state : SpotPool × Surface =>
      state.1.update contacts display icons state.2) hlater
  have hsame := hfirst.trans hsecond
  rw [hnext']
  exact ⟨hsettled.shows, rfl, rfl, hsame.created, hsame.released,
    fun id => hsame.others id List.not_mem_nil⟩

/-- Two fingers on a display that has room for two. -/
def twoFingers : SpotPool × Surface :=
  report [finger 1, finger 2] .builtin Catalogue.plain.spots (new 2 0 1, {})

def thirdFinger : SpotPool × Surface → SpotPool × Surface :=
  report [finger 1, finger 3] .builtin Catalogue.plain.spots

/-- The first report loses the finger that is listed first, and the second brings it back. -/
theorem reports_settle_after_loss :
    twoFingers.1.maxSpots = max 2 1 ∧
      Housed [] twoFingers.1 twoFingers.2 ∧
      Roster (max 2 1) (twoFingers.1.spots .builtin) ∧
      ([finger 1, finger 3].map (·.id)).toFinset.card ≤ max 2 1 ∧
      down ((thirdFinger twoFingers).1.spots .builtin) = [⟨3⟩] ∧
      ShowsAll [finger 1, finger 3] ((thirdFinger^[2] twoFingers).1.spots .builtin) := by
  have hlimit : twoFingers.1.maxSpots = max 2 1 := rfl
  have hhoused : Housed [] twoFingers.1 twoFingers.2 :=
    ((Housed.new Surface.owned_empty 2 0 1).update [finger 1, finger 2] .builtin
      Catalogue.plain.spots).1
  have hroster : Roster (max 2 1) (twoFingers.1.spots .builtin) :=
    ⟨by decide +kernel, by decide +kernel⟩
  have hfit : ([finger 1, finger 3].map (·.id)).toFinset.card ≤ max 2 1 := by decide +kernel
  exact ⟨hlimit, hhoused, hroster, hfit, by decide +kernel,
    (reports_settle hlimit hhoused hroster hfit 0).1⟩

end SpotPool

end ScreenPointer
