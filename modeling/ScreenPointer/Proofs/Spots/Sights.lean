/-
# What can be seen of spots

A sight of a spot is everything about it but the name of its sprite, together with the
record of that sprite.  Whatever is done to the spots of a display, the sights afterwards
depend on the sights before, and on nothing else: not on the names of sprites, not on what
is spare, and not on what a sprite was used for before, because a spot that has not been
shown yet has every part of its sprite's record written.
-/

import ScreenPointer.Proofs.Spots.Custody

namespace ScreenPointer

structure SpotSight where
  phase : SpotPhase
  position : Point
  alpha : Single
  shown : Option SpotKind
  record : Option SpriteRecord
  deriving DecidableEq

def Spot.sightOn (s : Spot) (surface : Surface) : SpotSight :=
  ⟨s.phase, s.position, s.alpha, s.shown, surface.record? s.sprite⟩

def sightsOn (spots : List Spot) (surface : Surface) : List SpotSight :=
  spots.map (·.sightOn surface)

namespace SpotSight

/-- A spot after it was moved to its contact. -/
def painted (v : SpotSight) (scale : Single) (icons : SpotIcons) (display : DisplayId)
    (contact : Contact) : SpotSight :=
  let kind := SpotKind.ofContact contact
  { v with
    position := contact.position
    shown := some kind
    record := v.record.map fun r =>
      let placed := { r with
        layer := Spot.layer contact.id
        alpha := v.alpha
        transform := .scale scale
        position := contact.position
        display }
      if v.shown = some kind then placed
      else { placed with icon := some (kind.icon icons), visible := true } }

def fresh (scale : Single) (icons : SpotIcons) (display : DisplayId) (contact : Contact) :
    SpotSight :=
  painted ⟨.active contact.id, .origin, 1, none, some {}⟩ scale icons display contact

def faded (v : SpotSight) : SpotSight := { v with phase := .fading }

/-- A spot after one step of fading, if it is still there. -/
def dimmed? (delta : Single) (v : SpotSight) : Option SpotSight :=
  if v.phase = .fading then
    let alpha := v.alpha - delta
    if alpha.atMost 0 then none
    else some { v with alpha, record := v.record.map fun r => { r with alpha } }
  else some v

end SpotSight

/-- A function that goes by what two lists agree on cannot tell them apart. -/
theorem map_eq_map_of_map_eq {α β γ δ : Type} {f : α → γ} {g : β → γ} {f' : α → δ} {g' : β → δ}
    (hagree : ∀ a b, f a = g b → f' a = g' b) {first : List α} {second : List β}
    (h : first.map f = second.map g) : first.map f' = second.map g' := by
  induction first generalizing second with
  | nil =>
      rw [List.map_eq_nil_iff.mp h.symm]
      rfl
  | cons a rest ih =>
      obtain ⟨b, rest', rfl, hab, hrest⟩ := List.map_eq_cons_iff.mp h.symm
      rw [List.map_cons, List.map_cons, hagree a b hab.symm, ih hrest.symm]

theorem sightsOn_cons (s : Spot) (rest : List Spot) (surface : Surface) :
    sightsOn (s :: rest) surface = s.sightOn surface :: sightsOn rest surface := rfl

theorem sightsOn_cons_inv {s : Spot} {rest spots : List Spot} {first second : Surface}
    (h : sightsOn (s :: rest) first = sightsOn spots second) :
    ∃ t rest', spots = t :: rest' ∧ s.sightOn first = t.sightOn second ∧
      sightsOn rest first = sightsOn rest' second := by
  obtain ⟨t, rest', rfl, hst, hrest⟩ := List.map_eq_cons_iff.mp h.symm
  exact ⟨t, rest', rfl, hst.symm, hrest.symm⟩

theorem sightsOn_nil_inv {spots : List Spot} {first second : Surface}
    (h : sightsOn [] first = sightsOn spots second) : spots = [] :=
  List.map_eq_nil_iff.mp h.symm

/-- Sprites that were spared look as before. -/
theorem SpriteStock.Spares.sights {owners : List SpriteId} {before after : SpriteStock}
    (h : Spares owners before after) {spots : List Spot} (hspots : ∀ s ∈ spots, s.sprite ∈ owners) :
    sightsOn spots after.surface = sightsOn spots before.surface := by
  apply List.map_congr_left
  intro s hs
  rw [Spot.sightOn, h.records s.sprite (hspots s hs)]
  rfl

namespace SpotPool

open SpriteStock (Spares Leaves)

variable {stock stock' : SpriteStock} {owners owners' : List SpriteId} {spots spots' : List Spot}
  {scale : Single} {icons : SpotIcons} {display : DisplayId} {contact : Contact}

theorem sights_of_spares {before after : SpriteStock}
    (h : Spares (spritesOf spots ++ owners) before after) :
    sightsOn spots after.surface = sightsOn spots before.surface :=
  h.sights fun s hs => List.mem_append_left _ (List.mem_map.mpr ⟨s, hs, rfl⟩)

theorem sight_of_spares {before after : SpriteStock} {s : Spot}
    (h : Spares ([s.sprite] ++ owners) before after) :
    s.sightOn after.surface = s.sightOn before.surface := by
  rw [Spot.sightOn, h.records s.sprite (List.mem_append_left _ (List.mem_singleton_self _))]
  rfl

/-! ## Showing contacts -/

theorem moveSpot_sight (s : Spot) (surface : Surface) :
    (moveSpot scale icons display contact s surface).1.sightOn
        (moveSpot scale icons display contact s surface).2 =
      (s.sightOn surface).painted scale icons display contact := by
  rw [moveSpot_fst]
  unfold moveSpot
  dsimp only
  split
  · rename_i hshown
    simp [Spot.sightOn, Spot.moved, SpotSight.painted, hshown, Surface.setLayer, Surface.setAlpha,
      Surface.setTransform, Surface.setPosition, Surface.setDisplay, Function.comp_def]
  · rename_i hshown
    simp [Spot.sightOn, Spot.moved, SpotSight.painted, hshown, Surface.setLayer, Surface.setAlpha,
      Surface.setTransform, Surface.setPosition, Surface.setDisplay, Surface.setIcon,
      Surface.setVisible, Function.comp_def]

/-- A sprite that is handed out keeps nothing of what it showed before. -/
theorem enlist_sights {kept : List Spot} {stock : SpriteStock}
    (h : stock.Guards (spritesOf kept ++ owners)) (scale : Single) (icons : SpotIcons)
    (display : DisplayId) (contact : Contact) :
    sightsOn (kept ++ [(moveSpot scale icons display contact (.new contact.id stock.take.1)
        stock.take.2.surface).1])
      (moveSpot scale icons display contact (.new contact.id stock.take.1)
        stock.take.2.surface).2 =
      sightsOn kept stock.surface ++ [.fresh scale icons display contact] := by
  have htaken := h.take
  have hmoved := moveSpot_leaves (s := .new contact.id stock.take.1) scale icons display contact
    htaken.guards
  have hkept := sights_of_spares (htaken.toSpares.trans hmoved.toSpares)
  obtain ⟨r, hr⟩ := htaken.guards.exists_record List.mem_cons_self
  have hnew : (moveSpot scale icons display contact (.new contact.id stock.take.1)
      stock.take.2.surface).1.sightOn (moveSpot scale icons display contact
        (.new contact.id stock.take.1) stock.take.2.surface).2 =
        .fresh scale icons display contact := by
    rw [moveSpot_sight, Spot.sightOn, Spot.new, hr]
    rfl
  rw [sightsOn, List.map_append, List.map_singleton, hnew]
  exact congrArg (· ++ _) hkept

/-- The same spot is displaced, whatever draws it. -/
theorem takeFading_sights {first second : Surface}
    (h : sightsOn spots first = sightsOn spots' second) :
    (takeFading spots).map (fun found => (found.1.sightOn first, sightsOn found.2 first)) =
      (takeFading spots').map fun found => (found.1.sightOn second, sightsOn found.2 second) := by
  induction spots generalizing spots' with
  | nil =>
      rw [sightsOn_nil_inv h]
      rfl
  | cons s rest ih =>
      obtain ⟨t, rest', rfl, hst, hrest⟩ := sightsOn_cons_inv h
      have hfading : s.isFading = t.isFading := by
        rw [Spot.isFading, Spot.isFading, show s.phase = t.phase from congrArg SpotSight.phase hst]
      unfold takeFading
      rw [hfading]
      split
      · rw [Option.map_some, Option.map_some, hst, hrest]
      · have hothers := congrArg (Option.map fun found : SpotSight × List SpotSight =>
          (found.1, t.sightOn second :: found.2)) (ih hrest)
        rw [Option.map_map, Option.map_map] at hothers ⊢
        simpa only [Function.comp_def, sightsOn, List.map_cons, hst] using hothers

theorem takeVictim_sights {first second : Surface}
    (h : sightsOn spots first = sightsOn spots' second) :
    (takeVictim spots).map (fun found => (found.1.sightOn first, sightsOn found.2 first)) =
      (takeVictim spots').map fun found => (found.1.sightOn second, sightsOn found.2 second) := by
  have hfading := takeFading_sights h
  unfold takeVictim
  cases hfound : takeFading spots with
  | some found =>
      rw [hfound] at hfading
      obtain ⟨found', hfound', heq⟩ := Option.map_eq_some_iff.mp hfading.symm
      rw [hfound', Option.map_some, Option.map_some, heq]
  | none =>
      rw [hfound] at hfading
      rw [Option.map_eq_none_iff.mp hfading.symm]
      cases spots with
      | nil =>
          rw [sightsOn_nil_inv h]
          rfl
      | cons s rest =>
          obtain ⟨t, rest', rfl, hst, hrest⟩ := sightsOn_cons_inv h
          rw [Option.map_some, Option.map_some, hst, hrest]

theorem makeRoom_sights (capacity rounds : Nat) (hguards : stock.Guards (spritesOf spots ++ owners))
    (hguards' : stock'.Guards (spritesOf spots' ++ owners'))
    (h : sightsOn spots stock.surface = sightsOn spots' stock'.surface) :
    sightsOn (makeRoom capacity rounds spots stock).1
        (makeRoom capacity rounds spots stock).2.surface =
      sightsOn (makeRoom capacity rounds spots' stock').1
        (makeRoom capacity rounds spots' stock').2.surface := by
  induction rounds generalizing spots spots' stock stock' with
  | zero => exact h
  | succ rounds ih =>
      have hlength : spots.length = spots'.length := by
        simpa [sightsOn] using congrArg List.length h
      have hvictims := takeVictim_sights h
      unfold makeRoom
      rw [hlength]
      split
      · exact h
      · cases hvictim : takeVictim spots with
        | none =>
            rw [hvictim] at hvictims
            rw [Option.map_eq_none_iff.mp hvictims.symm]
            exact h
        | some found =>
            rw [hvictim] at hvictims
            obtain ⟨found', hvictim', heq⟩ := Option.map_eq_some_iff.mp hvictims.symm
            rw [hvictim']
            have hperm := ((takeVictim_perm hvictim).map (·.sprite)).append_right owners
            have hperm' := ((takeVictim_perm hvictim').map (·.sprite)).append_right owners'
            have hgiven := (hguards.perm hperm).giveBack
            have hgiven' := (hguards'.perm hperm').giveBack
            refine ih hgiven.guards hgiven'.guards ?_
            have hothers := congrArg Prod.snd heq
            exact (sights_of_spares hgiven.toSpares).trans
              (hothers.symm.trans (sights_of_spares hgiven'.toSpares).symm)

theorem moveFollower_sights (scale : Single) (icons : SpotIcons) (display : DisplayId)
    (contact : Contact) (hguards : stock.Guards (spritesOf spots ++ owners))
    (hguards' : stock'.Guards (spritesOf spots' ++ owners'))
    (h : sightsOn spots stock.surface = sightsOn spots' stock'.surface) :
    (moveFollower scale icons display contact spots stock.surface).map
        (fun moved => sightsOn moved.1 moved.2) =
      (moveFollower scale icons display contact spots' stock'.surface).map
        fun moved => sightsOn moved.1 moved.2 := by
  induction spots generalizing spots' owners owners' with
  | nil =>
      rw [sightsOn_nil_inv h]
      rfl
  | cons s rest ih =>
      obtain ⟨t, rest', rfl, hst, hrest⟩ := sightsOn_cons_inv h
      have hfollows : s.follows contact.id = t.follows contact.id := by
        rw [Spot.follows, Spot.follows, show s.phase = t.phase from congrArg SpotSight.phase hst]
      unfold moveFollower
      rw [hfollows]
      split
      · have hmoved := moveSpot_leaves scale icons display contact hguards
        have hmoved' := moveSpot_leaves scale icons display contact hguards'
        have hothers := (sights_of_spares hmoved.toSpares).trans
          (hrest.trans (sights_of_spares hmoved'.toSpares).symm)
        have hhead := (moveSpot_sight s stock.surface).trans
          ((congrArg (SpotSight.painted · scale icons display contact) hst).trans
            (moveSpot_sight t stock'.surface).symm)
        have hall : sightsOn ((moveSpot scale icons display contact s stock.surface).1 :: rest)
            (moveSpot scale icons display contact s stock.surface).2 =
            sightsOn ((moveSpot scale icons display contact t stock'.surface).1 :: rest')
              (moveSpot scale icons display contact t stock'.surface).2 := by
          rw [sightsOn_cons, sightsOn_cons, hhead, hothers]
        exact congrArg some hall
      · have hothers := ih (guards_aside hguards) (guards_aside hguards') hrest
        cases hfound : moveFollower scale icons display contact rest stock.surface with
        | none =>
            rw [hfound] at hothers
            rw [Option.map_eq_none_iff.mp hothers.symm]
            rfl
        | some moved =>
            rw [hfound] at hothers
            obtain ⟨moved', hfound', heq⟩ := Option.map_eq_some_iff.mp hothers.symm
            rw [hfound']
            have hleft := moveFollower_leaves (guards_aside hguards) hfound
            have hleft' := moveFollower_leaves (guards_aside hguards') hfound'
            have hhead := (sight_of_spares hleft.toSpares).trans
              (hst.trans (sight_of_spares hleft'.toSpares).symm)
            have hall : sightsOn (s :: moved.1) moved.2 = sightsOn (t :: moved'.1) moved'.2 := by
              rw [sightsOn_cons, sightsOn_cons, hhead, heq]
            exact congrArg some hall

variable {pool pool' : SpotPool}

theorem showContact_sights (icons : SpotIcons) (display : DisplayId) (contact : Contact)
    (hscale : pool'.scale = pool.scale) (hmax : pool'.maxSpots = pool.maxSpots)
    (hguards : stock.Guards (spritesOf spots ++ owners))
    (hguards' : stock'.Guards (spritesOf spots' ++ owners'))
    (h : sightsOn spots stock.surface = sightsOn spots' stock'.surface) :
    sightsOn (pool.showContact icons display contact spots stock).1
        (pool.showContact icons display contact spots stock).2.surface =
      sightsOn (pool'.showContact icons display contact spots' stock').1
        (pool'.showContact icons display contact spots' stock').2.surface := by
  have hmoved := moveFollower_sights pool.scale icons display contact hguards hguards' h
  unfold showContact
  rw [hscale, hmax]
  cases hfound : moveFollower pool.scale icons display contact spots stock.surface with
  | some moved =>
      rw [hfound] at hmoved
      obtain ⟨moved', hfound', heq⟩ := Option.map_eq_some_iff.mp hmoved.symm
      rw [hfound']
      exact heq.symm
  | none =>
      rw [hfound] at hmoved
      rw [Option.map_eq_none_iff.mp hmoved.symm]
      have hlength : spots.length = spots'.length := by
        simpa [sightsOn] using congrArg List.length h
      have hroom := makeRoom_sights pool.maxSpots spots.length hguards hguards' h
      have hleft := makeRoom_leaves pool.maxSpots spots.length hguards
      have hleft' := makeRoom_leaves pool.maxSpots spots.length hguards'
      rw [← hlength]
      dsimp only
      rw [enlist_sights hleft.guards, enlist_sights hleft'.guards, hroom]

theorem showContacts_sights (icons : SpotIcons) (display : DisplayId) (contacts : List Contact)
    (hscale : pool'.scale = pool.scale) (hmax : pool'.maxSpots = pool.maxSpots)
    (hguards : stock.Guards (spritesOf spots ++ owners))
    (hguards' : stock'.Guards (spritesOf spots' ++ owners'))
    (h : sightsOn spots stock.surface = sightsOn spots' stock'.surface) :
    sightsOn (pool.showContacts icons display contacts spots stock).1
        (pool.showContacts icons display contacts spots stock).2.surface =
      sightsOn (pool'.showContacts icons display contacts spots' stock').1
        (pool'.showContacts icons display contacts spots' stock').2.surface := by
  induction contacts generalizing spots spots' stock stock' with
  | nil => exact h
  | cons contact rest ih =>
      exact ih (showContact_leaves pool icons display contact hguards).guards
        (showContact_leaves pool' icons display contact hguards').guards
        (showContact_sights icons display contact hscale hmax hguards hguards' h)

theorem isLifted_of_sight {s t : Spot} {first second : Surface} (contacts : List Contact)
    (h : s.sightOn first = t.sightOn second) : isLifted contacts s = isLifted contacts t := by
  rw [isLifted, isLifted, show s.phase = t.phase from congrArg SpotSight.phase h]

theorem fadeIfLifted_sight {s t : Spot} {first second : Surface} (contacts : List Contact)
    (h : s.sightOn first = t.sightOn second) :
    (fadeIfLifted contacts s).sightOn first = (fadeIfLifted contacts t).sightOn second := by
  rw [fadeIfLifted, fadeIfLifted, isLifted_of_sight contacts h]
  split
  · exact congrArg SpotSight.faded h
  · exact h

/-! ## Fading -/

/-- One step of fading lets every spot of a display appear as it would by itself. -/
theorem dimSpots_sights (delta : Single) (h : stock.Guards (spritesOf spots ++ owners)) :
    sightsOn (dimSpots delta spots stock).1 (dimSpots delta spots stock).2.surface =
      (sightsOn spots stock.surface).filterMap (SpotSight.dimmed? delta) := by
  induction spots generalizing stock owners with
  | nil => rfl
  | cons s rest ih =>
      have hfades : (s.sightOn stock.surface).dimmed? delta =
          if s.isFading then
            if (s.alpha - delta).atMost 0 then none
            else some ({ s with alpha := s.alpha - delta }.sightOn
              (stock.surface.setAlpha s.sprite (s.alpha - delta)))
          else some (s.sightOn stock.surface) := by
        by_cases hphase : s.phase = .fading <;>
          simp [SpotSight.dimmed?, Spot.sightOn, Spot.isFading, Surface.setAlpha, hphase]
      rw [sightsOn_cons, List.filterMap_cons, hfades]
      unfold dimSpots
      dsimp only
      split
      · split
        · have hgiven := SpriteStock.Guards.giveBack h
          rw [ih hgiven.guards, sights_of_spares hgiven.toSpares]
        · have hdimmed := SpriteStock.Guards.write h ((Surface.Confined.refl s.sprite
            stock.surface).change fun r => { r with alpha := s.alpha - delta })
          have haside := guards_aside hdimmed.guards
          have hothers := (ih haside).trans
            (congrArg (List.filterMap (SpotSight.dimmed? delta))
              (sights_of_spares hdimmed.toSpares))
          have hhead := sight_of_spares (s := { s with alpha := s.alpha - delta })
            (dimSpots_leaves delta haside).toSpares
          exact congr (congrArg List.cons hhead) hothers
      · have haside := guards_aside h
        exact congr (congrArg List.cons (sight_of_spares (dimSpots_leaves delta haside).toSpares))
          (ih haside)

/-- How a display appears after one step of fading does not depend on the other displays, nor on
the order in which displays are visited. -/
theorem dimDisplays_sights (delta : Single) {table : Keyed DisplayId (List Spot)}
    (hunique : Keyed.Unique table) (h : stock.Guards (spritesIn table ++ owners))
    (display : DisplayId) :
    sightsOn ((Keyed.find? display (dimDisplays delta table stock).1).getD [])
        (dimDisplays delta table stock).2.surface =
      (sightsOn ((Keyed.find? display table).getD []) stock.surface).filterMap
        (SpotSight.dimmed? delta) := by
  induction table generalizing stock owners with
  | nil => rfl
  | cons e rest ih =>
      obtain ⟨first, spots⟩ := e
      obtain ⟨hfirst, hrest⟩ := List.nodup_cons.mp hunique
      rw [spritesIn_cons, List.append_assoc] at h
      have hspots := dimSpots_sights delta h
      have hleft := dimSpots_leaves delta h
      unfold dimDisplays
      dsimp only
      generalize dimSpots delta spots stock = dimmed at hspots hleft ⊢
      obtain ⟨left, between⟩ := dimmed
      have hguards := hleft.guards.perm (List.perm_append_comm_assoc _ _ _)
      have hothers := dimDisplays_leaves delta hguards
      by_cases heq : first = display
      · -- Its turn has come: later displays spare what is left of it.
        subst heq
        have hgone : Keyed.find? first (dimDisplays delta rest between).1 = none :=
          Keyed.find?_eq_none_iff.mpr fun pair hmem hkey => hfirst
            ((dimDisplays_keys delta rest between).subset (List.mem_map.mpr ⟨pair, hmem, hkey⟩))
        have hshown : Keyed.find? first (if left.isEmpty then (dimDisplays delta rest between).1
            else (first, left) :: (dimDisplays delta rest between).1) =
              if left.isEmpty then none else some left := by
          split
          · exact hgone
          · rw [Keyed.find?, if_pos rfl]
        rw [hshown, Keyed.find?, if_pos rfl, Option.getD_some, ← hspots,
          ← sights_of_spares hothers.toSpares]
        split
        · rename_i hempty
          rw [List.isEmpty_iff.mp hempty]
          rfl
        · rfl
      · -- Another display comes first, and spares it.
        have hshown : Keyed.find? display (if left.isEmpty then (dimDisplays delta rest between).1
            else (first, left) :: (dimDisplays delta rest between).1) =
              Keyed.find? display (dimDisplays delta rest between).1 := by
          split
          · rfl
          · rw [Keyed.find?, if_neg heq]
        have hspared : sightsOn ((Keyed.find? display rest).getD []) between.surface =
            sightsOn ((Keyed.find? display rest).getD []) stock.surface := by
          refine hleft.toSpares.sights fun s hs => List.mem_append_left _ ?_
          cases hfind : Keyed.find? display rest with
          | none =>
              rw [hfind] at hs
              cases hs
          | some found =>
              rw [hfind] at hs
              exact mem_spritesIn (Keyed.mem_of_find? hfind) hs
        rw [hshown, Keyed.find?, if_neg heq, ← hspared]
        exact ih hrest hguards

/-! ## Pools -/

def sights (pool : SpotPool) (surface : Surface) (display : DisplayId) : List SpotSight :=
  sightsOn (pool.spots display) surface

namespace Housed

variable {surface surface' : Surface}

/-- Displays may be visited in any order. -/
theorem sights_reorder (h : Housed owners pool surface) {table : Keyed DisplayId (List Spot)}
    (hperm : table.Perm pool.byDisplay) (display : DisplayId) :
    { pool with byDisplay := table }.sights surface display = pool.sights surface display := by
  have hfind := Keyed.find?_of_perm h.unique hperm.symm display
  exact congrArg (fun found : Option (List Spot) => sightsOn (found.getD []) surface) hfind

/-- Showing the contacts of a display changes no other display. -/
theorem update_sights_of_ne (h : Housed owners pool surface) (contacts : List Contact)
    (icons : SpotIcons) {display other : DisplayId} (hne : other ≠ display) :
    (pool.update contacts display icons surface).2.1.sights
        (pool.update contacts display icons surface).2.2 other = pool.sights surface other := by
  have hspots : (pool.update contacts display icons surface).2.1.spots other = pool.spots other :=
    pool.spots_setSpots_of_ne hne _
  have hspared := (h.update contacts display icons).2
  rw [sights, hspots]
  refine hspared.sights fun s hs => ?_
  unfold SpotPool.spots at hs
  rw [← Keyed.find?_erase_of_ne hne] at hs
  cases hfind : Keyed.find? other (Keyed.erase display pool.byDisplay) with
  | none =>
      rw [hfind] at hs
      cases hs
  | some found =>
      rw [hfind] at hs
      exact mem_spritesIn (Keyed.mem_of_find? hfind) hs

/-- What showing contacts makes of a display, and whether a spot starts to fade, depends on how
the display appeared and on nothing else. -/
theorem update_sights (h : Housed owners pool surface) (h' : Housed owners' pool' surface')
    (hscale : pool'.scale = pool.scale) (hmax : pool'.maxSpots = pool.maxSpots)
    (contacts : List Contact) (icons : SpotIcons) {display : DisplayId}
    (hsights : pool.sights surface display = pool'.sights surface' display) :
    (pool.update contacts display icons surface).2.1.sights
        (pool.update contacts display icons surface).2.2 display =
      (pool'.update contacts display icons surface').2.1.sights
        (pool'.update contacts display icons surface').2.2 display ∧
    (pool.update contacts display icons surface).1 =
      (pool'.update contacts display icons surface').1 := by
  have hshown := showContacts_sights icons display contacts hscale hmax
    (h.guards_display display) (h'.guards_display display) hsights
  unfold SpotPool.update SpotPool.sights
  dsimp only
  generalize pool.showContacts icons display contacts (pool.spots display) (pool.stock surface) =
    made at hshown ⊢
  generalize pool'.showContacts icons display contacts (pool'.spots display)
    (pool'.stock surface') = made' at hshown ⊢
  obtain ⟨shown, stock⟩ := made
  obtain ⟨shown', stock'⟩ := made'
  refine ⟨?_, ?_⟩
  · have hfaded : sightsOn (shown.map (fadeIfLifted contacts)) stock.surface =
        sightsOn (shown'.map (fadeIfLifted contacts)) stock'.surface := by
      rw [sightsOn, sightsOn, List.map_map, List.map_map]
      exact map_eq_map_of_map_eq (fun _ _ => fadeIfLifted_sight contacts) hshown
    have hspots := pool.spots_setSpots_self display (shown.map (fadeIfLifted contacts))
    have hspots' := pool'.spots_setSpots_self display (shown'.map (fadeIfLifted contacts))
    calc sightsOn ((pool.setSpots display (shown.map (fadeIfLifted contacts))).spots display)
          stock.surface
        = sightsOn (shown.map (fadeIfLifted contacts)) stock.surface := by rw [hspots]
      _ = sightsOn (shown'.map (fadeIfLifted contacts)) stock'.surface := hfaded
      _ = sightsOn ((pool'.setSpots display (shown'.map (fadeIfLifted contacts))).spots display)
          stock'.surface := by rw [hspots']
  · have hlifted : shown.map (isLifted contacts) = shown'.map (isLifted contacts) :=
      map_eq_map_of_map_eq (fun _ _ => isLifted_of_sight contacts) hshown
    have hany := congrArg (List.any · id) hlifted
    rw [List.any_map, List.any_map] at hany
    exact hany

theorem fadeAll_sights (pool : SpotPool) (surface : Surface) (display : DisplayId) :
    pool.fadeAll.2.sights surface display =
      (pool.sights surface display).map SpotSight.faded := by
  have hfind : Keyed.find? display pool.fadeAll.2.byDisplay =
      (Keyed.find? display pool.byDisplay).map (·.map fun s => { s with phase := .fading }) :=
    Keyed.find?_mapValues _ display pool.byDisplay
  unfold SpotPool.sights SpotPool.spots
  rw [hfind]
  cases Keyed.find? display pool.byDisplay with
  | none => rfl
  | some spots =>
      rw [Option.map_some, Option.getD_some, Option.getD_some, sightsOn, sightsOn, List.map_map,
        List.map_map]
      rfl

theorem advanceFades_sights (h : Housed owners pool surface) (delta : Single)
    (display : DisplayId) :
    (pool.advanceFades delta surface).2.1.sights (pool.advanceFades delta surface).2.2 display =
      (pool.sights surface display).filterMap (SpotSight.dimmed? delta) :=
  dimDisplays_sights delta h.unique h.guards display

end Housed

end SpotPool

end ScreenPointer
