/-
# The upkeep of spot sprites

Every spot is drawn by a sprite of its own whose record says what the spot says,
and every spare sprite is blank.  `Tended` states this for all spots of all
displays at once, together with the pointer's sprite, which no operation on
spots touches.  The operations move one sprite at a time: from a spot to the
stock, from the stock or the surface to a new spot.
-/

import ScreenPointer.Proofs.Keyed
import ScreenPointer.Proofs.Spots.Arrival
import ScreenPointer.Proofs.Surface

namespace ScreenPointer

/-- The record of a sprite that draws a spot on a display. -/
structure SpriteRecord.Draws (r : SpriteRecord) (spot : Spot) (display : DisplayId)
    (scale : Single) (icons : SpotIcons) : Prop where
  position : r.position = spot.position
  alpha : r.alpha = spot.alpha
  display : r.display = display
  transform : r.transform = .scale scale
  visible : r.visible = true
  icon : ∃ kind, spot.shown = some kind ∧ r.icon = some (kind.icon icons)
  isSpot : r.isSpot = true
  layer : ∀ contact, spot.phase = .active contact → r.layer = Spot.layer contact

/-- The sprite of a spot also draws it while it fades. -/
theorem SpriteRecord.Draws.fading {r : SpriteRecord} {s : Spot} {display : DisplayId}
    {scale : Single} {icons : SpotIcons} (h : r.Draws s display scale icons) :
    r.Draws { s with phase := .fading } display scale icons :=
  ⟨h.position, h.alpha, h.display, h.transform, h.visible, h.icon, h.isSpot, nofun⟩

/-- The record of a sprite kept for later. -/
structure SpriteRecord.IsBlank (r : SpriteRecord) : Prop where
  icon : r.icon = none
  isSpot : r.isSpot = true

theorem Spot.layer_bounds (contact : ContactId) :
    Layer.spot ≤ Spot.layer contact ∧ Spot.layer contact < Layer.pointer := by
  unfold Spot.layer Layer.spot Layer.pointer
  omega

/-- What the records on a surface say: the pointer's is `look`, each spot is drawn by
its sprite, and spare sprites are blank. -/
structure Surface.Records (s : Surface) (pointer : SpriteId) (look : Option SpriteRecord)
    (scale : Single) (icons : SpotIcons) (live : List (DisplayId × Spot))
    (spare : List SpriteId) : Prop where
  pointer : s.record? pointer = look
  drawn : ∀ e ∈ live, ∃ r, s.record? e.2.sprite = some r ∧ r.Draws e.2 e.1 scale icons
  blank : ∀ id ∈ spare, ∃ r, s.record? id = some r ∧ r.IsBlank

def spriteOwners (pointer : SpriteId) (live : List (DisplayId × Spot))
    (spare : List SpriteId) : List SpriteId :=
  pointer :: (live.map (·.2.sprite) ++ spare)

namespace Surface.Records

variable {s s' : Surface} {pointer : SpriteId} {look : Option SpriteRecord} {scale : Single}
  {icons : SpotIcons} {live live' : List (DisplayId × Spot)} {spare : List SpriteId}

/-- Only the records of owned sprites matter. -/
theorem agree (h : s.Records pointer look scale icons live spare)
    (hsame : ∀ id ∈ spriteOwners pointer live spare, s'.record? id = s.record? id) :
    s'.Records pointer look scale icons live spare where
  pointer := (hsame pointer List.mem_cons_self).trans h.pointer
  drawn e he := by
    obtain ⟨r, hr, hdraw⟩ := h.drawn e he
    have hmem : e.2.sprite ∈ spriteOwners pointer live spare :=
      List.mem_cons_of_mem _ (List.mem_append_left _ (List.mem_map.mpr ⟨e, he, rfl⟩))
    exact ⟨r, (hsame _ hmem).trans hr, hdraw⟩
  blank id hid := by
    obtain ⟨r, hr, hblank⟩ := h.blank id hid
    exact ⟨r, (hsame id (List.mem_cons_of_mem _ (List.mem_append_right _ hid))).trans hr, hblank⟩

theorem ofSubset (h : s.Records pointer look scale icons live spare)
    (hsubset : ∀ e ∈ live', e ∈ live) : s.Records pointer look scale icons live' spare :=
  ⟨h.pointer, fun e he => h.drawn e (hsubset e he), h.blank⟩

theorem addSpot (h : s.Records pointer look scale icons live spare) {display : DisplayId}
    {spot : Spot} {r : SpriteRecord} (hr : s.record? spot.sprite = some r)
    (hdraw : r.Draws spot display scale icons) :
    s.Records pointer look scale icons ((display, spot) :: live) spare :=
  ⟨h.pointer, List.forall_mem_cons.mpr ⟨⟨r, hr, hdraw⟩, h.drawn⟩, h.blank⟩

theorem addSpare (h : s.Records pointer look scale icons live spare) {id : SpriteId}
    {r : SpriteRecord} (hr : s.record? id = some r) (hblank : r.IsBlank) :
    s.Records pointer look scale icons live (id :: spare) :=
  ⟨h.pointer, h.drawn, List.forall_mem_cons.mpr ⟨⟨r, hr, hblank⟩, h.blank⟩⟩

end Surface.Records

namespace SpriteStock

/-- The sprites on a surface are the pointer's, one for each live spot and the spare
ones, and their records say so. -/
structure Tended (pointer : SpriteId) (look : Option SpriteRecord) (scale : Single)
    (icons : SpotIcons) (room : Nat) (live : List (DisplayId × Spot)) (stock : SpriteStock) :
    Prop where
  owned : stock.surface.Owned (spriteOwners pointer live stock.spare)
  records : stock.surface.Records pointer look scale icons live stock.spare
  shelf : stock.spare.length ≤ stock.capacity
  room : stock.capacity = room

namespace Tended

variable {pointer : SpriteId} {look : Option SpriteRecord} {scale : Single}
  {icons : SpotIcons} {room : Nat} {live live' : List (DisplayId × Spot)} {stock : SpriteStock}

theorem perm (h : Tended pointer look scale icons room live stock) (hperm : live.Perm live') :
    Tended pointer look scale icons room live' stock where
  owned := h.owned.perm (((hperm.map _).append_right _).cons _)
  records := h.records.ofSubset fun _ he => hperm.mem_iff.mpr he
  shelf := h.shelf
  room := h.room

/-- Some of the spots may change as long as their sprites still draw them. -/
theorem mapSpots {rest : List (DisplayId × Spot)}
    (h : Tended pointer look scale icons room (live ++ rest) stock) (f : Spot → Spot)
    (hsprite : ∀ s, (f s).sprite = s.sprite)
    (hdraws : ∀ (r : SpriteRecord) (s : Spot) (display : DisplayId),
      r.Draws s display scale icons → r.Draws (f s) display scale icons) :
    Tended pointer look scale icons room (live.map (fun e => (e.1, f e.2)) ++ rest) stock where
  owned := by
    have hsame : spriteOwners pointer (live.map (fun e => (e.1, f e.2)) ++ rest) stock.spare =
        spriteOwners pointer (live ++ rest) stock.spare := by
      simp [spriteOwners, Function.comp_def, hsprite]
    rw [hsame]
    exact h.owned
  records := by
    refine ⟨h.records.pointer, fun e he => ?_, h.records.blank⟩
    rcases List.mem_append.mp he with hchanged | hrest
    · obtain ⟨e, hmem, rfl⟩ := List.mem_map.mp hchanged
      obtain ⟨r, hr, hdraw⟩ := h.records.drawn e (List.mem_append_left _ hmem)
      exact ⟨r, by rw [hsprite]; exact hr, hdraws r e.2 e.1 hdraw⟩
    · exact h.records.drawn e (List.mem_append_right _ hrest)
  shelf := h.shelf
  room := h.room

/-- The sprite of a spot comes first among the owners, and is none of the others. -/
theorem owners_perm (display : DisplayId) (s : Spot) (spare : List SpriteId) :
    (spriteOwners pointer ((display, s) :: live) spare).Perm
      (s.sprite :: spriteOwners pointer live spare) :=
  .swap _ _ _

theorem apart {display : DisplayId} {s : Spot}
    (h : Tended pointer look scale icons room ((display, s) :: live) stock) :
    ∀ id ∈ spriteOwners pointer live stock.spare, id ≠ s.sprite :=
  fun _ => (h.owned.perm (owners_perm display s stock.spare)).ne_head

/-- One spot moves on together with its sprite. -/
theorem moveOn {display : DisplayId} {s s' : Spot} {surface : Surface}
    (h : Tended pointer look scale icons room ((display, s) :: live) stock)
    (hconf : Surface.Confined s.sprite stock.surface surface) (hsprite : s'.sprite = s.sprite)
    (hdraws : ∀ r, stock.surface.record? s.sprite = some r → r.Draws s display scale icons →
      ∃ r', surface.record? s.sprite = some r' ∧ r'.Draws s' display scale icons) :
    Tended pointer look scale icons room ((display, s') :: live) { stock with surface } where
  owned := by
    have howned := h.owned.confined hconf
    unfold spriteOwners at *
    rwa [List.map_cons, ← hsprite] at howned
  records := by
    obtain ⟨r, hr, hdraw⟩ := h.records.drawn _ List.mem_cons_self
    obtain ⟨r', hr', hdraw'⟩ := hdraws r hr hdraw
    have hrest := (h.records.ofSubset fun e he => List.mem_cons_of_mem _ he).agree
      fun id hid => hconf.others id (h.apart id hid)
    exact hrest.addSpot (hsprite ▸ hr') hdraw'
  shelf := h.shelf
  room := h.room

/-- The sprite of a spot that is done goes back to the stock. -/
theorem giveBack {display : DisplayId} {s : Spot}
    (h : Tended pointer look scale icons room ((display, s) :: live) stock) :
    Tended pointer look scale icons room live (stock.giveBack s.sprite) := by
  have hconf : Surface.Confined s.sprite stock.surface (stock.surface.clearIcon s.sprite) :=
    (Surface.Confined.refl _ _).change _
  have howned := (h.owned.perm (owners_perm display s stock.spare)).confined hconf
  have hrecords := (h.records.ofSubset fun e he => List.mem_cons_of_mem _ he).agree
    fun id hid => hconf.others id (h.apart id hid)
  obtain ⟨r, hr, hdraw⟩ := h.records.drawn _ List.mem_cons_self
  have hcleared : (stock.surface.clearIcon s.sprite).record? s.sprite =
      some { r with icon := none } := by
    rw [Surface.clearIcon, Surface.record?_change_self]
    exact congrArg (Option.map _) hr
  unfold SpriteStock.giveBack
  dsimp only
  split
  · rename_i hroom
    refine ⟨howned.perm ?_, hrecords.addSpare hcleared ⟨rfl, hdraw.isSpot⟩, hroom, h.room⟩
    exact (List.Perm.swap _ _ _).trans (List.perm_middle.symm.cons _)
  · refine ⟨howned.release, hrecords.agree fun id hid => ?_, h.shelf, h.room⟩
    exact Surface.record?_release_of_ne _ (h.apart id hid)

/-- A sprite of the stock, once written, draws a new spot. -/
theorem enlist {display : DisplayId} {s : Spot} {surface : Surface}
    (h : Tended pointer look scale icons room live stock) (hsprite : s.sprite = stock.take.1)
    (hconf : Surface.Confined s.sprite stock.take.2.surface surface)
    (hdraws : ∀ r, stock.take.2.surface.record? s.sprite = some r →
      ∃ r', surface.record? s.sprite = some r' ∧ r'.Draws s display scale icons) :
    Tended pointer look scale icons room ((display, s) :: live) { stock.take.2 with surface } := by
  have htaken : stock.take.2.surface.Owned
        (s.sprite :: spriteOwners pointer live stock.take.2.spare) ∧
      stock.take.2.surface.Records pointer look scale icons live stock.take.2.spare ∧
      stock.take.2.spare.length ≤ stock.take.2.capacity ∧ stock.take.2.capacity = room := by
    rw [hsprite]
    obtain ⟨surface, spare, capacity⟩ := stock
    cases spare with
    | nil =>
        refine ⟨h.owned.create, h.records.agree fun id hid => ?_, Nat.zero_le _, h.room⟩
        exact Surface.record?_create_of_ne _ fun heq => h.owned.next_not_mem (heq ▸ hid)
    | cons id rest =>
        refine ⟨h.owned.perm ?_, ?_, Nat.le_of_succ_le h.shelf, h.room⟩
        · exact (List.perm_middle.cons _).trans (.swap _ _ _)
        · exact ⟨h.records.pointer, h.records.drawn, fun other hother =>
            h.records.blank other (List.mem_cons_of_mem _ hother)⟩
  obtain ⟨howned, hrecords, hshelf, hsize⟩ := htaken
  obtain ⟨r, hr⟩ := howned.exists_record List.mem_cons_self
  obtain ⟨r', hr', hdraw⟩ := hdraws r hr
  exact ⟨(howned.confined hconf).perm (owners_perm display s _).symm,
    (hrecords.agree fun id hid => hconf.others id (howned.ne_head hid)).addSpot hr' hdraw, hshelf,
    hsize⟩

end Tended

end SpriteStock

/-! ## Loops over the spots of one display -/

namespace SpotPool

open SpriteStock (Tended)

variable {pointer : SpriteId} {look : Option SpriteRecord} {scale : Single}
  {icons : SpotIcons} {room : Nat} {live : List (DisplayId × Spot)} {stock : SpriteStock}
  {display : DisplayId}

/-- The spots of one display, with the display. -/
def onDisplay (display : DisplayId) (spots : List Spot) : List (DisplayId × Spot) :=
  spots.map fun s => (display, s)

theorem onDisplay_perm {spots spots' : List Spot} (hperm : spots.Perm spots') :
    (onDisplay display spots ++ live).Perm (onDisplay display spots' ++ live) :=
  (hperm.map _).append_right _

/-- A spot further back in the list is as good as one in front of the other lists. -/
theorem onDisplay_cons_perm (s : Spot) (spots : List Spot) :
    (onDisplay display (s :: spots) ++ live).Perm
      (onDisplay display spots ++ (display, s) :: live) :=
  List.perm_middle.symm

/-! ### Showing contacts -/

theorem moveSpot_sprite (contact : Contact) (spot : Spot) (surface : Surface) :
    (moveSpot scale icons display contact spot surface).1.sprite = spot.sprite := by
  rw [moveSpot_fst]
  rfl

theorem moveSpot_confined (contact : Contact) (spot : Spot) (surface : Surface) :
    Surface.Confined spot.sprite surface
      (moveSpot scale icons display contact spot surface).2 := by
  have hlayer := (Surface.Confined.refl spot.sprite surface).change
    fun r => { r with layer := Spot.layer contact.id }
  have hplaced := (((hlayer.change fun r => { r with alpha := spot.alpha }).change
    fun r => { r with transform := .scale scale }).change
    fun r => { r with position := contact.position }).change fun r => { r with display }
  unfold moveSpot
  dsimp only
  split
  · exact hplaced
  · exact (hplaced.change fun r => { r with icon := some _ }).change
      fun r => { r with visible := true }

/-- A sprite that is written for a contact draws the moved spot.  The icon is not
written again when the kind stays, so it must have been right. -/
theorem moveSpot_draws {contact : Contact} {spot : Spot} {surface : Surface} {r : SpriteRecord}
    (hr : surface.record? spot.sprite = some r) (hactive : spot.phase = .active contact.id)
    (hkind : spot.shown = some (.ofContact contact) →
      r.icon = some ((SpotKind.ofContact contact).icon icons) ∧ r.visible = true) :
    ∃ r', (moveSpot scale icons display contact spot surface).2.record? spot.sprite = some r' ∧
      r'.Draws (moveSpot scale icons display contact spot surface).1 display scale icons := by
  rw [moveSpot_fst]
  obtain ⟨hlow, hhigh⟩ := Spot.layer_bounds contact.id
  have hlayer : ∀ id, spot.phase = .active id → Spot.layer contact.id = Spot.layer id := by
    intro id hid
    rw [hactive] at hid
    cases hid
    rfl
  unfold moveSpot
  dsimp only
  split
  · rename_i hsame
    obtain ⟨hicon, hvisible⟩ := hkind hsame
    refine ⟨_, by simp [Surface.setLayer, Surface.setAlpha, Surface.setTransform,
      Surface.setPosition, Surface.setDisplay, hr]; rfl, ?_⟩
    exact ⟨rfl, rfl, rfl, rfl, hvisible, ⟨_, rfl, hicon⟩,
      by simp [SpriteRecord.isSpot, hlow, hhigh], hlayer⟩
  · refine ⟨_, by simp [Surface.setLayer, Surface.setAlpha, Surface.setTransform,
      Surface.setPosition, Surface.setDisplay, Surface.setIcon, Surface.setVisible, hr]; rfl, ?_⟩
    exact ⟨rfl, rfl, rfl, rfl, rfl, ⟨_, rfl, rfl⟩,
      by simp [SpriteRecord.isSpot, hlow, hhigh], hlayer⟩

theorem moveFollower_tended {contact : Contact} :
    ∀ {spots spots' : List Spot} {live : List (DisplayId × Spot)} {surface' : Surface},
      Tended pointer look scale icons room (onDisplay display spots ++ live) stock →
      moveFollower scale icons display contact spots stock.surface = some (spots', surface') →
      Tended pointer look scale icons room (onDisplay display spots' ++ live)
        { stock with surface := surface' } := by
  intro spots
  induction spots with
  | nil => intro spots' live surface' _ hmove; cases hmove
  | cons s rest ih =>
      intro spots' live surface' h hmove
      unfold moveFollower at hmove
      split at hmove
      · rename_i hfollows
        cases hmove
        have hactive : s.phase = .active contact.id := by simpa [Spot.follows] using hfollows
        refine h.moveOn (moveSpot_confined contact s stock.surface)
          (moveSpot_sprite contact s stock.surface) fun r hr hdraw => ?_
        apply moveSpot_draws hr hactive
        intro hshown
        obtain ⟨kind, hkind, hicon⟩ := hdraw.icon
        rw [hshown] at hkind
        cases hkind
        exact ⟨hicon, hdraw.visible⟩
      · obtain ⟨⟨others, surface⟩, hrest, heq⟩ := Option.map_eq_some_iff.mp hmove
        cases heq
        exact (ih (h.perm (onDisplay_cons_perm s rest)) hrest).perm
          (onDisplay_cons_perm s others).symm

theorem makeRoom_tended (capacity : Nat) :
    ∀ (rounds : Nat) {spots : List Spot} {stock : SpriteStock},
      Tended pointer look scale icons room (onDisplay display spots ++ live) stock →
      Tended pointer look scale icons room
        (onDisplay display (makeRoom capacity rounds spots stock).1 ++ live)
        (makeRoom capacity rounds spots stock).2 := by
  intro rounds
  induction rounds with
  | zero => intro spots stock h; exact h
  | succ rounds ih =>
      intro spots stock h
      unfold makeRoom
      split
      · exact h
      · split
        · exact h
        · rename_i victim others hvictim
          exact ih (h.perm (onDisplay_perm (takeVictim_perm hvictim))).giveBack

theorem showContact_tended {pool : SpotPool} {contact : Contact} {spots : List Spot}
    (h : Tended pointer look pool.scale icons room (onDisplay display spots ++ live) stock) :
    Tended pointer look pool.scale icons room
      (onDisplay display (pool.showContact icons display contact spots stock).1 ++ live)
      (pool.showContact icons display contact spots stock).2 := by
  unfold showContact
  split
  · rename_i spots' surface' hmove
    exact moveFollower_tended h hmove
  · have hroom := makeRoom_tended pool.maxSpots spots.length h
    generalize makeRoom pool.maxSpots spots.length spots stock = made at hroom
    obtain ⟨kept, stock⟩ := made
    have hsprite : (moveSpot pool.scale icons display contact (.new contact.id stock.take.1)
        stock.take.2.surface).1.sprite = stock.take.1 :=
      moveSpot_sprite contact (.new contact.id stock.take.1) stock.take.2.surface
    have hlisted := hroom.enlist hsprite
      (hsprite ▸ moveSpot_confined contact (.new contact.id stock.take.1) stock.take.2.surface)
      fun r hr => by
        rw [hsprite] at hr ⊢
        exact moveSpot_draws hr rfl fun hshown => nomatch hshown
    exact hlisted.perm (onDisplay_perm (List.perm_append_singleton _ kept)).symm

theorem showContacts_tended {pool : SpotPool} :
    ∀ (contacts : List Contact) {spots : List Spot} {stock : SpriteStock},
      Tended pointer look pool.scale icons room (onDisplay display spots ++ live) stock →
      Tended pointer look pool.scale icons room
        (onDisplay display (pool.showContacts icons display contacts spots stock).1 ++ live)
        (pool.showContacts icons display contacts spots stock).2 := by
  intro contacts
  induction contacts with
  | nil => intro spots stock h; exact h
  | cons contact rest ih => intro spots stock h; exact ih (showContact_tended h)

/-! ### Fading -/

theorem setAlpha_draws {s : Spot} {r : SpriteRecord} {surface : Surface} (alpha : Single)
    (hr : surface.record? s.sprite = some r) (hdraw : r.Draws s display scale icons) :
    ∃ r', (surface.setAlpha s.sprite alpha).record? s.sprite = some r' ∧
      r'.Draws { s with alpha } display scale icons := by
  refine ⟨{ r with alpha }, ?_, ?_⟩
  · rw [Surface.setAlpha, Surface.record?_change_self, hr]
    rfl
  · exact ⟨hdraw.position, rfl, hdraw.display, hdraw.transform, hdraw.visible, hdraw.icon,
      hdraw.isSpot, hdraw.layer⟩

theorem dimSpots_tended (delta : Single) :
    ∀ (spots : List Spot) {live : List (DisplayId × Spot)} {stock : SpriteStock},
      Tended pointer look scale icons room (onDisplay display spots ++ live) stock →
      Tended pointer look scale icons room
        (onDisplay display (dimSpots delta spots stock).1 ++ live)
        (dimSpots delta spots stock).2 := by
  intro spots
  induction spots with
  | nil => intro live stock h; exact h
  | cons s rest ih =>
      intro live stock h
      unfold dimSpots
      dsimp only
      split
      · split
        · exact ih h.giveBack
        · have hdimmed : Tended pointer look scale icons room
              ((display, { s with alpha := s.alpha - delta }) :: (onDisplay display rest ++ live))
              (stock.onSurface (·.setAlpha s.sprite (s.alpha - delta))) :=
            h.moveOn ((Surface.Confined.refl _ _).change fun r =>
              { r with alpha := s.alpha - delta }) rfl fun r hr hdraw => setAlpha_draws _ hr hdraw
          exact (ih (hdimmed.perm (onDisplay_cons_perm _ rest))).perm
            (onDisplay_cons_perm _ _).symm
      · exact (ih (h.perm (onDisplay_cons_perm s rest))).perm (onDisplay_cons_perm s _).symm

def liveIn (table : Keyed DisplayId (List Spot)) : List (DisplayId × Spot) :=
  table.flatMap fun e => onDisplay e.1 e.2

theorem liveIn_cons_append (spots : List Spot) (rest : Keyed DisplayId (List Spot)) :
    liveIn ((display, spots) :: rest) ++ live = onDisplay display spots ++ (liveIn rest ++ live) :=
  List.append_assoc ..

theorem dimDisplays_tended (delta : Single) :
    ∀ (table : Keyed DisplayId (List Spot)) {live : List (DisplayId × Spot)}
      {stock : SpriteStock}, Tended pointer look scale icons room (liveIn table ++ live) stock →
      Tended pointer look scale icons room (liveIn (dimDisplays delta table stock).1 ++ live)
        (dimDisplays delta table stock).2 := by
  intro table
  induction table with
  | nil => intro live stock h; exact h
  | cons e rest ih =>
      obtain ⟨display, spots⟩ := e
      intro live stock h
      rw [liveIn_cons_append] at h
      have hdimmed := dimSpots_tended delta spots h
      have hrest := ih (hdimmed.perm (List.perm_append_comm_assoc _ _ _))
      unfold dimDisplays
      dsimp only
      split
      · rename_i hempty
        rw [List.isEmpty_iff.mp hempty] at hrest
        exact hrest
      · rw [liveIn_cons_append]
        exact hrest.perm (List.perm_append_comm_assoc _ _ _)

end SpotPool

end ScreenPointer
