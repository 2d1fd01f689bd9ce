/-
# Sprites and their owners

A surface seen as a map from the names of its living sprites to their records,
and the list of owners: every living sprite is owned exactly once, and what was
created is what is owned and what was released.  A change is confined to one
sprite; making and releasing a sprite move it into and out of the list.
-/

import ScreenPointer.Surface

namespace ScreenPointer

namespace Surface

def alive (s : Surface) : List SpriteId := s.placed.map (·.id)

theorem mem_alive_iff {s : Surface} {id : SpriteId} :
    id ∈ s.alive ↔ ∃ r, s.record? id = some r := by
  constructor
  · intro h
    obtain ⟨p, hp, rfl⟩ := List.mem_map.mp h
    cases hfind : s.find? p.id with
    | none => exact absurd (List.find?_eq_none.mp hfind p hp) (by simp)
    | some q => exact ⟨q.record, by simp [record?, hfind]⟩
  · rintro ⟨r, hr⟩
    obtain ⟨p, hp, rfl⟩ := Option.map_eq_some_iff.mp hr
    have hid : p.id = id := by simpa using List.find?_some hp
    exact List.mem_map.mpr ⟨p, List.mem_of_find?_eq_some hp, hid⟩

/-- With unique names, a living sprite is found under its own name. -/
theorem record?_of_mem {s : Surface} (hunique : s.alive.Nodup) {p : PlacedSprite}
    (hp : p ∈ s.placed) : s.record? p.id = some p.record := by
  obtain ⟨placed, free, created, released, depth, frames, mutations, outside⟩ := s
  simp only [alive, record?, find?] at *
  induction placed with
  | nil => cases hp
  | cons q rest ih =>
      obtain ⟨hfirst, hrest⟩ := List.nodup_cons.mp hunique
      rcases List.mem_cons.mp hp with rfl | hmem
      · simp
      · have hne : q.id ≠ p.id := fun heq =>
          hfirst (List.mem_map.mpr ⟨p, hmem, heq.symm⟩)
        rw [List.find?_cons_of_neg (by simpa using hne)]
        exact ih hrest hmem

/-! ## Changes -/

@[simp]
theorem alive_change (s : Surface) (id : SpriteId) (f : SpriteRecord → SpriteRecord) :
    (s.change id f).alive = s.alive := by
  unfold alive change
  dsimp only
  rw [List.map_map]
  apply List.map_congr_left
  intro p _
  by_cases h : p.id = id <;> simp [h]

theorem record?_change (s : Surface) (id other : SpriteId) (f : SpriteRecord → SpriteRecord) :
    (s.change id f).record? other =
      if other = id then (s.record? other).map f else s.record? other := by
  obtain ⟨placed, free, created, released, depth, frames, mutations, outside⟩ := s
  simp only [change, record?, find?]
  induction placed with
  | nil => simp
  | cons p rest ih =>
      by_cases hp : p.id = other
      · subst hp
        by_cases hid : p.id = id <;> simp [hid]
      · have hp' : (if p.id = id then { p with record := f p.record } else p).id ≠ other := by
          split <;> exact hp
        rw [List.map_cons, List.find?_cons_of_neg (by simpa using hp'),
          List.find?_cons_of_neg (by simpa using hp)]
        exact ih

@[simp]
theorem record?_change_self (s : Surface) (id : SpriteId) (f : SpriteRecord → SpriteRecord) :
    (s.change id f).record? id = (s.record? id).map f := by
  rw [record?_change, if_pos rfl]

theorem record?_change_of_ne (s : Surface) {id other : SpriteId} (hne : other ≠ id)
    (f : SpriteRecord → SpriteRecord) : (s.change id f).record? other = s.record? other := by
  rw [record?_change, if_neg hne]

@[simp]
theorem record?_closeTransaction (s : Surface) (id : SpriteId) :
    s.closeTransaction.record? id = s.record? id := by
  unfold closeTransaction
  split <;> rfl

@[simp]
theorem alive_create (s : Surface) : s.create.2.alive = s.alive ++ [s.create.1] := by
  simp [alive, create]

theorem find?_eq_none_iff {s : Surface} {id : SpriteId} : s.find? id = none ↔ id ∉ s.alive := by
  rw [mem_alive_iff]
  simp [record?, Option.eq_none_iff_forall_ne_some]

@[simp]
theorem alive_release (s : Surface) (id : SpriteId) :
    (s.release id).alive = s.alive.filter fun other => other ≠ id := by
  unfold release
  split
  · rename_i hgone
    refine (List.filter_eq_self.mpr fun other hother => ?_).symm
    have hne : other ≠ id := fun heq => find?_eq_none_iff.mp hgone (heq ▸ hother)
    simpa using hne
  · simp [alive, List.filter_map, Function.comp_def]

/-- `s'` comes from `s` by changes to the record of one sprite. -/
structure Confined (id : SpriteId) (s s' : Surface) : Prop where
  alive : s'.alive = s.alive
  created : s'.created = s.created
  released : s'.released = s.released
  others : ∀ other, other ≠ id → s'.record? other = s.record? other

namespace Confined

variable {id : SpriteId} {s s' s'' : Surface}

theorem refl (id : SpriteId) (s : Surface) : Confined id s s := ⟨rfl, rfl, rfl, fun _ _ => rfl⟩

theorem trans (first : Confined id s s') (second : Confined id s' s'') : Confined id s s'' where
  alive := second.alive.trans first.alive
  created := second.created.trans first.created
  released := second.released.trans first.released
  others other hne := (second.others other hne).trans (first.others other hne)

theorem change (h : Confined id s s') (f : SpriteRecord → SpriteRecord) :
    Confined id s (s'.change id f) :=
  h.trans ⟨alive_change s' id f, rfl, rfl, fun _ hne => record?_change_of_ne s' hne f⟩

theorem openTransaction (h : Confined id s s') : Confined id s s'.openTransaction :=
  h.trans ⟨rfl, rfl, rfl, fun _ _ => rfl⟩

theorem closeTransaction (h : Confined id s s') : Confined id s s'.closeTransaction := by
  refine h.trans ⟨?_, ?_, ?_, fun other _ => record?_closeTransaction s' other⟩ <;>
    unfold Surface.closeTransaction <;> split <;> rfl

end Confined

/-! ## Owners -/

/-- The living sprites are those of the list of owners, each owned once; names
still to come are new, and the counters add up. -/
structure Owned (s : Surface) (owners : List SpriteId) : Prop where
  alive : s.alive.Perm owners
  distinct : owners.Nodup
  fresh : ∀ id ∈ owners, id.serial < s.created
  balance : s.created = owners.length + s.released

theorem owned_empty : ({} : Surface).Owned [] where
  alive := .refl _
  distinct := List.nodup_nil
  fresh id h := by cases h
  balance := rfl

namespace Owned

variable {s s' : Surface} {owners owners' : List SpriteId}

theorem perm (h : s.Owned owners) (hperm : owners.Perm owners') : s.Owned owners' where
  alive := h.alive.trans hperm
  distinct := hperm.nodup_iff.mp h.distinct
  fresh id hid := h.fresh id (hperm.mem_iff.mpr hid)
  balance := by rw [h.balance, hperm.length_eq]

theorem confined {id : SpriteId} (h : s.Owned owners) (hconf : Confined id s s') :
    s'.Owned owners where
  alive := by rw [hconf.alive]; exact h.alive
  distinct := h.distinct
  fresh id hid := by rw [hconf.created]; exact h.fresh id hid
  balance := by rw [hconf.created, hconf.released]; exact h.balance

theorem alive_nodup (h : s.Owned owners) : s.alive.Nodup := h.alive.nodup_iff.mpr h.distinct

theorem ne_head {id other : SpriteId} (h : s.Owned (id :: owners)) (hother : other ∈ owners) :
    other ≠ id := by
  rintro rfl
  exact (List.nodup_cons.mp h.distinct).1 hother

theorem exists_record (h : s.Owned owners) {id : SpriteId} (hid : id ∈ owners) :
    ∃ r, s.record? id = some r :=
  mem_alive_iff.mp (h.alive.mem_iff.mpr hid)

/-- The name of the next sprite is nobody's. -/
theorem next_not_mem (h : s.Owned owners) : s.create.1 ∉ owners := fun hmem =>
  Nat.lt_irrefl _ (h.fresh _ hmem)

theorem create (h : s.Owned owners) : s.create.2.Owned (s.create.1 :: owners) where
  alive := by
    rw [alive_create]
    exact (List.perm_append_singleton _ _).trans (h.alive.cons _)
  distinct := List.nodup_cons.mpr ⟨h.next_not_mem, h.distinct⟩
  fresh id hid := by
    rcases List.mem_cons.mp hid with rfl | hmem
    · exact Nat.lt_succ_self _
    · exact Nat.lt_succ_of_lt (h.fresh id hmem)
  balance := by
    have hcreated : s.create.2.created = s.created + 1 := rfl
    have hreleased : s.create.2.released = s.released := rfl
    rw [hcreated, hreleased, h.balance, List.length_cons]
    omega

theorem record?_create_self (h : s.Owned owners) : s.create.2.record? s.create.1 = some {} := by
  have hmem : (⟨s.create.1, (s.create.2.placed.getLast (by simp [Surface.create])).slot, {}⟩ :
      PlacedSprite) ∈ s.create.2.placed := by
    simp [Surface.create]
  exact record?_of_mem h.create.alive_nodup hmem

/-- Releasing an owned sprite takes it off the list. -/
theorem release {id : SpriteId} (h : s.Owned (id :: owners)) : (s.release id).Owned owners := by
  obtain ⟨r, hr⟩ := h.exists_record List.mem_cons_self
  obtain ⟨p, hp, -⟩ := Option.map_eq_some_iff.mp hr
  have hrelease : s.release id = { s with
      placed := s.placed.filter fun q => q.id ≠ id
      freeSlots := p.slot :: s.freeSlots
      released := s.released + 1 } := by
    unfold Surface.release
    rw [hp]
  have hbalance := h.balance
  refine ⟨?_, (List.nodup_cons.mp h.distinct).2, fun other hmem => ?_, ?_⟩
  · rw [alive_release]
    have hfilter := h.alive.filter fun other => decide (other ≠ id)
    have howners : owners.filter (fun other => decide (other ≠ id)) = owners :=
      List.filter_eq_self.mpr fun other hmem => by
        simpa using h.ne_head hmem
    rw [List.filter_cons_of_neg (by simp), howners] at hfilter
    exact hfilter
  · rw [hrelease]
    exact h.fresh other (List.mem_cons_of_mem _ hmem)
  · rw [hrelease]
    rw [List.length_cons] at hbalance
    dsimp only
    omega

theorem releaseAll {ids : List SpriteId} (h : s.Owned (ids ++ owners)) :
    (s.releaseAll ids).Owned owners := by
  induction ids generalizing s with
  | nil => exact h
  | cons id rest ih => exact ih h.release

end Owned

theorem record?_create_of_ne (s : Surface) {id : SpriteId} (hne : id ≠ s.create.1) :
    s.create.2.record? id = s.record? id := by
  have hplaced : ∃ slot, s.create.2.placed = s.placed ++ [⟨s.create.1, slot, {}⟩] := ⟨_, rfl⟩
  obtain ⟨slot, hslot⟩ := hplaced
  unfold record? find?
  rw [hslot, List.find?_append]
  simp [Ne.symm hne]

theorem record?_release_of_ne (s : Surface) {id other : SpriteId} (hne : other ≠ id) :
    (s.release id).record? other = s.record? other := by
  unfold release
  split
  · rfl
  · unfold record? find?
    dsimp only
    rw [List.find?_filter]
    congr 1
    refine congrArg (s.placed.find? ·) (funext fun p => ?_)
    by_cases hp : p.id = other
    · simp [hp, hne]
    · simp [hp]

/-- A sprite that was released is gone. -/
theorem record?_release_self (s : Surface) (id : SpriteId) : (s.release id).record? id = none := by
  rw [Option.eq_none_iff_forall_ne_some]
  intro r hr
  have halive := mem_alive_iff.mpr ⟨r, hr⟩
  rw [alive_release] at halive
  simpa using (List.mem_filter.mp halive).2

theorem created_release (s : Surface) (id : SpriteId) : (s.release id).created = s.created := by
  unfold release
  split <;> rfl

theorem mutations_release (s : Surface) (id : SpriteId) :
    (s.release id).mutations = s.mutations := by
  unfold release
  split <;> rfl

end Surface

end ScreenPointer
