/-
# What earlier controllers leave

A clock and a surface outlive their controllers.  What an earlier controller leaves
there is no listener and no sprite, only names that are never given again, slots that
are free again, totals and records.  A thing `upon` an old one is the same thing as it
would be there: under later names and in other slots, with the old totals and records
before its own.
-/

import Mathlib.Data.List.Nodup
import ScreenPointer.Proofs.Simulation
import ScreenPointer.Proofs.Spots.Drawing
import ScreenPointer.Proofs.Surface
import ScreenPointer.Session

namespace ScreenPointer

/-! ## Surfaces -/

namespace SpriteId

/-- The sprite named `n` names later. -/
def shift (n : Nat) (id : SpriteId) : SpriteId := ⟨n + id.serial⟩

@[simp]
theorem shift_inj {n : Nat} {a b : SpriteId} : a.shift n = b.shift n ↔ a = b := by
  cases a
  cases b
  simp [shift]

end SpriteId

/-- The same sprite on a surface whose old names and slots are given first. -/
def PlacedSprite.upon (p : PlacedSprite) (old : Surface) : PlacedSprite :=
  ⟨p.id.shift old.created, old.freeSlots.getD p.slot p.slot, p.record⟩

namespace Surface

/-- The same surface, had it been drawn after an old one was cleared.  New slots are
opened after the old ones are taken. -/
def upon (s old : Surface) : Surface where
  placed := s.placed.map (·.upon old)
  freeSlots := s.freeSlots.map (fun slot => old.freeSlots.getD slot slot) ++
    old.freeSlots.drop (s.placed.length + s.freeSlots.length)
  created := old.created + s.created
  released := old.released + s.released
  depth := s.depth
  frames := old.frames + s.frames
  mutations := old.mutations + s.mutations
  mutationsOutside := old.mutationsOutside + s.mutationsOutside

variable (s old : Surface)

theorem find?_upon (id : SpriteId) :
    (s.upon old).find? (id.shift old.created) = (s.find? id).map (·.upon old) := by
  have hnames : (fun p : PlacedSprite => decide ((p.upon old).id = id.shift old.created)) =
      fun p => decide (p.id = id) := by
    simp [PlacedSprite.upon]
  rw [find?, upon, List.find?_map]
  exact congrArg (fun f => (s.placed.find? f).map (·.upon old)) hnames

@[simp]
theorem change_upon (id : SpriteId) (f : SpriteRecord → SpriteRecord) :
    (s.upon old).change (id.shift old.created) f = (s.change id f).upon old := by
  have hplaced : ∀ p : PlacedSprite,
      (if (p.upon old).id = id.shift old.created then
        { p.upon old with record := f (p.upon old).record } else p.upon old) =
      (if p.id = id then { p with record := f p.record } else p).upon old := by
    intro p
    by_cases h : p.id = id <;> simp [PlacedSprite.upon, h]
  by_cases hdepth : s.depth = 0 <;>
    simp [change, upon, hplaced, hdepth, Function.comp_def, Nat.add_assoc]

@[simp]
theorem create_upon :
    (s.upon old).create = (s.create.1.shift old.created, s.create.2.upon old) := by
  obtain ⟨placed, free, created, released, depth, frames, mutations, outside⟩ := s
  cases free with
  | cons slot rest =>
      have hopened : placed.length + (rest.length + 1) = placed.length + 1 + rest.length := by omega
      simp [create, upon, PlacedSprite.upon, SpriteId.shift, hopened, Nat.add_assoc]
  | nil =>
      have hslot : old.freeSlots[placed.length]? = (old.freeSlots.drop placed.length).head? :=
        List.head?_drop.symm
      have hrest : old.freeSlots.drop (placed.length + 1) =
          (old.freeSlots.drop placed.length).tail := List.tail_drop.symm
      generalize hleft : old.freeSlots.drop placed.length = left at hslot hrest
      cases left <;>
        simp [create, upon, PlacedSprite.upon, SpriteId.shift, hleft, hslot, hrest, Nat.add_assoc]

@[simp]
theorem openTransaction_upon : (s.upon old).openTransaction = s.openTransaction.upon old := rfl

@[simp]
theorem closeTransaction_upon : (s.upon old).closeTransaction = s.closeTransaction.upon old := by
  obtain ⟨placed, free, created, released, depth, frames, mutations, outside⟩ := s
  match depth with
  | 0 | 1 | _ + 2 => rfl

structure Tidy (s : Surface) : Prop where
  distinct : s.alive.Nodup
  fresh : ∀ id ∈ s.alive, id.serial < s.created

variable {s}

theorem Owned.tidy {owners : List SpriteId} (h : s.Owned owners) : s.Tidy :=
  ⟨h.alive_nodup, fun id hid => h.fresh id (h.alive.mem_iff.mp hid)⟩

theorem Tidy.openTransaction (h : s.Tidy) : s.openTransaction.Tidy := ⟨h.distinct, h.fresh⟩

theorem Tidy.closeTransaction (h : s.Tidy) : s.closeTransaction.Tidy := by
  unfold Surface.closeTransaction
  split
  · exact h
  · exact ⟨h.distinct, h.fresh⟩
  · exact ⟨h.distinct, h.fresh⟩

/-- Drawing gives no name twice. -/
theorem tidy_drawing : Drawing Tidy where
  change s id f h := ⟨by rw [alive_change]; exact h.distinct, by rw [alive_change]; exact h.fresh⟩
  create s h := by
    have hnew : ∀ id ∈ s.alive, id ≠ s.create.1 := by
      rintro id hid rfl
      exact Nat.lt_irrefl _ (h.fresh _ hid)
    refine ⟨?_, ?_⟩ <;> rw [alive_create]
    · exact List.nodup_append.mpr ⟨h.distinct, by simp, by simpa using hnew⟩
    · rw [List.forall_mem_append, List.forall_mem_singleton]
      exact ⟨fun id hid => Nat.lt_succ_of_lt (h.fresh id hid), Nat.lt_succ_self _⟩
  release s id h := by
    have hcreated : (s.release id).created = s.created := by
      unfold release
      split <;> rfl
    refine ⟨?_, ?_⟩ <;> rw [alive_release]
    · exact h.distinct.filter _
    · intro other hother
      rw [hcreated]
      exact h.fresh other (List.mem_filter.mp hother).1

/-- A release empties one slot. -/
theorem Tidy.length_release (h : s.Tidy) {id : SpriteId} (halive : id ∈ s.alive) :
    (s.placed.filter fun p => p.id ≠ id).length + 1 = s.placed.length := by
  have herase : (s.placed.filter fun p => p.id ≠ id).map (·.id) = s.alive.erase id := by
    rw [h.distinct.erase_eq_filter, alive, List.filter_map]
    refine congrArg (List.map _) (List.filter_congr fun p _ => ?_)
    rw [Bool.eq_iff_iff]
    simp
  have hlength := congrArg List.length herase
  rw [List.length_map, List.length_erase_of_mem halive, alive, List.length_map] at hlength
  have hpositive := List.length_pos_of_mem halive
  rw [alive, List.length_map] at hpositive
  omega

theorem release_upon (h : s.Tidy) (id : SpriteId) :
    (s.upon old).release (id.shift old.created) = (s.release id).upon old := by
  unfold release
  rw [find?_upon]
  cases hfind : s.find? id with
  | none => rfl
  | some p =>
      have hlength := h.length_release (mem_alive_iff.mpr ⟨p.record, by rw [record?, hfind]; rfl⟩)
      have hopened : (s.placed.filter fun p => p.id ≠ id).length + (s.freeSlots.length + 1) =
          s.placed.length + s.freeSlots.length := by omega
      simp only [ne_eq, decide_not] at hopened
      simp [upon, PlacedSprite.upon, List.filter_map, Function.comp_def, hopened, Nat.add_assoc]

theorem releaseAll_upon (h : s.Tidy) (ids : List SpriteId) :
    (s.upon old).releaseAll (ids.map (·.shift old.created)) = (s.releaseAll ids).upon old := by
  induction ids generalizing s with
  | nil => rfl
  | cons id rest ih =>
      simp only [List.map_cons, releaseAll, List.foldl_cons] at ih ⊢
      rw [release_upon old h]
      exact ih (tidy_drawing.release s id h)

/-! ### What is seen -/

/-- In a list with at most one element to be found, order does not matter. -/
theorem find?_eq_of_perm {α : Type} {p : α → Bool} {l l' : List α} (hperm : l.Perm l')
    (hone : ∀ a ∈ l, ∀ b ∈ l, p a = true → p b = true → a = b) : l.find? p = l'.find? p := by
  cases hfind : l.find? p with
  | none =>
      refine (List.find?_eq_none.mpr fun a ha => ?_).symm
      exact List.find?_eq_none.mp hfind a (hperm.mem_iff.mpr ha)
  | some a =>
      have ha := List.mem_of_find?_eq_some hfind
      have hpa := List.find?_some hfind
      cases hfind' : l'.find? p with
      | none => exact absurd hpa (List.find?_eq_none.mp hfind' a (hperm.subset ha))
      | some b =>
          have hb := hperm.mem_iff.mpr (List.mem_of_find?_eq_some hfind')
          rw [hone a ha b hb hpa (List.find?_some hfind')]

def OnePointer (s : Surface) : Prop :=
  ∀ p ∈ s.placed, ∀ q ∈ s.placed,
    p.record.layer = Layer.pointer → q.record.layer = Layer.pointer → p = q

/-- The record of the pointer does not depend on slots, if there is but one. -/
theorem OnePointer.pointer?_eq (hone : s.OnePointer) :
    s.pointer? = (s.placed.find? fun p => p.record.layer = Layer.pointer).map (·.record) := by
  have hsorted := List.mergeSort_perm s.placed fun p q => p.slot ≤ q.slot
  rw [pointer?, bySlot, ← find?_eq_of_perm hsorted.symm]
  simpa using fun p hp q hq => hone p hp q hq

theorem OnePointer.upon (hone : s.OnePointer) : (s.upon old).OnePointer := by
  intro p hp q hq hplayer hqlayer
  obtain ⟨p', hp', rfl⟩ := List.mem_map.mp hp
  obtain ⟨q', hq', rfl⟩ := List.mem_map.mp hq
  rw [hone p' hp' q' hq' hplayer hqlayer]

theorem pointer?_upon (hone : s.OnePointer) : (s.upon old).pointer? = s.pointer? := by
  rw [hone.pointer?_eq, (hone.upon old).pointer?_eq]
  simp [upon, PlacedSprite.upon, List.find?_map, Function.comp_def]

/-- The spots are the same, in an order that follows their layers. -/
theorem spots_upon_perm : (s.upon old).spots.Perm s.spots := by
  have hrecords : ((s.upon old).bySlot.map (·.record)).Perm (s.bySlot.map (·.record)) := by
    have hplaced : (s.upon old).placed.map (·.record) = s.placed.map (·.record) := by
      simp [upon, PlacedSprite.upon]
    refine ((List.mergeSort_perm _ _).map _).trans ?_
    rw [hplaced]
    exact ((List.mergeSort_perm _ _).map _).symm
  exact (List.mergeSort_perm _ _).trans ((hrecords.filter _).trans (List.mergeSort_perm _ _).symm)

theorem spots_sorted (s : Surface) : s.spots.Pairwise fun a b => a.layer ≤ b.layer := by
  have hsorted : s.spots.Pairwise fun a b => decide (a.layer ≤ b.layer) = true :=
    List.pairwise_mergeSort (fun _ _ _ => by simpa using Int.le_trans)
      (fun _ _ => by simpa using Int.le_total _ _) _
  simpa using hsorted

theorem bySlot_sorted (s : Surface) : s.bySlot.Pairwise fun p q => p.slot ≤ q.slot := by
  have hsorted : s.bySlot.Pairwise fun p q => decide (p.slot ≤ q.slot) = true :=
    List.pairwise_mergeSort (fun _ _ _ => by simpa using Nat.le_trans)
      (fun _ _ => by simpa using Nat.le_total _ _) _
  simpa using hsorted

theorem bySlot_of_pairwise {ordered : List PlacedSprite} (hperm : ordered.Perm s.placed)
    (hslots : ordered.Pairwise fun p q => p.slot < q.slot) : s.bySlot = ordered := by
  have hsame : s.bySlot.Perm ordered := (List.mergeSort_perm _ _).trans hperm.symm
  have hdistinct : (ordered.map (·.slot)).Nodup :=
    List.pairwise_map.mpr (hslots.imp Nat.ne_of_lt)
  refine hsame.eq_of_pairwise (fun p q hp hq hle hge => ?_) (bySlot_sorted s)
    (hslots.imp Nat.le_of_lt)
  exact List.inj_on_of_nodup_map hdistinct (hsame.subset hp) hq (Nat.le_antisymm hle hge)

/-- Sprites that rise in slot are listed as they stand, if the spots among them never fall in
layer. -/
theorem spots_of_pairwise {ordered : List PlacedSprite} (hperm : ordered.Perm s.placed)
    (hslots : ordered.Pairwise fun p q => p.slot < q.slot)
    (hlayers : ((ordered.map (·.record)).filter fun r => r.isSpot && r.icon.isSome).Pairwise
      fun r r' => r.layer ≤ r'.layer) :
    s.spots = (ordered.map (·.record)).filter fun r => r.isSpot && r.icon.isSome := by
  rw [spots, bySlot_of_pairwise hperm hslots]
  exact List.mergeSort_of_pairwise (by simpa using hlayers)

/-- The order of the spots differs only among those that share a layer. -/
theorem layers_upon : (s.upon old).spots.map (·.layer) = s.spots.map (·.layer) :=
  ((spots_upon_perm old).map _).eq_of_pairwise (fun _ _ _ _ => Int.le_antisymm)
    (List.pairwise_map.mpr (spots_sorted _)) (List.pairwise_map.mpr (spots_sorted s))

/-- Where no two spots share a layer, the order is the same too. -/
theorem spots_upon (hlayers : (s.spots.map (·.layer)).Nodup) : (s.upon old).spots = s.spots := by
  have hperm : (s.upon old).spots.Perm s.spots := spots_upon_perm old
  refine hperm.eq_of_pairwise (fun a b ha hb hle hge => ?_) (spots_sorted _) (spots_sorted s)
  exact List.inj_on_of_nodup_map hlayers (hperm.subset ha) hb (Int.le_antisymm hle hge)

end Surface

/-! ## Records -/

/-- The same request of the listener `k` numbers later. -/
def ClockRequest.shift (k : Nat) : ClockRequest → ClockRequest
  | register => register
  | unregister id => unregister (id.shift k)
  | tick id => tick (id.shift k)
  | schedule id token delay => schedule (id.shift k) token delay
  | cancel id token => cancel (id.shift k) token

def LineRecord.shift (k : Nat) : LineRecord → LineRecord
  | asked request => asked (request.shift k)
  | answered kind status => answered kind status

def LogEntry.shift (k : Nat) : LogEntry → LogEntry
  | registrationRefused error => registrationRefused (error.shift k)
  | tickRefused error => tickRefused (error.shift k)
  | timerRefused error => timerRefused (error.shift k)
  | iconMissing id => iconMissing id
  | connectionLost => connectionLost
  | strayClose => strayClose

/-! ## Worlds, controllers and sessions -/

def World.upon (w : World) (old : Session) : World where
  catalogue := w.catalogue
  surface := w.surface.upon old.host.world.surface
  loads :=
    { pointer := old.host.world.loads.pointer + w.loads.pointer
      mouse := old.host.world.loads.mouse + w.loads.mouse }
  faults := w.faults
  line := old.host.world.line ++ w.line.map (.shift old.clock.lastId)
  log := old.host.world.log ++ w.log.map (.shift old.clock.lastId)

def ManualClock.upon (c : ManualClock) (old : Session) : ManualClock :=
  c.renamed old.clock.lastId old.clock.requestTotal

def Spot.shift (n : Nat) (s : Spot) : Spot := { s with sprite := s.sprite.shift n }

def SpotPool.shift (n : Nat) (pool : SpotPool) : SpotPool :=
  { pool with
    byDisplay := pool.byDisplay.map fun e => (e.1, e.2.map (.shift n))
    recycled := pool.recycled.map (.shift n) }

/-- The same controller under the names that are new after an old session. -/
def Controller.upon (c : Controller) (old : Session) : Controller :=
  { c with
    listener := c.listener.map (.shift old.clock.lastId)
    sprite := c.sprite.map (.shift old.host.world.surface.created)
    spots := c.spots.shift old.host.world.surface.created }

def Live.upon (l : Live) (old : Session) : Live :=
  ⟨l.controller.upon old, l.clock.upon old, l.world.upon old⟩

def Host.upon (h : Host) (old : Session) : Host :=
  ⟨h.controller.map (·.upon old), h.world.upon old⟩

/-- The same session after what happened in an old one. -/
def Session.upon (s old : Session) : Session :=
  ⟨s.clock.upon old, s.host.upon old, s.reported⟩

def Step.shift (k : Nat) : Step → Step
  | isRegistered id => isRegistered (id.shift k)
  | step => step

namespace World

variable (w : World) (old : Session)

@[simp]
theorem record_upon (r : LineRecord) :
    (w.upon old).record (r.shift old.clock.lastId) = (w.record r).upon old := by
  simp [record, upon]

@[simp]
theorem report_upon (e : LogEntry) :
    (w.upon old).report (e.shift old.clock.lastId) = (w.report e).upon old := by
  simp [report, upon]

end World

end ScreenPointer
