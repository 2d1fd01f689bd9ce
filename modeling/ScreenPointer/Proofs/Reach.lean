/-
# How far the pointer can get

A viewport of the same panel that replaces another one may carry the pointer, and carrying
does not clamp: every turn adds a side of some device and takes a coordinate away from it.
In exact arithmetic the coordinates would grow without end.  Rounded, they stop growing where
neighbouring numbers lie as far apart as two of the longest sides together, because adding a
side is lost in rounding there.  This reach is far below the largest finite number, and
clamping, which also stops infinities and what is not a number, never leads out of it.
-/

import ScreenPointer.Proofs.Display.Bounds
import ScreenPointer.Proofs.Layout

namespace ScreenPointer

/-! ## Coordinates -/

namespace Binary

/-- A number that is no further than `n` units from zero. -/
def Within (n : Nat) (x : Single) : Prop := ∃ a, x.position = some a ∧ a.natAbs ≤ n

/-- As far as coordinates get, in units: 2⁵⁶ pixels. -/
def reach : Nat := 2 ^ 205

/-- No edge of a viewport and no side of a device is longer, in units: 2³² pixels. -/
def span : Nat := 2 ^ 181

variable {m n : Nat} {x y low high : Single}

theorem reach_add_span_lt_ceiling : reach + span < 2 ^ Format.single.ceiling := by decide +kernel

theorem span_le_reach : span ≤ reach := by decide +kernel

theorem Within.mono (h : m ≤ n) (hx : Within m x) : Within n x :=
  let ⟨a, ha, hm⟩ := hx
  ⟨a, ha, Nat.le_trans hm h⟩

theorem Within.isFinite (hx : Within reach x) : x.isFinite = true := by
  obtain ⟨a, ha, hnear⟩ := hx
  have hceiling := reach_add_span_lt_ceiling
  obtain ⟨s, m, hm, rfl, -⟩ := eq_finite_of_position ha (by omega)
  rfl

theorem Within.neg (hx : Within n x) : Within n (-x) := by
  obtain ⟨a, ha, hnear⟩ := hx
  exact ⟨_, position_neg ha, by rwa [Int.natAbs_neg]⟩

/-- Up to one span beyond the reach a sum is rounded back to it: the numbers there are two spans
apart, and the reach is the even one of its neighbours. -/
theorem natAbs_place_le_reach {k : Int} (hk : k.natAbs ≤ reach + span) :
    (Format.single.place k 1).natAbs ≤ reach := by
  have hlow : Format.single.place (-(reach + span : Nat)) 1 = -(reach : Nat) := by decide +kernel
  have hhigh : Format.single.place (reach + span : Nat) 1 = (reach : Nat) := by decide +kernel
  have habove := Format.single.place_mono 1 (show -((reach + span : Nat) : Int) ≤ k by omega)
  have hbelow := Format.single.place_mono 1 (show k ≤ ((reach + span : Nat) : Int) by omega)
  rw [hlow] at habove
  rw [hhigh] at hbelow
  omega

theorem within_add (hx : Within m x) (hy : Within n y) (hmn : m + n ≤ reach + span) :
    Within reach (x + y) := by
  obtain ⟨a, ha, hm⟩ := hx
  obtain ⟨b, hb, hn⟩ := hy
  have hceiling := reach_add_span_lt_ceiling
  exact ⟨_, position_add ha hb (by omega) (by omega), natAbs_place_le_reach (by omega)⟩

theorem Within.add (hx : Within reach x) (hy : Within span y) : Within reach (x + y) :=
  within_add hx hy (Nat.le_refl _)

theorem Within.sub (hx : Within reach x) (hy : Within span y) : Within reach (x - y) :=
  hx.add hy.neg

/-- A coordinate seen from the other side. -/
theorem Within.flip (hx : Within span x) (hy : Within reach y) : Within reach (x - y) :=
  within_add hx hy.neg (Nat.le_of_eq (Nat.add_comm _ _))

theorem within_half : Within span half := ⟨_, position_half, by decide +kernel⟩

theorem Within.halved (hx : Within reach x) : Within reach (x * half) := by
  obtain ⟨a, ha, hnear⟩ := hx
  have hheld : Format.single.HoldsAt reach := by decide +kernel
  have hheld' : Format.single.HoldsAt (-reach) := by decide +kernel
  have hceiling := reach_add_span_lt_ceiling
  have hhalf := position_mul ha position_half (by omega) (by decide +kernel)
  have hunit : ((2 ^ Format.single.fraction : Nat) : Int) = 2 * halfPixel := by decide +kernel
  unfold reach at *
  obtain ⟨hlow, hhigh⟩ := Format.single.place_mem (n := a * halfPixel) (Nat.two_pow_pos _)
    hheld' hheld (by rw [hunit]; simp only [halfPixel]; omega)
    (by rw [hunit]; simp only [halfPixel]; omega)
  exact ⟨_, hhalf, by omega⟩

/-- Clamping makes a number of anything, and one that is no further out than the edges. -/
theorem Within.clampAxis (hlow : Within n low) (hhigh : Within n high) (v : Single) :
    Within n (Bounds.clampAxis low high v) := by
  obtain ⟨a, ha, hlow⟩ := hlow
  obtain ⟨b, hb, hhigh⟩ := hhigh
  obtain ⟨c, hc, hcb, hac⟩ := Bounds.exists_position_clampAxis ha hb v
  exact ⟨c, hc, by omega⟩

theorem Within.middle (hlow : Within span low) (hhigh : Within span high) :
    Within reach ((low + high) * half) :=
  ((hlow.mono span_le_reach).add hhigh).halved

theorem within_ofInt {i : Int} (hi : i.natAbs ≤ 2 ^ 32) : Within span (ofInt i) :=
  position_ofInt_of_le (by decide) hi

end Binary

open Binary

theorem IsInt32.within {i : Int} (h : IsInt32 i) : Within span (ofInt i) := by
  unfold IsInt32 at h
  exact within_ofInt (by omega)

theorem IsInt32.within_pred {i : Int} (h : IsInt32 i) : Within span (ofInt (i - 1)) := by
  unfold IsInt32 at h
  exact within_ofInt (by omega)

/-! ## Points -/

namespace Point

def IsFinite (p : Point) : Prop := p.x.isFinite = true ∧ p.y.isFinite = true

instance (p : Point) : Decidable p.IsFinite := inferInstanceAs (Decidable (_ ∧ _))

def Near (p : Point) : Prop := Within reach p.x ∧ Within reach p.y

theorem Near.isFinite {p : Point} (h : p.Near) : p.IsFinite := ⟨h.1.isFinite, h.2.isFinite⟩

theorem near_origin : origin.Near := by
  have hzero : Within reach 0 := ⟨0, position_zero, Nat.zero_le _⟩
  exact ⟨hzero, hzero⟩

end Point

namespace Viewport

variable {v old new : Viewport} {b : Bounds} {p : Point}

theorem near_clamp (hshort : v.IsShort) (h : v.bounds? = some b) (p : Point) :
    (b.clamp p).Near := by
  cases bounds?_eq_some h
  have hx := hshort.left.within.clampAxis hshort.right.within_pred p.x
  have hy := hshort.top.within.clampAxis hshort.bottom.within_pred p.y
  exact ⟨hx.mono span_le_reach, hy.mono span_le_reach⟩

theorem near_center (hshort : v.IsShort) (h : v.bounds? = some b) : b.center.Near := by
  cases bounds?_eq_some h
  exact ⟨hshort.left.within.middle hshort.right.within_pred,
    hshort.top.within.middle hshort.bottom.within_pred⟩

theorem near_toPanel (hshort : v.IsShort) (h : p.Near) : (v.toPanel p).Near := by
  obtain ⟨hx, hy⟩ := h
  have hx' := hshort.deviceWidth.within.flip hx
  have hy' := hshort.deviceHeight.within.flip hy
  unfold toPanel
  cases v.rotation with
  | upright => exact ⟨hx, hy⟩
  | quarter => exact ⟨hy', hx⟩
  | half => exact ⟨hx', hy'⟩
  | threeQuarter => exact ⟨hy, hx'⟩

theorem near_ofPanel (hshort : v.IsShort) (h : p.Near) : (v.ofPanel p).Near := by
  obtain ⟨hx, hy⟩ := h
  unfold ofPanel
  cases v.rotation with
  | upright => exact ⟨hx, hy⟩
  | quarter => exact ⟨hy, hshort.deviceHeight.within.flip hx⟩
  | half => exact ⟨hshort.deviceWidth.within.flip hx, hshort.deviceHeight.within.flip hy⟩
  | threeQuarter => exact ⟨hshort.deviceWidth.within.flip hy, hx⟩

/-- Carrying from one device to another stays within reach, whatever their sizes are. -/
theorem near_carry (hold : old.IsShort) (hnew : new.IsShort) (h : p.Near) :
    (old.carry new p).Near := by
  have hcenter : Point.Near ⟨p.x + half, p.y + half⟩ :=
    ⟨h.1.add within_half, h.2.add within_half⟩
  obtain ⟨hx, hy⟩ := near_ofPanel hnew (near_toPanel hold hcenter)
  exact ⟨hx.sub within_half, hy.sub within_half⟩

theorem near_moved (hold : old.IsShort) (hnew : new.IsShort) (h : p.Near) :
    (old.moved new p).Near := by
  unfold moved
  cases old.changeTo new with
  | reset =>
      cases hbounds : new.bounds? with
      | some b => exact near_center hnew hbounds
      | none => exact Point.near_origin
  | reorient => exact near_carry hold hnew h
  | unchanged => exact h

/-- Whatever the pointer is told, it stays within reach. -/
theorem near_law : LayoutLaw IsShort fun v p => v.IsShort ∧ p.Near where
  turned _ r h := h.rotated r
  unset := isShort_unset
  made := ⟨isShort_unset, Point.near_origin⟩
  clamped _ _ p hbounds := fun ⟨_, hshort, _⟩ => ⟨hshort, near_clamp hshort hbounds p⟩
  replaced _ _ _ hnew _ := fun ⟨hold, hnear⟩ => ⟨hnew, near_moved hold hnew hnear⟩

end Viewport

/-! ## Sessions -/

/-- Does the command place the pointer, at a position or away from where it is? -/
def Command.places : Command → Bool
  | .place _ => true
  | .moveBy dx dy => !(dx.same 0 && dy.same 0)
  | _ => false

theorem Live.perform_places {l : Live} {command : Command} (h : command.places = true) :
    ∃ p, l.perform command = l.place p := by
  cases command with
  | place p => exact ⟨p, rfl⟩
  | moveBy dx dy =>
      refine ⟨⟨l.controller.pointer.position.x + dx, l.controller.pointer.position.y + dy⟩, ?_⟩
      rw [Command.places, Bool.not_eq_true', Bool.eq_false_iff] at h
      exact if_neg h
  | _ => cases h

namespace Session

variable {now : Nanos} {connected : Bool} {catalogue : Catalogue}

/-- Placing the pointer puts it inside of bounds that are not empty. -/
theorem contains_of_places {s : Session} {c : Controller} (hc : s.host.controller = some c)
    {b : Bounds} (hbounds : c.viewport.bounds? = some b) (hwide : c.viewport.left < c.viewport.right)
    (hhigh : c.viewport.top < c.viewport.bottom) {command : Command} (hplaces : command.places = true) :
    ∃ p, (s.step (.command command)).2.host.layout? = some (c.viewport, p) ∧ b.Contains p := by
  obtain ⟨clock, ⟨controller, world⟩, reported⟩ := s
  cases hc
  obtain ⟨p, hperform⟩ := Live.perform_places (l := ⟨c, clock, world⟩) hplaces
  have hlayout : ((Session.mk clock ⟨some c, world⟩ reported).step (.command command)).2.host.layout? =
      some ((Live.mk c clock world).perform command).controller.layout := by
    cases command <;> rfl
  rw [hlayout, hperform, Live.place_of_bounds hbounds]
  exact ⟨_, rfl, Viewport.admits_clamp hbounds p b hbounds hwide hhigh⟩

/-- The pointer has finite coordinates in every state of every run, whatever numbers, infinities and
not-a-numbers it was moved by or to and however many viewports carried it; and a command that places
it, under a viewport with bounds that are not empty, puts it inside of them. -/
theorem coordinates_stay_finite (now : Nanos) (connected : Bool) (catalogue : Catalogue)
    {steps : List Step} (hsteps : ∀ step ∈ steps, step.Installs Viewport.IsShort) {c : Controller}
    (hc : ((blank now connected catalogue).run steps).host.controller = some c) :
    c.pointer.position.IsFinite ∧
      ∀ b, c.viewport.bounds? = some b → c.viewport.left < c.viewport.right →
        c.viewport.top < c.viewport.bottom → ∀ command : Command, command.places = true →
          ∃ p, (((blank now connected catalogue).run steps).step (.command command)).2.host.layout? =
            some (c.viewport, p) ∧ b.Contains p := by
  obtain ⟨-, hnear⟩ := Viewport.near_law.run hsteps c.layout
    (congrArg (Option.map Controller.layout) hc)
  exact ⟨hnear.isFinite, fun b hbounds hwide hhigh command hplaces =>
    contains_of_places hc hbounds hwide hhigh hplaces⟩

/-- A pointer was put nowhere, under a viewport whose edges are not held exactly, and carried to
another turn.  It is at a finite place, and moving it without end puts it inside. -/
theorem coordinates_stay_finite_of_nowhere :
    let wide : Viewport := ⟨.builtin, .quarter, -5, 16777217, 2147483647, 16777219, 1000, 500⟩
    let turned : Viewport := { wide with rotation := .half, deviceWidth := 500, deviceHeight := 1000 }
    let s := (blank 0 true .plain).run
      [.create {}, .command (.setViewport wide), .command (.place ⟨.nan, .infinite true⟩),
        .command (.setViewport turned)]
    ∃ c p b, s.host.controller = some c ∧ c.pointer.position.IsFinite ∧
      turned.bounds? = some b ∧
      (s.step (.command (.moveBy (.infinite false) .nan))).2.host.layout? = some (turned, p) ∧
      b.Contains p := by
  intro wide turned s
  have hsteps : ∀ step ∈ [Step.create {}, .command (.setViewport wide),
      .command (.place ⟨.nan, .infinite true⟩), .command (.setViewport turned)],
      step.Installs Viewport.IsShort := by
    have hwide : wide.IsShort := by refine ⟨?_, ?_, ?_, ?_, ?_, ?_⟩ <;> decide
    have hturned : turned.IsShort := by refine ⟨?_, ?_, ?_, ?_, ?_, ?_⟩ <;> decide
    simpa [Step.Installs] using ⟨hwide, hturned⟩
  have hviewport : s.host.controller.map (·.viewport) = some turned := by decide +kernel
  obtain ⟨c, hc, hviewport⟩ := Option.map_eq_some_iff.mp hviewport
  obtain ⟨hfinite, hplaced⟩ := coordinates_stay_finite 0 true .plain hsteps hc
  rw [hviewport] at hplaced
  obtain ⟨p, hlayout, hcontains⟩ := hplaced _ rfl (by decide) (by decide)
    (.moveBy (.infinite false) .nan) (by decide +kernel)
  exact ⟨c, p, _, hc, hfinite, rfl, hlayout, hcontains⟩

end Session

end ScreenPointer
