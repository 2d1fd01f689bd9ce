/-
# Opacities stay in range

A fade takes the rounded share of its duration that has passed away from an opacity
or adds it.  The share is a number and never negative, whatever the duration and the
time; it may be infinite, and then the step ends the fade.  So the pointer's opacity
stays between nothing and full, and a spot that is there has some opacity left: all of
it while its contact is down.
-/

import ScreenPointer.Proofs.Binary.Unsigned
import ScreenPointer.Proofs.Display.Bounds
import ScreenPointer.Proofs.Shading
import ScreenPointer.Proofs.Spots.Each

namespace ScreenPointer

open Binary

/-! ## Shares -/

theorem Nanos.ofMillis_le_longest (ms : Nat) : ofMillis ms ≤ longest := Int.min_le_right _ _

theorem position_one : (1 : Single).position = some (2 * halfPixel) := by decide +kernel

/-- A duration as a divisor: positive, and far below the ceiling. -/
theorem position_divisor {duration : Nanos} (hduration : duration ≤ Nanos.longest) :
    ∃ b, (ofInt (max duration 1) : Single).position = some b ∧ 0 < b ∧
      b.natAbs < 2 ^ Format.single.ceiling := by
  have hlow : Format.single.HoldsAt (2 ^ 149) := by decide +kernel
  have hhigh : Format.single.HoldsAt (2 ^ 212) := by decide +kernel
  have hunit : ((2 ^ Format.single.fraction : Nat) : Int) = 2 ^ 149 := by decide +kernel
  have hfar : ((2 ^ 212 : Int)).natAbs < 2 ^ Format.single.ceiling := by decide +kernel
  have hone : (1 : Int) ≤ max duration 1 := Int.le_max_right _ _
  have hlongest : (max duration 1 : Int) ≤ 2 ^ 63 :=
    Int.max_le.mpr ⟨Int.le_trans hduration (by decide), by decide⟩
  generalize (max duration 1 : Int) = divisor at hone hlongest ⊢
  obtain ⟨hbelow, habove⟩ := Format.place_mem (n := divisor * 2 ^ 149) (d := 1) _ Nat.one_pos
    hlow hhigh (by omega) (by omega)
  exact ⟨_, by rw [position_ofInt, hunit], by omega, by omega⟩

/-- A duration as a divisor has no sign and is not zero. -/
theorem exists_divisor {duration : Nanos} (hduration : duration ≤ Nanos.longest) :
    ∃ n holds, (ofInt (max duration 1) : Single) = finite false n holds ∧ n ≠ 0 := by
  obtain ⟨b, hb, hpos, hfinite⟩ := position_divisor hduration
  obtain ⟨s, n, holds, hn, rfl⟩ := eq_finite_of_position hb hfinite
  obtain ⟨rfl, hsome⟩ := signed_pos hpos
  exact ⟨n, holds, hn, Nat.ne_of_gt hsome⟩

/-- The share of a fade that has passed has no sign. -/
theorem elapsedShare_unsigned {elapsed duration : Nanos} (helapsed : 0 ≤ elapsed)
    (hduration : duration ≤ Nanos.longest) : (elapsedShare elapsed duration).Unsigned := by
  obtain ⟨n, holds, hn, hsome⟩ := exists_divisor hduration
  rw [elapsedShare, hn]
  exact (unsigned_ofInt helapsed).div holds hsome

/-- It is a number and never negative. -/
theorem elapsedShare_nonneg {elapsed duration : Nanos} (helapsed : 0 ≤ elapsed)
    (hduration : duration ≤ Nanos.longest) :
    ∃ a, (elapsedShare elapsed duration).position = some a ∧ 0 ≤ a :=
  (elapsedShare_unsigned helapsed hduration).exists_position

def IsOpacity (alpha : Single) : Prop := Between 0 1 alpha

instance (alpha : Single) : Decidable (IsOpacity alpha) :=
  inferInstanceAs (Decidable (Between 0 1 alpha))

theorem isOpacity_zero : IsOpacity 0 := by decide +kernel

theorem isOpacity_one : IsOpacity 1 := by decide +kernel

theorem isOpacity_iff {alpha : Single} {a : Int} (h : alpha.position = some a) :
    IsOpacity alpha ↔ 0 ≤ a ∧ a ≤ 2 * halfPixel :=
  between_iff position_zero position_one h

theorem IsOpacity.position {alpha : Single} (h : IsOpacity alpha) :
    ∃ a, alpha.position = some a ∧ 0 ≤ a ∧ a ≤ 2 * halfPixel ∧
      a.natAbs < 2 ^ Format.single.ceiling := by
  obtain ⟨-, a, -, ha, -⟩ := positions_of_atMost h.1
  obtain ⟨hlow, hhigh⟩ := (isOpacity_iff ha).mp h
  have hfar : (2 * halfPixel).natAbs < 2 ^ Format.single.ceiling := by decide +kernel
  exact ⟨a, ha, hlow, hhigh, by omega⟩

/-- One step of a fade stays in range, however long the step is. -/
theorem Fade.step_isOpacity {f : Fade} {elapsed duration : Nanos} (h : IsOpacity f.alpha)
    (helapsed : 0 ≤ elapsed) (hduration : duration ≤ Nanos.longest) :
    IsOpacity (f.step elapsed duration).alpha := by
  obtain ⟨b, hshare, hb⟩ := elapsedShare_nonneg helapsed hduration
  obtain ⟨a, ha, hlow, hhigh, hfinite⟩ := h.position
  cases hdirection : f.direction with
  | idle =>
      simp only [Fade.step_eq, hdirection]
      exact h
  | out =>
      simp only [Fade.step_eq, hdirection]
      obtain ⟨c, hc, hca⟩ := exists_position_sub_le ha hshare hfinite hb
      split
      · exact isOpacity_zero
      · rename_i hleft
        rw [atMost_iff hc position_zero] at hleft
        exact (isOpacity_iff hc).mpr ⟨by omega, by omega⟩
  | into =>
      simp only [Fade.step_eq, hdirection]
      obtain ⟨c, hc, hac⟩ := exists_le_position_add ha hshare hfinite hb
      split
      · exact isOpacity_one
      · rename_i hleft
        rw [atMost_iff position_one hc] at hleft
        exact (isOpacity_iff hc).mpr ⟨by omega, by omega⟩

/-! ## Spots -/

/-- A spot that can be seen: it has some opacity, and all of it while its contact is down. -/
structure Spot.Lit (s : Spot) : Prop where
  range : IsOpacity s.alpha
  some : (0 : Single).less s.alpha = true
  full : s.isFading = false → s.alpha = 1

namespace Spot.Lit

theorem of_full {s : Spot} (h : s.alpha = 1) : s.Lit :=
  ⟨h ▸ isOpacity_one, h ▸ by decide +kernel, fun _ => h⟩

/-- A fading spot that is not gone after a step of its fade. -/
theorem dimmed {s : Spot} {delta : Single} {b : Int} (h : s.Lit) (hfading : s.isFading = true)
    (hdelta : delta.position = Option.some b) (hb : 0 ≤ b)
    (hleft : (s.alpha - delta).atMost 0 = false) : Lit { s with alpha := s.alpha - delta } := by
  obtain ⟨a, ha, hlow, hhigh, hfinite⟩ := h.range.position
  obtain ⟨c, hc, hca⟩ := exists_position_sub_le ha hdelta hfinite hb
  rw [Bool.eq_false_iff, ne_eq, atMost_iff hc position_zero] at hleft
  refine ⟨(isOpacity_iff hc).mpr ⟨by omega, by omega⟩, ?_, fun hactive => ?_⟩
  · exact (less_iff position_zero hc).mpr (by omega)
  · exact absurd (hactive.symm.trans hfading) Bool.false_ne_true

end Spot.Lit

/-! ## Controllers -/

structure Scene.Lit (v : Scene) : Prop where
  pointer : IsOpacity v.controller.pointer.fade.alpha
  spots : v.controller.spots.Each Spot.Lit

theorem Live.Shades.lit {l : Live} {g : Fade × SpotPool} (h : l.Shades g) (hlit : l.scene.Lit) :
    IsOpacity g.1.alpha ∧ g.2.Each Spot.Lit := by
  obtain ⟨hpointer, hspots⟩ := hlit
  have hfading : ∀ s : Spot, s.Lit → Spot.Lit { s with phase := .fading } := fun s hs =>
    ⟨hs.range, hs.some, fun hactive => by cases hactive⟩
  cases h with
  | kept => exact ⟨hpointer, hspots⟩
  | turned direction => exact ⟨hpointer, hspots⟩
  | @ended alpha range =>
      refine ⟨?_, hspots⟩
      rcases range with hnothing | hfull
      · exact hnothing ▸ isOpacity_zero
      · exact hfull ▸ isOpacity_one
  | released => exact ⟨hpointer, hspots.fadeAll hfading⟩
  | reported _ contacts display icons surface =>
      exact ⟨hpointer, hspots.update (fun _ _ => .of_full rfl)
        (fun s _ hs => ⟨hs.range, hs.some, hs.full⟩) hfading contacts display icons surface⟩
  | ticked forward surface =>
      obtain ⟨b, hshare, hb⟩ := elapsedShare_nonneg forward (Nanos.ofMillis_le_longest _)
      exact ⟨Fade.step_isOpacity hpointer forward (Nanos.ofMillis_le_longest _),
        hspots.advanceFades (fun s hs hfades hleft => hs.dimmed hfades hshare hb hleft) surface⟩

/-- Opacities stay in range from the making of a controller to its end. -/
theorem lit_law : SceneLaw (fun _ _ => True) Scene.Lit where
  empty _ := trivial
  start _ _ _ _ _ := ⟨isOpacity_zero, SpotPool.each_new _ _ _⟩
  perform l command h :=
    have hlit := (l.perform_shades command).lit h
    ⟨hlit.1, hlit.2⟩
  receive l notice h :=
    have hlit := (l.receive_shades notice).lit h
    ⟨hlit.1, hlit.2⟩
  tearDown _ _ := trivial

theorem IsOpacity.ne_nan {alpha : Single} (h : IsOpacity alpha) : alpha ≠ .nan := by
  rintro rfl
  exact absurd h (by decide +kernel)

namespace Session

/-- In every state of every run, whatever the settings and whenever ticks come, the
pointer's opacity is a number from nothing to full, a spot whose contact is down is
fully opaque, and a fading spot has a number above nothing and at most full. -/
theorem opacities_in_range {s : Session} (hs : s.Reachable) {c : Controller}
    (hc : s.host.controller = some c) :
    (c.pointer.fade.alpha ≠ .nan ∧ (0 : Single).atMost c.pointer.fade.alpha = true ∧
        c.pointer.fade.alpha.atMost 1 = true) ∧
      ∀ display, ∀ spot ∈ c.spots.spots display,
        spot.alpha ≠ .nan ∧
          (∀ contact, spot.phase = .active contact → spot.alpha = 1) ∧
          (spot.phase = .fading →
            (0 : Single).less spot.alpha = true ∧ spot.alpha.atMost 1 = true) := by
  obtain ⟨hpointer, hspots⟩ := lit_law.live_meets hs hc
  refine ⟨⟨hpointer.ne_nan, hpointer.1, hpointer.2⟩, fun display spot hspot => ?_⟩
  have hlit : spot.Lit := hspots.on display spot hspot
  refine ⟨hlit.range.ne_nan, fun contact hactive => ?_, fun _ => ⟨hlit.some, hlit.range.2⟩⟩
  exact hlit.full (by simp [Spot.isFading, hactive])

/-- A quarter of the way through its fade a lifted contact's spot is still there, next to
one whose contact is down, and the pointer has begun to appear. -/
theorem opacities_in_range_during_fades :
    let s := (blank 0 true .plain).run
      [.create {}, .command (.setViewport (.whole .builtin 800 600)),
        .command (.setSpots [⟨⟨1⟩, .origin, 1⟩, ⟨⟨2⟩, .origin, 1⟩] .builtin),
        .command (.setSpots [⟨⟨2⟩, .origin, 1⟩] .builtin),
        .command (.reveal .gradual), .vsync 50000000]
    ∃ c lifted held, s.host.controller = some c ∧ c.spots.spots .builtin = [lifted, held] ∧
      c.pointer.fade.direction = .into ∧ c.pointer.fade.alpha.atMost 1 = true ∧
      lifted.phase = .fading ∧ (0 : Single).less lifted.alpha = true ∧ lifted.alpha ≠ 1 ∧
      held.phase = .active ⟨2⟩ ∧ held.alpha = 1 := by
  intro s
  have hstate : (s.host.controller.map fun c => (c.pointer.fade.direction,
      (c.spots.spots .builtin).map fun spot => (spot.phase, decide (spot.alpha = 1)))) =
      some (.into, [(.fading, false), (.active ⟨2⟩, true)]) := by
    decide +kernel
  obtain ⟨c, hc, heq⟩ := Option.map_eq_some_iff.mp hstate
  obtain ⟨hdirection, hspots⟩ := Prod.mk.inj heq
  obtain ⟨⟨-, -, hmost⟩, hrange⟩ :=
    opacities_in_range (s := s) ⟨0, true, .plain, _, rfl⟩ hc
  obtain ⟨lifted, rest, hlist, hlifted, hrest⟩ := List.map_eq_cons_iff.mp hspots
  obtain ⟨held, none, rfl, hheld, hnone⟩ := List.map_eq_cons_iff.mp hrest
  obtain rfl := List.map_eq_nil_iff.mp hnone
  obtain ⟨hfading, hdimmed⟩ := Prod.mk.inj hlifted
  obtain ⟨hactive, -⟩ := Prod.mk.inj hheld
  obtain ⟨-, -, hseen⟩ := hrange .builtin lifted (by simp [hlist])
  obtain ⟨-, hfull, -⟩ := hrange .builtin held (by simp [hlist])
  exact ⟨c, lifted, held, hc, hlist, hdirection, hmost, hfading, (hseen hfading).1,
    of_decide_eq_false hdimmed, hactive, hfull _ hactive⟩

end Session

end ScreenPointer
