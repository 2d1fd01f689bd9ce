/-
# Fades end

A step that covers at least the 24th halving of a fade is never lost to rounding: whatever the
opacity, it moves by at least half of that.  So a fade that gets such steps has ended after
`2 ^ 25` of them, and so have the fades of all spots.
-/

import ScreenPointer.Proofs.Binary.Closeness
import ScreenPointer.Proofs.Fading
import ScreenPointer.Proofs.Spots.Dimming

namespace ScreenPointer

open Binary

/-- The 24th halving of one. -/
def leastShare : Single := 1 / 16777216

theorem position_leastShare : leastShare.position = some (2 * halfSpacing) := by decide +kernel

/-- So many steps are enough for a fade. -/
def enoughSteps : Nat := 2 ^ 25

/-- They cover the way from nothing to full, however each of them is rounded. -/
theorem enoughSteps_cover : 2 * halfPixel ≤ enoughSteps * halfSpacing := by decide +kernel

theorem exists_position_of_share {share : Single} (h : leastShare.atMost share = true) :
    ∃ b, share.position = some b ∧ 2 * halfSpacing ≤ b := by
  obtain ⟨a, b, ha, hb, hab⟩ := positions_of_atMost h
  rw [position_leastShare] at ha
  cases ha
  exact ⟨b, hb, hab⟩

section Progress

variable {alpha share : Single} {a : Int}

/-- Taking a share away leads down, or to nothing. -/
theorem sub_progress (ha : alpha.position = some a) (hlow : 0 ≤ a) (hhigh : a ≤ 2 * halfPixel)
    (hshare : leastShare.atMost share = true) :
    ∃ c, (alpha - share).position = some c ∧ (0 < c → c + halfSpacing ≤ a) := by
  obtain ⟨b, hb, hleast⟩ := exists_position_of_share hshare
  have hhalf : 0 < halfSpacing := by decide +kernel
  have hfar : (2 * halfPixel).natAbs < 2 ^ Format.single.ceiling := by decide +kernel
  have hfinite : a.natAbs < 2 ^ Format.single.ceiling := by omega
  by_cases hshort : b.natAbs < 2 ^ Format.single.ceiling
  · refine ⟨_, position_sub ha hb hfinite hshort, fun hpos => ?_⟩
    by_cases hpast : a - b ≤ 0
    · have hzero : Format.single.place 0 1 = 0 :=
        Format.single.place_one_of_holdsAt (by decide +kernel)
      have hmono := Format.single.place_mono 1 hpast
      omega
    · have hclose := (place_close (n := a - b) (by omega) (by omega)).2
      omega
  · -- an infinite share takes everything
    obtain ⟨s, m, hm, rfl, -⟩ := eq_finite_of_position ha hfinite
    obtain rfl := eq_infinite_of_position hb (by omega) hshort
    have hceiling := Nat.two_pow_pos Format.single.ceiling
    refine ⟨_, rfl, fun hpos => ?_⟩
    change 0 < -((2 ^ Format.single.ceiling : Nat) : Int) at hpos
    omega

/-- Adding a share leads up, or to full. -/
theorem add_progress (ha : alpha.position = some a) (hlow : 0 ≤ a) (hhigh : a ≤ 2 * halfPixel)
    (hshare : leastShare.atMost share = true) :
    ∃ c, (alpha + share).position = some c ∧ (c < 2 * halfPixel → a + halfSpacing ≤ c) := by
  obtain ⟨b, hb, hleast⟩ := exists_position_of_share hshare
  have hhalf : 0 < halfSpacing := by decide +kernel
  have hfar : (2 * halfPixel).natAbs < 2 ^ Format.single.ceiling := by decide +kernel
  have hfinite : a.natAbs < 2 ^ Format.single.ceiling := by omega
  by_cases hshort : b.natAbs < 2 ^ Format.single.ceiling
  · refine ⟨_, position_add ha hb hfinite hshort, fun hless => ?_⟩
    by_cases hpast : 2 * halfPixel ≤ a + b
    · have hfull : Format.single.place (2 * halfPixel) 1 = 2 * halfPixel :=
        Format.single.place_one_of_holdsAt (by decide +kernel)
      have hmono := Format.single.place_mono 1 hpast
      omega
    · have hclose := (place_close (n := a + b) (by omega) (by omega)).1
      omega
  · -- an infinite share adds more than there is room for
    obtain ⟨s, m, hm, rfl, -⟩ := eq_finite_of_position ha hfinite
    obtain rfl := eq_infinite_of_position hb (by omega) hshort
    refine ⟨_, rfl, fun hless => ?_⟩
    change ((2 ^ Format.single.ceiling : Nat) : Int) < 2 * halfPixel at hless
    omega

end Progress

/-! ## The pointer -/

namespace FadeDirection

/-- How far an opacity is from where a fade leads. -/
def distance : FadeDirection → Int → Int
  | out, a => a
  | idle, _ => 0
  | into, a => 2 * halfPixel - a

/-- A later opacity is strictly further on the way. -/
def Moves : FadeDirection → Single → Single → Prop
  | out, earlier, later => later.less earlier = true
  | idle, _, _ => False
  | into, earlier, later => earlier.less later = true

def Reached (direction : FadeDirection) (alpha : Single) : Prop :=
  ∃ target, direction.target? = some target ∧ alpha.same target = true

theorem moves_iff {direction : FadeDirection} {earlier later : Single} {a c : Int}
    (ha : earlier.position = some a) (hc : later.position = some c) :
    direction.Moves earlier later ↔ direction.distance c < direction.distance a := by
  cases direction with
  | out => exact less_iff hc ha
  | idle => simp [Moves, distance]
  | into =>
      simp only [Moves, distance, less_iff ha hc]
      omega

end FadeDirection

namespace Fade

/-- A fade that is on its way after some steps from an opacity: it has covered its part with
every step, and after the first step there is still some way to go. -/
structure Underway (direction : FadeDirection) (start : Int) (steps : Nat) (after : Fade)
    (place : Int) : Prop where
  same : after.direction = direction
  position : after.alpha.position = some place
  range : 0 ≤ place ∧ place ≤ 2 * halfPixel
  covered : steps * halfSpacing + direction.distance place ≤ direction.distance start
  left : 0 < steps → 0 < direction.distance place

variable {f : Fade} {direction : FadeDirection} {start place : Int} {steps : Nat}
  {elapsed duration : Nanos}

theorem covered_succ (steps : Nat) :
    ((steps + 1 : Nat) : Int) * halfSpacing = steps * halfSpacing + halfSpacing := by
  rw [Int.natCast_succ, Int.add_mul, Int.one_mul]

/-- A step down that leaves something covers its part of the way. -/
theorem Underway.down {share : Single} (h : Underway .out start steps f place)
    (hshare : leastShare.atMost share = true) (hleft : ¬(f.alpha - share).atMost 0 = true) :
    ∃ place', Underway .out start (steps + 1) ⟨f.alpha - share, .out⟩ place' := by
  obtain ⟨-, hplace, ⟨hlow, hhigh⟩, hcovered, -⟩ := h
  obtain ⟨c, hc, hprogress⟩ := sub_progress hplace hlow hhigh hshare
  have hhalf : 0 < halfSpacing := by decide +kernel
  have hnext := covered_succ steps
  rw [atMost_iff hc position_zero] at hleft
  simp only [FadeDirection.distance] at hcovered
  refine ⟨c, rfl, hc, ⟨by omega, by omega⟩, ?_, fun _ => ?_⟩
  · simp only [FadeDirection.distance]
    omega
  · simp only [FadeDirection.distance]
    omega

/-- A step up that does not fill it covers its part of the way. -/
theorem Underway.up {share : Single} (h : Underway .into start steps f place)
    (hshare : leastShare.atMost share = true)
    (hleft : ¬(1 : Single).atMost (f.alpha + share) = true) :
    ∃ place', Underway .into start (steps + 1) ⟨f.alpha + share, .into⟩ place' := by
  obtain ⟨-, hplace, ⟨hlow, hhigh⟩, hcovered, -⟩ := h
  obtain ⟨c, hc, hprogress⟩ := add_progress hplace hlow hhigh hshare
  have hhalf : 0 < halfSpacing := by decide +kernel
  have hnext := covered_succ steps
  rw [atMost_iff position_one hc] at hleft
  simp only [FadeDirection.distance] at hcovered
  refine ⟨c, rfl, hc, ⟨by omega, by omega⟩, ?_, fun _ => ?_⟩
  · simp only [FadeDirection.distance]
    omega
  · simp only [FadeDirection.distance]
    omega

/-- A step ends the fade or covers its part of the way. -/
theorem Underway.step (h : Underway direction start steps f place)
    (hshare : leastShare.atMost (elapsedShare elapsed duration) = true) :
    (f.step elapsed duration).direction = .idle ∨
      ∃ place', Underway direction start (steps + 1) (f.step elapsed duration) place' := by
  obtain rfl := h.same
  cases hdirection : f.direction with
  | idle =>
      left
      simp only [Fade.step_eq, hdirection]
  | out =>
      rw [hdirection] at h
      simp only [Fade.step_eq, hdirection]
      split
      · exact .inl rfl
      · rename_i hleft
        exact .inr (h.down hshare hleft)
  | into =>
      rw [hdirection] at h
      simp only [Fade.step_eq, hdirection]
      split
      · exact .inl rfl
      · rename_i hleft
        exact .inr (h.up hshare hleft)

/-- Counted from here, no way has been covered yet. -/
theorem Underway.here (h : Underway direction start steps f place) :
    Underway direction place 0 f place where
  same := h.same
  position := h.position
  range := h.range
  covered := by simp
  left hsteps := absurd hsteps (Nat.lt_irrefl 0)

theorem step_of_idle (hidle : f.direction = .idle) (elapsed duration : Nanos) :
    f.step elapsed duration = f := by
  simp only [step_eq, hidle]

/-- After any number of steps the fade has ended or is on its way. -/
theorem run_underway {times : List Nanos} (hplace : f.alpha.position = some place)
    (hrange : 0 ≤ place ∧ place ≤ 2 * halfPixel)
    (hshares : ∀ e ∈ times, leastShare.atMost (elapsedShare e duration) = true) :
    (f.run duration times).direction = .idle ∨
      ∃ place', Underway f.direction place times.length (f.run duration times) place' := by
  induction times using List.reverseRecOn with
  | nil =>
      exact .inr ⟨place, rfl, hplace, hrange, by simp,
        fun hsteps => absurd hsteps (Nat.lt_irrefl 0)⟩
  | append_singleton earlier e ih =>
      obtain ⟨hearlier, hlast⟩ := List.forall_mem_append.mp hshares
      rw [run_concat, List.length_append, List.length_singleton]
      rcases ih hearlier with hidle | ⟨between, hunderway⟩
      · rw [step_of_idle hidle]
        exact .inl hidle
      · exact hunderway.step (hlast e (List.mem_singleton_self e))

theorem distance_le (direction : FadeDirection) {a : Int} (hrange : 0 ≤ a ∧ a ≤ 2 * halfPixel) :
    direction.distance a ≤ 2 * halfPixel := by
  have hfull : 0 ≤ 2 * halfPixel := by decide +kernel
  cases direction <;> simp only [FadeDirection.distance] <;> omega

/-- After enough steps there is no way left to go. -/
theorem Underway.not_enough (h : Underway direction start enoughSteps f place)
    (hrange : 0 ≤ start ∧ start ≤ 2 * halfPixel) : False := by
  have hcovered := h.covered
  have hleft := h.left (by decide +kernel)
  have hdistance := distance_le direction hrange
  have hcover := enoughSteps_cover
  omega

/-- A step that covers its part moves the opacity. -/
theorem Underway.moves {after : Fade} {place' : Int} (h : Underway direction start steps f place)
    (hnext : Underway direction place 1 after place') : direction.Moves f.alpha after.alpha := by
  have hhalf : 0 < halfSpacing := by decide +kernel
  have hcovered := hnext.covered
  rw [FadeDirection.moves_iff h.position hnext.position]
  omega

/-- To go where a fade leads moves the opacity, too, unless it is there. -/
theorem Underway.moves_to_target {target : Single} (h : Underway direction start steps f place)
    (htarget : direction.target? = some target) :
    direction.Moves f.alpha target ∨ direction.Reached f.alpha ∧ direction.distance place = 0 := by
  obtain ⟨hlow, hhigh⟩ := h.range
  cases direction with
  | out =>
      cases htarget
      rw [FadeDirection.moves_iff h.position position_zero]
      simp only [FadeDirection.distance]
      rcases Int.lt_or_eq_of_le hlow with hpos | rfl
      · exact .inl hpos
      · exact .inr ⟨⟨0, rfl, (same_iff h.position position_zero).mpr rfl⟩, rfl⟩
  | idle => cases htarget
  | into =>
      cases htarget
      rw [FadeDirection.moves_iff h.position position_one]
      simp only [FadeDirection.distance]
      rcases Int.lt_or_eq_of_le hhigh with hless | rfl
      · left
        omega
      · exact .inr ⟨⟨1, rfl, (same_iff h.position position_one).mpr rfl⟩, Int.sub_self _⟩

theorem step_ends (hrunning : f.direction ≠ .idle)
    (hends : (f.step elapsed duration).direction = .idle) :
    f.direction.target? = some (f.step elapsed duration).alpha := by
  cases hdirection : f.direction with
  | idle => exact absurd hdirection hrunning
  | out =>
      simp only [step_eq, hdirection] at hends ⊢
      split at hends
      · rename_i hnothing
        rw [if_pos hnothing]
        rfl
      · cases hends
  | into =>
      simp only [step_eq, hdirection] at hends ⊢
      split at hends
      · rename_i hfull
        rw [if_pos hfull]
        rfl
      · cases hends

/-- Enough steps end the fade. -/
theorem run_enough {times : List Nanos} (h : IsOpacity f.alpha)
    (henough : enoughSteps ≤ times.length)
    (hshares : ∀ e ∈ times, leastShare.atMost (elapsedShare e duration) = true) :
    (f.run duration (times.take enoughSteps)).direction = .idle := by
  obtain ⟨place, hplace, hlow, hhigh, -⟩ := h.position
  have htaken : ∀ e ∈ times.take enoughSteps, leastShare.atMost (elapsedShare e duration) = true :=
    fun e he => hshares e (List.mem_of_mem_take he)
  rcases run_underway hplace ⟨hlow, hhigh⟩ htaken with hidle | ⟨place', hunderway⟩
  · exact hidle
  · rw [List.length_take_of_le henough] at hunderway
    exact (hunderway.not_enough ⟨hlow, hhigh⟩).elim

/-- A step of a fade that has not ended moves the opacity.  The only one that does not is a
first step of a fade that has nowhere to go, and it ends the fade. -/
theorem run_moves {earlier : List Nanos} {e : Nanos} (h : IsOpacity f.alpha)
    (hshares : ∀ e' ∈ earlier ++ [e], leastShare.atMost (elapsedShare e' duration) = true)
    (hrunning : (f.run duration earlier).direction ≠ .idle) :
    f.direction.Moves (f.run duration earlier).alpha (f.run duration (earlier ++ [e])).alpha ∨
      earlier = [] ∧ f.direction.Reached f.alpha ∧
        (f.run duration (earlier ++ [e])).direction = .idle := by
  obtain ⟨place, hplace, hlow, hhigh, -⟩ := h.position
  obtain ⟨hearlier, hlast⟩ := List.forall_mem_append.mp hshares
  have hshare := hlast e (List.mem_singleton_self e)
  rw [run_concat]
  rcases run_underway hplace ⟨hlow, hhigh⟩ hearlier with hidle | ⟨between, hunderway⟩
  · exact absurd hidle hrunning
  rcases hunderway.here.step hshare with hends | ⟨after, hnext⟩
  · have htarget := step_ends hrunning hends
    rw [hunderway.same] at htarget
    rcases hunderway.moves_to_target htarget with hmoves | ⟨hreached, hnone⟩
    · exact .inl hmoves
    · have hfirst : earlier = [] := by
        apply List.eq_nil_of_length_eq_zero
        have hleft := hunderway.left
        omega
      rw [hfirst] at hreached
      exact .inr ⟨hfirst, hreached, hends⟩
  · exact .inl (hunderway.moves hnext)

/-- A step after which the fade has not ended moves the opacity. -/
theorem run_moves_of_goes {earlier : List Nanos} {e : Nanos} (h : IsOpacity f.alpha)
    (hshares : ∀ e' ∈ earlier ++ [e], leastShare.atMost (elapsedShare e' duration) = true)
    (hgoes : (f.run duration (earlier ++ [e])).direction ≠ .idle) :
    f.direction.Moves (f.run duration earlier).alpha (f.run duration (earlier ++ [e])).alpha := by
  have hrunning : (f.run duration earlier).direction ≠ .idle := fun hidle => by
    rw [run_concat, step_of_idle hidle] at hgoes
    exact hgoes hidle
  rcases run_moves h hshares hrunning with hmoves | ⟨-, -, hends⟩
  · exact hmoves
  · exact absurd hends hgoes

end Fade

/-! ## Spots -/

namespace Spot

/-- A spot after several steps of fading, if it is not finished. -/
def dimmedBy? (deltas : List Single) (s : Spot) : Option Spot :=
  deltas.foldlM (fun s delta => s.dimmed? delta) s

theorem dimmedBy?_concat (deltas : List Single) (delta : Single) (s : Spot) :
    s.dimmedBy? (deltas ++ [delta]) = (s.dimmedBy? deltas).bind (dimmed? delta) := by
  simp [dimmedBy?, List.foldlM_append]

theorem dimmedBy?_of_active {s : Spot} (hactive : s.isFading = false) (deltas : List Single) :
    s.dimmedBy? deltas = some s := by
  induction deltas with
  | nil => rfl
  | cons delta rest ih =>
      simp only [dimmedBy?, List.foldlM_cons, dimmed?_of_active hactive]
      exact ih

/-- After any number of steps a fading spot is finished or its fade is on its way. -/
theorem dimmedBy?_underway {s : Spot} {deltas : List Single} {place : Int}
    (hfading : s.isFading = true) (hplace : s.alpha.position = some place)
    (hrange : 0 ≤ place ∧ place ≤ 2 * halfPixel)
    (hshares : ∀ delta ∈ deltas, leastShare.atMost delta = true) :
    s.dimmedBy? deltas = none ∨
      ∃ left place', s.dimmedBy? deltas = some left ∧ left.isFading = true ∧
        Fade.Underway .out place deltas.length ⟨left.alpha, .out⟩ place' := by
  induction deltas using List.reverseRecOn with
  | nil =>
      exact .inr ⟨s, place, rfl, hfading, rfl, hplace, hrange, by simp,
        fun hsteps => absurd hsteps (Nat.lt_irrefl 0)⟩
  | append_singleton earlier delta ih =>
      obtain ⟨hearlier, hlast⟩ := List.forall_mem_append.mp hshares
      rw [dimmedBy?_concat, List.length_append, List.length_singleton]
      rcases ih hearlier with hnone | ⟨between, place', hbetween, hfades, hunderway⟩
      · rw [hnone]
        exact .inl rfl
      · rw [hbetween, Option.bind_some]
        cases hends : between.endsBy delta with
        | true => exact .inl (dimmed?_of_ends hends)
        | false =>
            have hleft : ¬(between.alpha - delta).atMost 0 = true := by
              rw [← endsBy_of_fading hfades, hends]
              exact Bool.false_ne_true
            obtain ⟨place'', hnext⟩ :=
              hunderway.down (hlast delta (List.mem_singleton_self _)) hleft
            exact .inr ⟨_, place'', dimmed?_of_fading hends hfades, hfades, hnext⟩

/-- A fading spot whose opacity is above nothing and at most full. -/
def IsDimming (s : Spot) : Prop :=
  s.isFading = true ∧ (0 : Single).less s.alpha = true ∧ s.alpha.atMost 1 = true

/-- Enough steps finish it. -/
theorem IsDimming.enough {s : Spot} {deltas : List Single} (h : s.IsDimming)
    (henough : deltas.length = enoughSteps)
    (hshares : ∀ delta ∈ deltas, leastShare.atMost delta = true) : s.dimmedBy? deltas = none := by
  obtain ⟨hfading, hsome, hmost⟩ := h
  have hrange : IsOpacity s.alpha := ⟨atMost_of_less hsome, hmost⟩
  obtain ⟨place, hplace, hlow, hhigh, -⟩ := hrange.position
  rcases dimmedBy?_underway hfading hplace ⟨hlow, hhigh⟩ hshares with
    hnone | ⟨left, place', -, -, hunderway⟩
  · exact hnone
  · rw [henough] at hunderway
    exact (hunderway.not_enough ⟨hlow, hhigh⟩).elim

end Spot

namespace SpotPool

def advances (deltas : List Single) (state : SpotPool × Surface) : SpotPool × Surface :=
  deltas.foldl (fun state delta => (state.1.advanceFades delta state.2).2) state

/-- What is left is left of the spots that there were, and their fades take the same course
wherever they are. -/
theorem live_advances (deltas : List Single) (state : SpotPool × Surface) :
    (advances deltas state).1.live =
      state.1.live.filterMap fun e => (e.2.dimmedBy? deltas).map (Prod.mk e.1) := by
  induction deltas generalizing state with
  | nil => simp [advances, Spot.dimmedBy?]
  | cons delta rest ih =>
      have hfirst : advances (delta :: rest) state =
          advances rest (state.1.advanceFades delta state.2).2 := rfl
      rw [hfirst, ih, advanceFades_eq, live_dimmed, List.filterMap_filterMap]
      apply List.filterMap_congr
      intro e _
      simp only [dimmedOn?, Spot.dimmedBy?, List.foldlM_cons]
      cases e.2.dimmed? delta <;> rfl

/-- Enough steps leave no spot that fades, since an active one never begins to. -/
theorem not_fades_advances {state : SpotPool × Surface} {deltas : List Single}
    (henough : deltas.length = enoughSteps)
    (hshares : ∀ delta ∈ deltas, leastShare.atMost delta = true)
    (hall : ∀ e ∈ state.1.live, e.2.isFading = true → e.2.IsDimming) :
    ¬(advances deltas state).1.Fades := by
  rintro ⟨left, hleft, hfading⟩
  rw [live_advances] at hleft
  obtain ⟨e, he, heq⟩ := List.mem_filterMap.mp hleft
  obtain ⟨s, hs, rfl⟩ := Option.map_eq_some_iff.mp heq
  cases hstart : e.2.isFading with
  | true =>
      rw [(hall e he hstart).enough henough hshares] at hs
      cases hs
  | false =>
      rw [Spot.dimmedBy?_of_active hstart] at hs
      cases hs
      rw [hstart] at hfading
      cases hfading

end SpotPool

/-- Fades end.  Enough steps, each of which covers at least the 24th halving of a fade, end the
pointer's fade, and as long as it has not ended each of them moves the opacity strictly in its
direction; so does the one that ends it, unless the fade had nowhere to go from the start.  As
many such steps for a pool, and nothing else, remove its fading spots and leave the active
ones. -/
theorem fades_end :
    (∀ (f : Fade) (duration : Nanos) (times : List Nanos), IsOpacity f.alpha →
      enoughSteps ≤ times.length →
      (∀ e ∈ times, leastShare.atMost (elapsedShare e duration) = true) →
      (f.run duration (times.take enoughSteps)).direction = .idle ∧
        ∀ earlier e, earlier ++ [e] <+: times →
          ((f.run duration (earlier ++ [e])).direction ≠ .idle →
            f.direction.Moves (f.run duration earlier).alpha
              (f.run duration (earlier ++ [e])).alpha) ∧
          ((f.run duration earlier).direction ≠ .idle →
            f.direction.Moves (f.run duration earlier).alpha
                (f.run duration (earlier ++ [e])).alpha ∨
              earlier = [] ∧ f.direction.Reached f.alpha)) ∧
    ∀ (state : SpotPool × Surface) (deltas : List Single), deltas.length = enoughSteps →
      (∀ delta ∈ deltas, leastShare.atMost delta = true) →
      (SpotPool.advances deltas state).1.live =
          state.1.live.filterMap (fun e => (e.2.dimmedBy? deltas).map (Prod.mk e.1)) ∧
        (∀ e ∈ state.1.live, e.2.IsDimming → e.2.dimmedBy? deltas = none) ∧
        (∀ e ∈ state.1.live, e.2.isFading = false → e.2.dimmedBy? deltas = some e.2) ∧
        ((∀ e ∈ state.1.live, e.2.isFading = true → e.2.IsDimming) →
          ¬(SpotPool.advances deltas state).1.Fades) := by
  refine ⟨fun f duration times hopacity henough hshares => ⟨?_, ?_⟩,
    fun state deltas henough hshares => ⟨?_, ?_, ?_, ?_⟩⟩
  · exact Fade.run_enough hopacity henough hshares
  · intro earlier e hearlier
    have htaken : ∀ e' ∈ earlier ++ [e], leastShare.atMost (elapsedShare e' duration) = true :=
      fun e' he' => hshares e' (hearlier.subset he')
    exact ⟨Fade.run_moves_of_goes hopacity htaken, fun hrunning =>
      (Fade.run_moves hopacity htaken hrunning).imp_right fun h => ⟨h.1, h.2.1⟩⟩
  · exact SpotPool.live_advances deltas state
  · intro e _ hdims
    exact hdims.enough henough hshares
  · intro e _ hactive
    exact Spot.dimmedBy?_of_active hactive deltas
  · exact SpotPool.not_fades_advances henough hshares

/-- Steps of 30 ns, each of which is hardly more than the 24th halving of half a second. -/
def shortSteps : List Nanos := List.replicate enoughSteps 30

/-- Such steps bring down an opacity that is full, and those of two lifted fingers' spots go
while two held ones stay. -/
theorem fades_end_in_short_steps :
    (∀ e ∈ shortSteps, leastShare.atMost (elapsedShare e 500000000) = true) ∧
      ((Fade.mk 1 .out).run 500000000 (shortSteps.take enoughSteps)).direction = .idle ∧
      (SpotPool.twoLifted.1.live.map fun e => e.2.phase) =
        [.fading, .fading, .active ⟨3⟩, .active ⟨4⟩] ∧
      ¬(SpotPool.advances (List.replicate enoughSteps leastShare) SpotPool.twoLifted).1.Fades := by
  have hshare : leastShare.atMost (elapsedShare 30 500000000) = true := by decide +kernel
  have hleast : leastShare.atMost leastShare = true := by decide +kernel
  have hshares : ∀ e ∈ shortSteps, leastShare.atMost (elapsedShare e 500000000) = true := by
    intro e he
    rw [List.eq_of_mem_replicate he]
    exact hshare
  have hlength : enoughSteps ≤ shortSteps.length := Nat.le_of_eq List.length_replicate.symm
  have hdeltas : ∀ delta ∈ List.replicate enoughSteps leastShare,
      leastShare.atMost delta = true := by
    intro delta hdelta
    rw [List.eq_of_mem_replicate hdelta]
    exact hleast
  have hspots : ∀ e ∈ SpotPool.twoLifted.1.live, e.2.isFading = true →
      (0 : Single).less e.2.alpha = true ∧ e.2.alpha.atMost 1 = true := by decide +kernel
  have hpointer := (fades_end.1 ⟨1, .out⟩ 500000000 shortSteps isOpacity_one hlength hshares).1
  have hpool := (fades_end.2 SpotPool.twoLifted _ List.length_replicate hdeltas).2.2.2
  exact ⟨hshares, hpointer, by decide +kernel, hpool fun e he hfading =>
    ⟨hfading, hspots e he hfading⟩⟩

end ScreenPointer
