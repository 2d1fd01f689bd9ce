/-
# Fades lead one way

However much time every step of a fade covers, the opacity never goes back, never leaves its
range, and arrives exactly where the fade leads; from then on nothing changes.  A step keeps
this by the order of rounded sums, and a run by putting steps together.
-/

import ScreenPointer.Proofs.Opacity

namespace ScreenPointer

/-- A later opacity of a fade in this direction may follow an earlier one. -/
def FadeDirection.Leads : FadeDirection → Single → Single → Prop
  | .out, earlier, later => later.atMost earlier = true
  | .idle, earlier, later => later = earlier
  | .into, earlier, later => earlier.atMost later = true

def FadeDirection.target? : FadeDirection → Option Single
  | .out => some 0
  | .idle => none
  | .into => some 1

theorem FadeDirection.Leads.trans {direction : FadeDirection} {x y z : Single}
    (first : direction.Leads x y) (second : direction.Leads y z) : direction.Leads x z := by
  cases direction with
  | out => exact Binary.atMost_trans second first
  | idle => exact Eq.trans second first
  | into => exact Binary.atMost_trans first second

namespace Fade

/-- What a fade can have become after some steps. -/
structure Onward (before after : Fade) : Prop where
  range : IsOpacity after.alpha
  leads : before.direction.Leads before.alpha after.alpha
  ends : after.direction = before.direction ∨
    after.direction = .idle ∧ before.direction.target? = some after.alpha

variable {f before between after : Fade} {elapsed duration : Nanos}

namespace Onward

theorem refl (h : IsOpacity f.alpha) : Onward f f := by
  refine ⟨h, ?_, .inl rfl⟩
  obtain ⟨a, ha, -⟩ := h.position
  unfold FadeDirection.Leads
  split
  · exact (Binary.atMost_iff ha ha).mpr (Int.le_refl a)
  · rfl
  · exact (Binary.atMost_iff ha ha).mpr (Int.le_refl a)

/-- A fade that has ended stays as it is. -/
theorem eq_of_idle (h : Onward before after) (hidle : before.direction = .idle) :
    after = before := by
  obtain ⟨-, hleads, hends⟩ := h
  rw [hidle] at hleads hends
  have halpha : after.alpha = before.alpha := hleads
  have hdirection : after.direction = before.direction := by
    rcases hends with hsame | ⟨hended, -⟩
    · exact hsame.trans hidle.symm
    · exact hended.trans hidle.symm
  cases after
  cases before
  simp only at halpha hdirection
  rw [halpha, hdirection]

theorem trans (first : Onward before between) (second : Onward between after) :
    Onward before after := by
  rcases first.ends with hsame | ⟨hidle, -⟩
  · refine ⟨second.range, ?_, ?_⟩
    · have hleads := second.leads
      rw [hsame] at hleads
      exact first.leads.trans hleads
    · have hends := second.ends
      rwa [hsame] at hends
  · rw [second.eq_of_idle hidle]
    exact first

end Onward

/-- One step leads on. -/
theorem step_onward (h : IsOpacity f.alpha) (helapsed : 0 ≤ elapsed)
    (hduration : duration ≤ Nanos.longest) : Onward f (f.step elapsed duration) := by
  have hrange := step_isOpacity h helapsed hduration
  obtain ⟨b, hshare, hb⟩ := elapsedShare_nonneg helapsed hduration
  obtain ⟨a, ha, hlow, hhigh, hfinite⟩ := h.position
  cases hdirection : f.direction with
  | idle =>
      have hsame : f.step elapsed duration = f := by simp only [step_eq, hdirection]
      rw [hsame]
      exact .refl h
  | out =>
      obtain ⟨c, hc, hca⟩ := Binary.exists_position_sub_le ha hshare hfinite hb
      simp only [step_eq, hdirection] at hrange ⊢
      split
      · exact ⟨isOpacity_zero, by rw [hdirection]; exact h.1, .inr ⟨rfl, by rw [hdirection]; rfl⟩⟩
      · rename_i hleft
        rw [if_neg hleft] at hrange
        exact ⟨hrange, by rw [hdirection]; exact (Binary.atMost_iff hc ha).mpr hca,
          .inl hdirection.symm⟩
  | into =>
      obtain ⟨c, hc, hac⟩ := Binary.exists_le_position_add ha hshare hfinite hb
      simp only [step_eq, hdirection] at hrange ⊢
      split
      · exact ⟨isOpacity_one, by rw [hdirection]; exact h.2, .inr ⟨rfl, by rw [hdirection]; rfl⟩⟩
      · rename_i hleft
        rw [if_neg hleft] at hrange
        exact ⟨hrange, by rw [hdirection]; exact (Binary.atMost_iff ha hc).mpr hac,
          .inl hdirection.symm⟩

theorem run_append (duration : Nanos) (f : Fade) (earlier later : List Nanos) :
    f.run duration (earlier ++ later) = (f.run duration earlier).run duration later :=
  List.foldl_append

theorem run_concat (duration : Nanos) (f : Fade) (times : List Nanos) (e : Nanos) :
    f.run duration (times ++ [e]) = (f.run duration times).step e duration :=
  run_append duration f times [e]

/-- A step tells that the fade goes on if it has not taken its direction away. -/
theorem advance_goes (elapsed duration : Nanos) (f : Fade) :
    (f.advance elapsed duration).2 = true ↔ (f.step elapsed duration).direction ≠ .idle := by
  rw [advance_eq]
  exact decide_eq_true_iff

/-- So does a run of steps. -/
theorem run_onward {times : List Nanos} (h : IsOpacity f.alpha) (htimes : ∀ e ∈ times, 0 ≤ e)
    (hduration : duration ≤ Nanos.longest) : Onward f (f.run duration times) := by
  induction times generalizing f with
  | nil => exact .refl h
  | cons e rest ih =>
      obtain ⟨hfirst, hrest⟩ := List.forall_mem_cons.mp htimes
      have hstep := step_onward h hfirst hduration
      exact hstep.trans (ih hstep.range hrest)

/-- Steps of any length take the opacity one way only.  After any number of them it is in
range, the next one tells that the fade goes on exactly if it leaves it its direction, and once
it has none the opacity is exactly what it was to become and stays so. -/
theorem run_leads {earlier later : List Nanos} (h : IsOpacity f.alpha)
    (hrunning : f.direction ≠ .idle) (hduration : duration ≤ Nanos.longest)
    (helapsed : ∀ e ∈ earlier ++ later, 0 ≤ e) :
    let before := f.run duration earlier
    let after := f.run duration (earlier ++ later)
    IsOpacity after.alpha ∧
      (f.direction = .out → after.alpha.atMost before.alpha = true) ∧
      (f.direction = .into → before.alpha.atMost after.alpha = true) ∧
      (∀ elapsed, (after.advance elapsed duration).2 = true ↔
        (f.run duration (earlier ++ later ++ [elapsed])).direction ≠ .idle) ∧
      (after.direction ≠ .idle → after.direction = f.direction) ∧
      (after.direction = .idle → f.direction = .out → after.alpha = 0) ∧
      (after.direction = .idle → f.direction = .into → after.alpha = 1) ∧
      (before.direction = .idle → after = before) := by
  intro before after
  obtain ⟨hearlier, hlater⟩ := List.forall_mem_append.mp helapsed
  have hfirst : Onward f before := run_onward h hearlier hduration
  have hsecond : Onward before after := by
    have hrun := run_onward hfirst.range hlater hduration
    rwa [← run_append] at hrun
  have hwhole := hfirst.trans hsecond
  have hleads : f.direction.Leads before.alpha after.alpha := by
    rcases hfirst.ends with hsame | ⟨hidle, -⟩
    · rw [← hsame]
      exact hsecond.leads
    · rw [hsecond.eq_of_idle hidle]
      exact (Onward.refl (f := ⟨before.alpha, f.direction⟩) hfirst.range).leads
  have htarget : after.direction = .idle → f.direction.target? = some after.alpha := fun hidle => by
    rcases hwhole.ends with hsame | ⟨-, htarget⟩
    · exact absurd (hsame.symm.trans hidle) hrunning
    · exact htarget
  refine ⟨hwhole.range, fun hout => ?_, fun hinto => ?_, fun elapsed => ?_, fun hgoes => ?_,
    fun hidle hout => ?_, fun hidle hinto => ?_, hsecond.eq_of_idle⟩
  · rw [hout] at hleads
    exact hleads
  · rw [hinto] at hleads
    exact hleads
  · rw [run_concat]
    exact after.advance_goes elapsed duration
  · rcases hwhole.ends with hsame | ⟨hidle, -⟩
    · exact hsame
    · exact absurd hidle hgoes
  · have hzero := htarget hidle
    rw [hout] at hzero
    exact (Option.some.inj hzero).symm
  · have hone := htarget hidle
    rw [hinto] at hone
    exact (Option.some.inj hone).symm

/-- Two fifths of the way down a tick comes late, and then another one. -/
theorem run_leads_late :
    (Fade.mk 1 .out).direction ≠ .idle ∧
      ((Fade.mk 1 .out).run 500000000 [100000000, 100000000]).isRunning = true ∧
      (Fade.mk 1 .out).run 500000000 ([100000000, 100000000] ++ [900000000, 1]) = ⟨0, .idle⟩ ∧
      ((Fade.mk 1 .out).run 500000000 ([100000000, 100000000] ++ [900000000, 1])).alpha.atMost
        ((Fade.mk 1 .out).run 500000000 [100000000, 100000000]).alpha = true := by
  have hrunning : (Fade.mk 1 .out).direction ≠ .idle := by decide
  have htimes : ∀ e ∈ [100000000, 100000000] ++ [900000000, 1], (0 : Nanos) ≤ e := by decide
  have hduration : (500000000 : Nanos) ≤ Nanos.longest := by decide
  have hleads := run_leads isOpacity_one hrunning hduration htimes
  exact ⟨hrunning, by decide +kernel, by decide +kernel, hleads.2.1 rfl⟩

end Fade

end ScreenPointer
