/-
# Requests for ticks

The bookkeeping of a controller whose clock knows it and refuses it nothing.  A
tick that is pending is requested of the clock, once, and all dealings with the
clock keep it so.
-/

import ScreenPointer.Proofs.Dealings

namespace ScreenPointer

structure RefusalPlan.Grants (p : RefusalPlan) : Prop where
  upcoming : ∀ refused ∈ p.upcoming, refused = false
  thereafter : p.thereafter = false

theorem RefusalPlan.Grants.next {p : RefusalPlan} (h : p.Grants) :
    p.next.1 = false ∧ p.next.2.Grants := by
  obtain ⟨upcoming, thereafter⟩ := p
  cases upcoming with
  | nil => exact ⟨h.thereafter, h⟩
  | cons refused rest =>
      obtain ⟨hfirst, hrest⟩ := List.forall_mem_cons.mp h.upcoming
      exact ⟨hfirst, hrest, h.thereafter⟩

namespace Live

/-- A registered controller whose tick requests are granted: a pending tick is
requested, and if `strict`, a requested tick is pending. -/
structure Ticking (strict : Prop) (id : ListenerId) (l : Live) : Prop where
  listener : l.controller.listener = some id
  working : l.controller.tornDown = false
  registered : l.clock.listeners = [id]
  grants : l.world.faults.tick.Grants
  waiting : l.clock.requests = [] ∨ l.clock.requests = [id]
  held : l.controller.scheduler.pending = true → l.clock.requests = [id]
  answered : strict → l.clock.requests = [id] → l.controller.scheduler.pending = true

variable {strict : Prop} {id : ListenerId} {l l' : Live}

theorem startAnimation_of_pending (h : l.controller.scheduler.pending = true) :
    l.startAnimation = l := if_pos h

/-- A granted request is held by the clock, once. -/
theorem askTick_granted (hregistered : l.clock.listeners = [id])
    (hgrants : l.world.faults.tick.Grants)
    (hwaiting : l.clock.requests = [] ∨ l.clock.requests = [id]) :
    ∃ total world, world.faults.tick.Grants ∧
      l.askTick id = (.ok (), { l with
        clock := { l.clock with requestTotal := total, requests := [id] }
        world }) := by
  have hknown : l.clock.isRegistered id = true := by
    simp [ManualClock.isRegistered, hregistered]
  have hrequests : (if l.clock.requests.contains id then l.clock.requests
      else l.clock.requests ++ [id]) = [id] := by
    rcases hwaiting with hnone | hone
    · simp [hnone]
    · simp [hone]
  refine ⟨l.clock.requestTotal + 1,
    { l.world.record (.asked (.tick id)) with faults.tick := l.world.faults.tick.next.2 },
    hgrants.next.2, ?_⟩
  unfold askTick ManualClock.requestTick
  dsimp only
  rw [hgrants.next.1, if_neg Bool.false_ne_true, hknown, if_pos rfl, hrequests]

theorem startAnimation_ticking (h : Ticking strict id l) :
    Ticking strict id l.startAnimation ∧ l.startAnimation.controller.scheduler.pending = true := by
  cases hpending : l.controller.scheduler.pending with
  | true =>
      rw [startAnimation_of_pending hpending]
      exact ⟨h, hpending⟩
  | false =>
      obtain ⟨total, world, hgrants, hask⟩ := askTick_granted
        (l := { l with controller.scheduler := ⟨true, l.clock.now⟩ })
        h.registered h.grants h.waiting
      unfold startAnimation
      rw [if_neg (Bool.eq_false_iff.mp hpending)]
      dsimp only
      split
      · rename_i hnone
        cases h.listener.symm.trans hnone
      · rename_i own hsome
        cases Option.some.inj (h.listener.symm.trans hsome)
        split
        · rename_i asked heq
          cases hask.symm.trans heq
          exact ⟨⟨h.listener, h.working, h.registered, hgrants, .inr rfl, fun _ => rfl,
            fun _ _ => rfl⟩, rfl⟩
        · rename_i error asked heq
          cases hask.symm.trans heq

theorem startAnimation_pending (h : Ticking strict id l) :
    l.startAnimation.controller.scheduler.pending = true :=
  (startAnimation_ticking h).2

theorem Retimed.ticking (hretimed : Retimed l l') (h : Ticking strict id l) :
    Ticking strict id l' := by
  obtain ⟨_, _, _, _, _, _, rfl⟩ := hretimed
  exact { h with }

/-- All work keeps the request and its bookkeeping together. -/
theorem Works.ticking {timed : Bool} (work : Works timed l l') :
    Ticking strict id l → Ticking strict id l' := by
  refine work.keeps (P := Ticking strict id) (fun l l' hsame h => ?_)
    (fun _ h => (startAnimation_ticking h).1) (fun l => l.cancelInactivity_retimed.ticking)
    fun l => l.restartInactivity_retimed.ticking
  have hlistener : l'.controller.listener = l.controller.listener :=
    congrArg Dealings.listener hsame
  have htorn : l'.controller.tornDown = l.controller.tornDown := congrArg Dealings.tornDown hsame
  have hscheduler : l'.controller.scheduler = l.controller.scheduler :=
    congrArg Dealings.scheduler hsame
  have hclock : l'.clock = l.clock := congrArg Dealings.clock hsame
  have hfaults : l'.world.faults = l.world.faults := congrArg Dealings.faults hsame
  refine ⟨?_, ?_, ?_, ?_, ?_, ?_, ?_⟩
  · rw [hlistener]
    exact h.listener
  · rw [htorn]
    exact h.working
  · rw [hclock]
    exact h.registered
  · rw [hfaults]
    exact h.grants
  · rw [hclock]
    exact h.waiting
  · rw [hscheduler, hclock]
    exact h.held
  · rw [hscheduler, hclock]
    exact h.answered

end Live

end ScreenPointer
