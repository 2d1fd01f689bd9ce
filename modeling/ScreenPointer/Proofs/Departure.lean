/-
# Notices for the dead

A controller is dead once it has been taken down, whether it is still there or not.
What its listener is told then changes neither the controller nor the surface nor the
clock.  The listener also asks to be forgotten, with one exception: while the dead
controller is still there, events without a vsync are answered before anyone looks
whether it is dead, and the listener stays.
-/

import ScreenPointer.Proofs.Runs

namespace ScreenPointer

/-- Without a vsync among them, events have no latest one. -/
theorem latestVsync?_eq_none_iff {events : List DisplayEvent} :
    latestVsync? events = none ↔ ∀ e ∈ events, e.vsyncTime? = none := by
  simp [latestVsync?]

namespace Live

variable {l : Live}

/-- Of its world, a controller that was taken down changes no more than the log. -/
theorem receive_of_tornDown (hdown : l.controller.tornDown = true) (notice : Notice) :
    ∃ log, (l.receive notice).2 = { l with world.log := log } := by
  cases notice with
  | events events =>
      refine ⟨l.world.log, ?_⟩
      cases hlatest : latestVsync? events <;> simp [receive, hlatest, hdown]
  | timer token => exact ⟨l.world.log, by simp [receive, hdown]⟩
  | failure => exact ⟨_, rfl⟩

/-- It wants to hear more after events without a vsync. -/
theorem receive_status_of_tornDown (hdown : l.controller.tornDown = true)
    (notice : Notice) :
    (l.receive notice).1 = .keep ↔
      ∃ events, notice = .events events ∧ ∀ e ∈ events, e.vsyncTime? = none := by
  cases notice with
  | events events =>
      cases hlatest : latestVsync? events with
      | none =>
          have hnone := latestVsync?_eq_none_iff.mp hlatest
          exact ⟨fun _ => ⟨events, rfl, hnone⟩, fun _ => by simp [receive, hlatest]⟩
      | some timestamp =>
          constructor
          · simp [receive, hlatest, hdown]
          · rintro ⟨_, heq, hnone⟩
            cases heq
            rw [latestVsync?_eq_none_iff.mpr hnone] at hlatest
            cases hlatest
  | timer token => simp [receive, hdown]
  | failure => simp [receive]

end Live

namespace Host

/-- The controller is gone, or taken down and about to go. -/
def Dead (h : Host) : Prop := ∀ c, h.controller = some c → c.tornDown = true

/-- Events that do not say that a display was refreshed, for a controller that is still
there. -/
def Overlooks (h : Host) (notice : Notice) : Prop :=
  h.controller.isSome ∧ ∃ events, notice = .events events ∧ ∀ e ∈ events, e.vsyncTime? = none

/-- Whatever a dead controller's listener is told, controller, clock and surface stay as
they are, and with them all of the world but its records; and the listener asks to be
forgotten exactly when nothing is overlooked. -/
theorem dead_deregisters_unless_overlooked (h : Host) (hdead : h.Dead) (id : ListenerId)
    (notice : Notice) (clock : ManualClock) :
    (∃ status line log, hear id notice clock h =
      (status, clock, { h with world := { h.world with line, log } })) ∧
    ((hear id notice clock h).1 = .deregister ↔ ¬h.Overlooks notice) := by
  obtain ⟨controller, world⟩ := h
  cases controller with
  | none =>
      refine ⟨?_, ?_⟩
      · cases notice <;> exact ⟨_, _, _, rfl⟩
      · have hgone : ¬Overlooks ⟨none, world⟩ notice := fun hseen => by cases hseen.1
        refine iff_of_true ?_ hgone
        cases notice <;> rfl
  | some c =>
      have hdown : c.tornDown = true := hdead c rfl
      obtain ⟨log, hsame⟩ := Live.receive_of_tornDown (l := ⟨c, clock, world⟩) hdown notice
      refine ⟨⟨_, _, log, by simp only [hear, hsame]; rfl⟩, ?_⟩
      have hstatus := Live.receive_status_of_tornDown (l := ⟨c, clock, world⟩) hdown notice
      have hsome : Overlooks ⟨some c, world⟩ notice ↔
          ∃ events, notice = .events events ∧ ∀ e ∈ events, e.vsyncTime? = none :=
        ⟨And.right, fun hseen => ⟨rfl, hseen⟩⟩
      rw [hsome, ← hstatus]
      simp only [hear]
      cases (Live.receive ⟨c, clock, world⟩ notice).1 <;> simp

/-- The first controller of a session, taken down and not yet unregistered, as it is for
a moment when it is dropped. -/
def dying : Session :=
  let s := (Session.blank 0 true .plain).run [.create {}]
  match s.live? with
  | some l => s.settle l.tearDown
  | none => s

/-- A dying controller asks to be forgotten when its timer fires. -/
theorem dead_deregisters_on_timer :
    dying.host.Dead ∧ ¬dying.host.Overlooks (.timer ⟨1⟩) ∧
      (hear ⟨1⟩ (.timer ⟨1⟩) dying.clock dying.host).1 = .deregister := by
  have hdead : dying.host.Dead := fun c hc => by cases hc; rfl
  have hseen : ¬dying.host.Overlooks (.timer ⟨1⟩) := by
    rintro ⟨-, events, heq, -⟩
    cases heq
  exact ⟨hdead, hseen,
    (dead_deregisters_unless_overlooked dying.host hdead ⟨1⟩ (.timer ⟨1⟩) dying.clock).2.mpr
      hseen⟩

/-- It does not when a display appears, and the clock keeps its listener. -/
theorem dead_overlooks_hotplug :
    dying.host.Dead ∧
    (hear ⟨1⟩ (.events [.hotplug ⟨1⟩ true]) dying.clock dying.host).1 ≠ .deregister ∧
    (hear ⟨1⟩ (.events []) dying.clock dying.host).1 ≠ .deregister ∧
    (dying.clock.broadcast hear [.hotplug ⟨1⟩ true] dying.host).2.1.isRegistered ⟨1⟩ = true :=
  ⟨fun c hc => by cases hc; rfl, by decide, by decide, by decide⟩

end Host

end ScreenPointer
