/-
# Scenes

What a viewer and a caller can tell of a controller at work: its own state
without the dealings with the clock, the surface, the catalogue and how often
icons were loaded.  Asking the clock for ticks and timers, and being refused,
changes nothing here, so a law about scenes never mentions the clock.
-/

import ScreenPointer.Controller.Command

namespace ScreenPointer

namespace Controller

/-- The state without its dealings with the clock.  Which inactivity delay is in
force stays, because the caller chose it. -/
def unclocked (c : Controller) : Controller :=
  { c with
    listener := none
    scheduler := {}
    inactivity := { timeout := c.inactivity.timeout } }

end Controller

/-- A controller without its clock, and what it draws on.  Everything about icons, spots and sprites
is said of scenes, so what the clock does cannot matter to it. -/
structure Scene where
  controller : Controller
  catalogue : Catalogue
  surface : Surface
  loads : LoadCounts
  deriving DecidableEq

namespace Controller

def sceneIn (c : Controller) (w : World) : Scene :=
  ⟨c.unclocked, w.catalogue, w.surface, w.loads⟩

end Controller

namespace Live

def scene (l : Live) : Scene := l.controller.sceneIn l.world

/-! ## Timers -/

/-- `l'` is `l` with other timers. -/
def Retimed (l l' : Live) : Prop :=
  ∃ pending lastToken timers plan line log, l' = { l with
    controller.inactivity.pending := pending
    controller.inactivity.lastToken := lastToken
    clock.timers := timers
    world.faults.timer := plan
    world.line := line
    world.log := log }

theorem Retimed.trans {l₁ l₂ l₃ : Live} (first : Retimed l₁ l₂) (second : Retimed l₂ l₃) :
    Retimed l₁ l₃ := by
  obtain ⟨_, _, _, _, _, _, rfl⟩ := first
  obtain ⟨_, _, _, _, _, _, rfl⟩ := second
  exact ⟨_, _, _, _, _, _, rfl⟩

theorem askTimer_retimed (l : Live) (id : ListenerId) (token : TimerToken) (delay : Nanos) :
    Retimed l (l.askTimer id token delay).2 := by
  unfold askTimer ManualClock.schedule
  dsimp only
  split
  · exact ⟨_, _, _, _, _, _, rfl⟩
  · by_cases hknown : l.clock.isRegistered id = true
    · rw [if_pos hknown]
      exact ⟨_, _, _, _, _, _, rfl⟩
    · rw [if_neg hknown]
      exact ⟨_, _, _, _, _, _, rfl⟩

/-- Giving up the inactivity timeout concerns timers only. -/
theorem cancelInactivity_retimed (l : Live) : Retimed l l.cancelInactivity := by
  unfold cancelInactivity
  dsimp only
  split
  · exact ⟨_, _, _, _, _, _, rfl⟩
  · exact ⟨_, _, _, _, _, _, rfl⟩

/-- So does starting it anew. -/
theorem restartInactivity_retimed (l : Live) : Retimed l l.restartInactivity := by
  unfold restartInactivity
  dsimp only
  split
  · exact l.cancelInactivity_retimed
  · rename_i id _
    have hnamed : Retimed l.cancelInactivity { l.cancelInactivity with
        controller.inactivity.lastToken :=
          l.cancelInactivity.controller.inactivity.lastToken + 1 } :=
      ⟨_, _, _, _, _, _, rfl⟩
    have hasked := (l.cancelInactivity_retimed.trans hnamed).trans (askTimer_retimed _ id
      ⟨l.cancelInactivity.controller.inactivity.lastToken + 1⟩
      (l.controller.settings.inactivityDelay l.controller.inactivity.timeout))
    split
    · rename_i asked heq
      rw [heq] at hasked
      exact hasked.trans ⟨_, _, _, _, _, _, rfl⟩
    · rename_i error asked heq
      rw [heq] at hasked
      exact hasked.trans ⟨_, _, _, _, _, _, rfl⟩

/-! ## Ticks -/

/-- `l'` is `l` after it may have asked for a tick, which the clock may have taken down. -/
def Ticked (l l' : Live) : Prop :=
  ∃ scheduler clock plan line log,
    (clock = l.clock ∨ ∃ id, l.clock.requestTick id = .ok clock) ∧
    l' = { l with
      controller.scheduler := scheduler
      clock
      world.faults.tick := plan
      world.line := line
      world.log := log }

theorem askTick_ticked (l : Live) (id : ListenerId) : Ticked l (l.askTick id).2 := by
  unfold askTick
  dsimp only
  split
  · exact ⟨_, _, _, _, _, .inl rfl, rfl⟩
  · split
    · rename_i clock hrequest
      exact ⟨_, _, _, _, _, .inr ⟨id, hrequest⟩, rfl⟩
    · exact ⟨_, _, _, _, _, .inl rfl, rfl⟩

/-- An animation starts with at most one request. -/
theorem startAnimation_ticked (l : Live) : Ticked l l.startAnimation := by
  unfold startAnimation
  split
  · exact ⟨_, _, _, _, _, .inl rfl, rfl⟩
  · dsimp only
    split
    · exact ⟨_, _, _, _, _, .inl rfl, rfl⟩
    · rename_i id _
      obtain ⟨_, _, _, _, _, hclock, hasked⟩ :=
        askTick_ticked { l with controller.scheduler := ⟨true, l.clock.now⟩ } id
      split
      · rename_i asked heq
        rw [heq] at hasked
        exact ⟨_, _, _, _, _, hclock, hasked⟩
      · rename_i error asked heq
        rw [heq] at hasked
        cases hasked
        exact ⟨_, _, _, _, _, hclock, rfl⟩

/-! ## Dealings with the clock leave the scene alone -/

theorem Retimed.scene {l l' : Live} (h : Retimed l l') : l'.scene = l.scene := by
  obtain ⟨_, _, _, _, _, _, rfl⟩ := h
  rfl

theorem Ticked.scene {l l' : Live} (h : Ticked l l') : l'.scene = l.scene := by
  obtain ⟨_, _, _, _, _, -, rfl⟩ := h
  rfl

@[simp]
theorem cancelInactivity_scene (l : Live) : l.cancelInactivity.scene = l.scene :=
  l.cancelInactivity_retimed.scene

@[simp]
theorem restartInactivity_scene (l : Live) : l.restartInactivity.scene = l.scene :=
  l.restartInactivity_retimed.scene

@[simp]
theorem startAnimation_scene (l : Live) : l.startAnimation.scene = l.scene :=
  l.startAnimation_ticked.scene

end Live

end ScreenPointer
