/-
# Commands and notices by index

Everything a controller does on a command or a notice, with indices, divisions and loops
checked.  Reports of contacts and ticks are the only ones that have any.  In every state of
every run nothing is out of range, nothing is divided by zero, and no loop goes round more
often than spots are allowed on a display.
-/

import ScreenPointer.Proofs.Checked.Spots
import ScreenPointer.Proofs.Chronicle
import ScreenPointer.Proofs.Shading

namespace ScreenPointer

namespace Checked

/-! ## The operations -/

def setSpots (rounds : Nat) (l : Live) (contacts : List Contact) (display : DisplayId) :
    Checked Live :=
  match l.controller.viewport.isValid, l.controller.icons with
  | true, some icons => do
    let l := l.onSurface (·.openTransaction)
    let (started, spots, surface) ←
      update rounds l.controller.spots contacts display icons.spots l.world.surface
    let l := { l with controller.spots := spots, world.surface := surface.closeTransaction }
    .ok (if started then l.startAnimation else l)
  | _, _ => .ok l

def perform (rounds : Nat) (l : Live) : Command → Checked Live
  | .setSpots contacts display => setSpots rounds l contacts display
  | command => .ok (l.perform command)

def fadeSpots (rounds : Nat) (l : Live) (elapsed : Nanos) : Checked (Bool × Live) := do
  let share := elapsedShare elapsed l.controller.settings.spotFade
  let (fading, spots, surface) ← advanceFades rounds l.controller.spots share l.world.surface
  .ok (fading, { l with controller.spots := spots, world.surface := surface })

def flipFrame (l : Live) (timestamp : Nanos) : Checked (Bool × Live) :=
  let pointer := l.controller.pointer
  match pointer.presentation, l.controller.mouse.animations.find? pointer.requested with
  | .pointer, some animation =>
    if animation.isPlayable then
      let since := Nanos.since pointer.frameTime timestamp
      if animation.frameDuration < since then do
        let passed ← quotient since animation.frameDuration
        let count := animation.frames.length
        let ahead ← remainder passed.toNat count
        let frame ← remainder (pointer.frame + ahead) count
        let l := { l with
          controller.pointer.frame := frame
          controller.pointer.frameTime :=
            .wrap (pointer.frameTime + animation.frameDuration * passed) }
        match l.controller.sprite with
        | some sprite => do
          let icon ← item animation.frames frame
          .ok (true, l.onSurface (·.setIcon sprite icon))
        | none => .ok (true, l)
      else .ok (true, l)
    else .ok (false, l)
  | _, _ => .ok (false, l)

def tick (rounds : Nat) (l : Live) (timestamp : Nanos) : Checked Live := do
  let elapsed := l.controller.scheduler.elapsed timestamp
  let l := { l with controller.scheduler.pending := false }
  let l := l.onSurface (·.openTransaction)
  let (pointerFading, l) := l.fadePointer elapsed
  let (spotsFading, l) ← fadeSpots rounds l elapsed
  let (playing, l) ← flipFrame l timestamp
  let l := l.onSurface (·.closeTransaction)
  .ok (if pointerFading || spotsFading || playing then l.startAnimation else l)

def receive (rounds : Nat) (l : Live) : Notice → Checked Live
  | .events events =>
    match latestVsync? events with
    | none => .ok l
    | some timestamp => if l.controller.tornDown then .ok l else tick rounds l timestamp
  | .timer token => .ok (l.receive (.timer token)).2
  | .failure => .ok (l.receive .failure).2

def follow (rounds : Nat) (l : Live) : Cause → Checked Live
  | .command c => perform rounds l c
  | .notice n => receive rounds l n

/-! ## No faults -/

variable {rounds : Nat} {l : Live}

/-- The frame that is due exists as soon as there are frames, whatever frame was shown before
and of which animation. -/
theorem flipFrame_eq (l : Live) (timestamp : Nanos) :
    flipFrame l timestamp = .ok (l.flipFrame timestamp) := by
  unfold flipFrame Live.flipFrame
  dsimp only
  cases l.controller.pointer.presentation with
  | spot => rfl
  | pointer =>
      cases l.controller.mouse.animations.find? l.controller.pointer.requested with
      | none => rfl
      | some animation =>
          dsimp only
          by_cases hplayable : animation.isPlayable = true
          · rw [if_pos hplayable, if_pos hplayable]
            obtain ⟨hframes, hduration⟩ := (Bool.and_eq_true _ _).mp hplayable
            by_cases hdue :
                animation.frameDuration < Nanos.since l.controller.pointer.frameTime timestamp
            · rw [if_pos hdue, if_pos hdue]
              have hpositive : 0 < animation.frameDuration := of_decide_eq_true hduration
              have hcount : 0 < animation.frames.length := by simpa [List.length_pos_iff] using hframes
              have hfound := List.getElem?_eq_getElem (Nat.mod_lt (l.controller.pointer.frame +
                (Nanos.since l.controller.pointer.frameTime timestamp /
                  animation.frameDuration).toNat % animation.frames.length) hcount)
              rw [bind_eq (quotient_eq (Int.le_of_lt (Int.lt_trans hpositive hdue)) hpositive),
                bind_eq (remainder_eq hcount), bind_eq (remainder_eq hcount)]
              cases l.controller.sprite with
              | none => rfl
              | some sprite =>
                  dsimp only
                  rw [bind_eq (item_eq hfound), hfound]
            · rw [if_neg hdue, if_neg hdue]
          · rw [if_neg hplayable, if_neg hplayable]

theorem setSpots_eq (hpositive : 1 ≤ l.controller.spots.maxSpots)
    (hrosters : ∀ e ∈ l.controller.spots.byDisplay,
      SpotPool.Roster l.controller.spots.maxSpots e.2)
    (hrounds : l.controller.spots.maxSpots ≤ rounds) (contacts : List Contact)
    (display : DisplayId) :
    setSpots rounds l contacts display = .ok (l.setSpots contacts display) := by
  unfold setSpots Live.setSpots
  cases l.controller.viewport.isValid with
  | false => rfl
  | true =>
      cases l.controller.icons with
      | none => rfl
      | some icons =>
          exact bind_eq (update_eq hpositive hrounds hrosters contacts _) _

theorem tick_eq (hrosters : ∀ e ∈ l.controller.spots.byDisplay,
      SpotPool.Roster l.controller.spots.maxSpots e.2)
    (hrounds : l.controller.spots.maxSpots ≤ rounds) (timestamp : Nanos) :
    tick rounds l timestamp = .ok (l.tick timestamp) := by
  unfold tick Live.tick
  dsimp only
  generalize l.controller.scheduler.elapsed timestamp = elapsed
  let opened := { l with controller.scheduler.pending := false }.onSurface (·.openTransaction)
  have hspots : (opened.fadePointer elapsed).2.controller.spots = l.controller.spots :=
    congrArg Prod.snd (Live.fadePointer_shading opened elapsed)
  have hfaded : fadeSpots rounds (opened.fadePointer elapsed).2 elapsed =
      .ok ((opened.fadePointer elapsed).2.fadeSpots elapsed) := by
    rw [fadeSpots, bind_eq (advanceFades_eq (by rw [hspots]; exact hrounds)
      (by rw [hspots]; exact hrosters) _ _)]
    rfl
  rw [bind_eq hfaded, bind_eq (flipFrame_eq _ timestamp)]

/-- What a controller does, it does without a fault. -/
theorem follow_eq (hpositive : 1 ≤ l.controller.spots.maxSpots)
    (hrosters : ∀ e ∈ l.controller.spots.byDisplay,
      SpotPool.Roster l.controller.spots.maxSpots e.2)
    (hrounds : l.controller.spots.maxSpots ≤ rounds) (cause : Cause) :
    follow rounds l cause = .ok (l.follow cause) := by
  cases cause with
  | command command =>
      cases command with
      | setSpots contacts display => exact setSpots_eq hpositive hrosters hrounds contacts display
      | _ => rfl
  | notice notice =>
      cases notice with
      | events events =>
          dsimp only [follow, receive, Live.follow, Live.receive]
          cases latestVsync? events with
          | none => rfl
          | some timestamp =>
              cases l.controller.tornDown with
              | true => rfl
              | false => exact tick_eq hrosters hrounds timestamp
      | timer token => rfl
      | failure => rfl

end Checked

namespace Session

/-- In every run, whatever the settings, the icons and the times, all that controllers do on
commands and notices goes through without a fault: every index and every removal is in
range, nothing is divided by zero, and every loop is over after at most as many rounds as
spots are allowed on a display.  The outcome is the one the controller comes to. -/
theorem acts_without_fault (now : Nanos) (connected : Bool) (catalogue : Catalogue)
    (steps : List Step) {act : Act} (hact : act ∈ (blank now connected catalogue).chronicle steps)
    {rounds : Nat} (hrounds : act.before.controller.spots.maxSpots ≤ rounds) :
    Checked.follow rounds act.before act.cause = .ok act.after := by
  obtain ⟨pointer, hstaged⟩ := staged_law.acts_meet now connected catalogue steps act hact
  have hpool := hstaged.kept.pool
  exact Checked.follow_eq hpool.positive hpool.rosters hrounds act.cause

/-- With no spots allowed at all there is room for one: a second contact displaces the first
in one round, and the next report and the tick after it go through as well. -/
theorem acts_without_fault_of_displacing :
    let acts := (blank 0 true .plain).chronicle
      [.create { spots := { maxSpots := 0 } },
        .command (.setViewport (.whole .builtin 800 600)),
        .command (.setSpots [⟨⟨1⟩, .origin, 1⟩] .builtin),
        .command (.setSpots [⟨⟨2⟩, .origin, 1⟩] .builtin),
        .command (.setSpots [] .builtin), .vsync 500000000]
    acts.length = 5 ∧
      (∀ act ∈ acts, Checked.follow 1 act.before act.cause = .ok act.after) ∧
      ¬ ∀ act ∈ acts, Checked.follow 0 act.before act.cause = .ok act.after := by
  intro acts
  have hlimits : acts.all (fun act => act.before.controller.spots.maxSpots ≤ 1) = true := by
    decide +kernel
  have hfault : acts.all (fun act => (Checked.follow 0 act.before act.cause).toBool) = false := by
    decide +kernel
  refine ⟨by decide +kernel, fun act hact => ?_, fun hall => ?_⟩
  · exact acts_without_fault 0 true .plain _ hact
      (of_decide_eq_true (List.all_eq_true.mp hlimits act hact))
  · refine Bool.false_ne_true (hfault.symm.trans (List.all_eq_true.mpr fun act hact => ?_))
    rw [hall act hact]
    rfl

end Session

end ScreenPointer
