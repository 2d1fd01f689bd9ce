/-
# Dealings with the clock

Everything a controller does is made of edits, which touch nothing that passes
between it and its clock, and of three dealings: asking for a tick, giving up the
inactivity timeout and starting it anew.  `Works` says so once for every command
and every notice, so a law about ticks, timers or the listener needs one argument
for each dealing and none for the edits.  Most work is not timed: it leaves the
inactivity timeout alone.
-/

import ScreenPointer.Proofs.Scene

namespace ScreenPointer

/-- Can the command touch the inactivity timeout? -/
def Command.isTimed : Command → Bool
  | .hide _ | .reveal _ | .setTimeout _ => true
  | _ => false

/-- A request for a tick leaves time, listeners and timers as they are. -/
theorem ManualClock.requestTick_eq {c c' : ManualClock} {id : ListenerId}
    (h : c.requestTick id = .ok c') :
    c'.now = c.now ∧ c'.listeners = c.listeners ∧ c'.timers = c.timers := by
  unfold ManualClock.requestTick at h
  split at h
  · cases h
    exact ⟨rfl, rfl, rfl⟩
  · cases h

/-- What passes between a controller and its clock.  Work that leaves this alone can neither ask
for anything nor be refused anything. -/
structure Dealings where
  settings : Settings
  listener : Option ListenerId
  scheduler : Scheduler
  pendingTimer : Option TimerToken
  lastToken : Nat
  tornDown : Bool
  clock : ManualClock
  faults : LineFaults
  line : List LineRecord

namespace Live

def dealings (l : Live) : Dealings where
  settings := l.controller.settings
  listener := l.controller.listener
  scheduler := l.controller.scheduler
  pendingTimer := l.controller.inactivity.pending
  lastToken := l.controller.inactivity.lastToken
  tornDown := l.controller.tornDown
  clock := l.clock
  faults := l.world.faults
  line := l.world.line

/-- What the work of a controller is made of.  Only timed work touches the inactivity
timeout. -/
inductive Works (timed : Bool) : Live → Live → Prop
  /-- A change that does not concern the clock. -/
  | edit {l l' : Live} (same : l'.dealings = l.dealings) : Works timed l l'
  | start (l : Live) : Works timed l l.startAnimation
  | cancel (l : Live) (allowed : timed = true) : Works timed l l.cancelInactivity
  | restart (l : Live) (allowed : timed = true) : Works timed l l.restartInactivity
  | trans {l₁ l₂ l₃ : Live} (first : Works timed l₁ l₂) (second : Works timed l₂ l₃) :
    Works timed l₁ l₃

namespace Works

variable {timed : Bool}

theorem refl (l : Live) : Works timed l l := edit rfl

/-- Work after an edit. -/
theorem after {l l' l'' : Live} (work : Works timed l' l'') (same : l'.dealings = l.dealings) :
    Works timed l l'' :=
  (edit same).trans work

/-- Work that is not timed is work. -/
theorem lift {l l' : Live} (work : Works false l l') : Works timed l l' := by
  induction work with
  | edit same => exact edit same
  | start l => exact start l
  | cancel l allowed => cases allowed
  | restart l allowed => cases allowed
  | trans first second ihFirst ihSecond => exact ihFirst.trans ihSecond

/-- A property kept by edits and by each dealing is kept by all work. -/
theorem keeps {P : Live → Prop}
    (hedit : ∀ l l' : Live, l'.dealings = l.dealings → P l → P l')
    (hstart : ∀ l, P l → P l.startAnimation)
    (hcancel : ∀ l, P l → P l.cancelInactivity)
    (hrestart : ∀ l, P l → P l.restartInactivity)
    {l l' : Live} (work : Works timed l l') : P l → P l' := by
  induction work with
  | edit same => exact hedit _ _ same
  | start l => exact hstart l
  | cancel l => exact hcancel l
  | restart l => exact hrestart l
  | trans first second ihFirst ihSecond => exact fun h => ihSecond (ihFirst h)

/-- Asking for a tick when there is something to do, after other work. -/
theorem startIf {l l' : Live} (work : Works timed l l') (needed : Bool) :
    Works timed l (if needed then l'.startAnimation else l') := by
  cases needed with
  | true => exact work.trans (.start l')
  | false => exact work

/-- No work moves the clock. -/
theorem now {l l' : Live} (work : Works timed l l') : l'.clock.now = l.clock.now := by
  have hretimed : ∀ {l l' : Live}, Retimed l l' → l'.clock.now = l.clock.now := by
    rintro l l' ⟨_, _, _, _, _, _, rfl⟩
    rfl
  refine work.keeps (P := fun l' => l'.clock.now = l.clock.now) (fun l₁ l₂ hsame h => ?_)
    (fun l₁ h => ?_) (fun l₁ h => (hretimed l₁.cancelInactivity_retimed).trans h)
    (fun l₁ h => (hretimed l₁.restartInactivity_retimed).trans h) rfl
  · have hclock : l₂.clock = l₁.clock := congrArg Dealings.clock hsame
    rw [hclock]
    exact h
  · obtain ⟨_, _, _, _, _, hclock, heq⟩ := l₁.startAnimation_ticked
    rw [heq]
    rcases hclock with rfl | ⟨id, hrequest⟩
    · exact h
    · exact (ManualClock.requestTick_eq hrequest).1.trans h

end Works

/-! ## The work of each operation -/

theorem onSurface_dealings (l : Live) (f : Surface → Surface) :
    (l.onSurface f).dealings = l.dealings := rfl

theorem onSurface_works (l : Live) (f : Surface → Surface) : Works false l (l.onSurface f) :=
  .edit (l.onSurface_dealings f)

theorem writePlace_works (l : Live) (sprite : SpriteId) : Works false l (l.writePlace sprite) := by
  unfold writePlace
  exact onSurface_works l _

theorem writeIcon_works (l : Live) (sprite : SpriteId) : Works false l (l.writeIcon sprite).2 := by
  refine .edit ?_
  unfold writeIcon
  dsimp only
  split <;> split <;> split <;> rfl

theorem present_works (l : Live) : Works false l l.present := by
  unfold present
  split
  · rename_i sprite _ _
    have hplace : Works false l ((l.onSurface (·.openTransaction)).writePlace sprite) :=
      (l.onSurface_works _).trans (writePlace_works _ sprite)
    dsimp only
    split
    · exact ((hplace.trans (writeIcon_works _ sprite)).trans (onSurface_works _ _)).startIf _
    · exact (hplace.trans (onSurface_works _ _)).startIf _
  · exact .refl l

theorem place_works (l : Live) (p : Point) : Works false l (l.place p) := by
  unfold place
  split
  · exact .refl l
  · exact (present_works _).after rfl

theorem fadeAllSpots_works (l : Live) : Works false l l.fadeAllSpots := by
  have hfade : Works false l { l with controller.spots := l.controller.spots.fadeAll.2 } :=
    .edit rfl
  exact hfade.startIf l.controller.spots.fadeAll.1

/-- Hiding gives up the inactivity timeout; the rest is not timed. -/
theorem hide_works (l : Live) (transition : Transition) :
    Works false l.cancelInactivity (l.hide transition) := by
  cases transition with
  | immediate => exact (present_works _).after rfl
  | gradual => exact (Works.start _).after rfl

/-- Showing restarts the inactivity timeout; the rest is not timed. -/
theorem reveal_works (l : Live) (transition : Transition) :
    Works false l.restartInactivity (l.reveal transition) := by
  cases transition with
  | immediate => exact (present_works _).after rfl
  | gradual => exact (Works.start _).after rfl

theorem loadIcons_works (l : Live) : Works false l l.loadIcons := by
  refine .edit ?_
  unfold loadIcons
  split
  · dsimp only
    split <;> rfl
  · rfl

theorem applyViewport_works (l : Live) (viewport : Viewport) :
    Works false l (l.applyViewport viewport) := by
  unfold applyViewport
  dsimp only
  split
  · exact .refl l
  · refine Works.trans ?_ (present_works _)
    split
    · refine Works.trans ?_ (fadeAllSpots_works _)
      split
      · exact (loadIcons_works _).after rfl
      · exact .edit rfl
    · exact .edit rfl
    · exact .edit rfl

theorem setPresentation_works (l : Live) (presentation : Presentation) :
    Works false l (l.setPresentation presentation) := by
  unfold setPresentation
  split
  · exact .refl l
  · refine Works.trans ?_ (present_works _)
    cases presentation with
    | pointer =>
        dsimp only
        refine Works.trans ?_ (fadeAllSpots_works _)
        split <;> exact .edit rfl
    | spot => exact .edit rfl

theorem requestIcon_works (l : Live) (id : IconId) : Works false l (l.requestIcon id) := by
  unfold requestIcon
  split
  · exact .refl l
  · exact (present_works _).after rfl

theorem setCustomIcon_works (l : Live) (icon : Icon) : Works false l (l.setCustomIcon icon) :=
  (present_works _).after rfl

theorem setSpots_works (l : Live) (contacts : List Contact) (display : DisplayId) :
    Works false l (l.setSpots contacts display) := by
  unfold setSpots
  split
  · refine Works.startIf (.edit ?_) _
    rfl
  · exact .refl l

/-- Work that no command for the inactivity timeout asks for leaves it alone. -/
theorem perform_untimed (l : Live) {command : Command} (htimed : command.isTimed = false) :
    Works false l (l.perform command) := by
  cases command with
  | moveBy dx dy =>
      dsimp only [perform]
      split
      · exact .refl l
      · exact place_works l _
  | place p => exact place_works l p
  | setButtons buttons => exact .edit rfl
  | hide transition => cases htimed
  | reveal transition => cases htimed
  | present presentation => exact setPresentation_works l presentation
  | setSpots contacts display => exact setSpots_works l contacts display
  | clearSpots =>
      dsimp only [perform]
      split
      · exact fadeAllSpots_works l
      · exact .refl l
  | setTimeout timeout => cases htimed
  | setViewport viewport => exact applyViewport_works l viewport
  | requestIcon id => exact requestIcon_works l id
  | setCustomIcon icon => exact setCustomIcon_works l icon
  | reload => exact (loadIcons_works l).trans (present_works _)

/-- Whatever a caller asks is made of edits and dealings. -/
theorem perform_works (l : Live) (command : Command) : Works true l (l.perform command) := by
  cases htimed : command.isTimed with
  | false => exact (perform_untimed l htimed).lift
  | true =>
      cases command with
      | hide transition => exact (Works.cancel l rfl).trans (hide_works l transition).lift
      | reveal transition => exact (Works.restart l rfl).trans (reveal_works l transition).lift
      | setTimeout timeout =>
          dsimp only [perform]
          split
          · exact .refl l
          · exact (Works.restart _ rfl).after rfl
      | _ => cases htimed

theorem fadePointer_works (l : Live) (elapsed : Nanos) :
    Works false l (l.fadePointer elapsed).2 := by
  unfold fadePointer
  dsimp only
  split
  · exact (present_works _).after rfl
  · exact .refl l

theorem fadeSpots_works (l : Live) (elapsed : Nanos) : Works false l (l.fadeSpots elapsed).2 :=
  .edit rfl

theorem flipFrame_works (l : Live) (timestamp : Nanos) :
    Works false l (l.flipFrame timestamp).2 := by
  refine .edit ?_
  unfold flipFrame
  dsimp only
  split
  · split
    · split
      · split <;> rfl
      · rfl
    · rfl
  · rfl

/-- A tick first takes note that the tick asked for has come; the rest is work. -/
theorem tick_works (l : Live) (timestamp : Nanos) :
    Works false { l with controller.scheduler.pending := false } (l.tick timestamp) := by
  refine Works.startIf ?_ _
  refine Works.trans ?_ (onSurface_works _ _)
  refine Works.trans ?_ (flipFrame_works _ timestamp)
  refine Works.trans ?_ (fadeSpots_works _ _)
  refine Works.trans ?_ (fadePointer_works _ _)
  exact onSurface_works _ _

theorem timerFired_of_eq {l : Live} {token : TimerToken}
    (hpending : l.controller.inactivity.pending = some token) :
    l.timerFired token = { l with controller.inactivity.pending := none }.hide .gradual :=
  if_pos hpending

/-- The pending timer first stops being pending; the rest is work. -/
theorem timerFired_works {l : Live} {token : TimerToken}
    (hpending : l.controller.inactivity.pending = some token) :
    Works true { l with controller.inactivity.pending := none } (l.timerFired token) := by
  rw [timerFired_of_eq hpending]
  exact (Works.cancel _ rfl).trans (hide_works _ _).lift

theorem timerFired_of_ne {l : Live} {token : TimerToken}
    (hother : l.controller.inactivity.pending ≠ some token) : l.timerFired token = l :=
  if_neg hother

/-- To answer a notice does not move the clock. -/
theorem receive_now (l : Live) (notice : Notice) : (l.receive notice).2.clock.now = l.clock.now := by
  cases notice with
  | events events =>
      simp only [receive]
      split
      · rfl
      · split
        · rfl
        · exact (tick_works l _).now
  | timer token =>
      simp only [receive]
      split
      · rfl
      · by_cases hpending : l.controller.inactivity.pending = some token
        · exact (timerFired_works hpending).now
        · rw [timerFired_of_ne hpending]
  | failure => rfl

end Live

end ScreenPointer
