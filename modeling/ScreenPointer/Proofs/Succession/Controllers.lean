/-
# Controllers on a clock and a surface that were used before

A controller looks at its clock, its surface and its records only under the names
that it was given itself.  So what it does, it also does after an old session, under
later names.  Where sprites are released, no name must have been given twice.
-/

import ScreenPointer.Proofs.Drawing
import ScreenPointer.Proofs.Succession.Spots

namespace ScreenPointer

namespace Live

variable (l : Live) (old : Session)

/-! ## What is the same -/

@[simp]
theorem settings_upon : (l.upon old).controller.settings = l.controller.settings := rfl

@[simp]
theorem pointer_upon : (l.upon old).controller.pointer = l.controller.pointer := rfl

@[simp]
theorem mouse_upon : (l.upon old).controller.mouse = l.controller.mouse := rfl

@[simp]
theorem icons_upon : (l.upon old).controller.icons = l.controller.icons := rfl

@[simp]
theorem viewport_upon : (l.upon old).controller.viewport = l.controller.viewport := rfl

@[simp]
theorem inactivity_upon : (l.upon old).controller.inactivity = l.controller.inactivity := rfl

@[simp]
theorem scheduler_upon : (l.upon old).controller.scheduler = l.controller.scheduler := rfl

@[simp]
theorem tornDown_upon : (l.upon old).controller.tornDown = l.controller.tornDown := rfl

@[simp]
theorem faults_upon : (l.upon old).world.faults = l.world.faults := rfl

@[simp]
theorem listener_upon :
    (l.upon old).controller.listener = l.controller.listener.map (.shift old.clock.lastId) := rfl

@[simp]
theorem sprite_upon : (l.upon old).controller.sprite =
    l.controller.sprite.map (.shift old.host.world.surface.created) := rfl

/-! ## The line to the clock -/

theorem askTick_upon (id : ListenerId) :
    (l.upon old).askTick (id.shift old.clock.lastId) =
      ((l.askTick id).1.mapError (.shift old.clock.lastId), (l.askTick id).2.upon old) := by
  have hrecord : (l.upon old).world.record (.asked (.tick (id.shift old.clock.lastId))) =
      (l.world.record (.asked (.tick id))).upon old :=
    l.world.record_upon old (.asked (.tick id))
  have hrequest : (l.upon old).clock.requestTick (id.shift old.clock.lastId) = _ :=
    ManualClock.requestTick_renamed ..
  simp only [askTick, hrecord, hrequest, faults_upon]
  split
  · rfl
  · cases l.clock.requestTick id <;> rfl

theorem askTimer_upon (id : ListenerId) (token : TimerToken) (delay : Nanos) :
    (l.upon old).askTimer (id.shift old.clock.lastId) token delay =
      ((l.askTimer id token delay).1.mapError (.shift old.clock.lastId),
        (l.askTimer id token delay).2.upon old) := by
  have hrecord : (l.upon old).world.record
      (.asked (.schedule (id.shift old.clock.lastId) token delay)) =
      (l.world.record (.asked (.schedule id token delay))).upon old :=
    l.world.record_upon old (.asked (.schedule id token delay))
  have hschedule : (l.upon old).clock.schedule (id.shift old.clock.lastId) token delay = _ :=
    ManualClock.schedule_renamed ..
  simp only [askTimer, hrecord, hschedule, faults_upon]
  split
  · rfl
  · cases l.clock.schedule id token delay <;> rfl

theorem askCancel_upon (id : ListenerId) (token : TimerToken) :
    (l.upon old).askCancel (id.shift old.clock.lastId) token =
      (l.askCancel id token).upon old := by
  have hrecord : (l.upon old).world.record (.asked (.cancel (id.shift old.clock.lastId) token)) =
      (l.world.record (.asked (.cancel id token))).upon old :=
    l.world.record_upon old (.asked (.cancel id token))
  have hcancel : (l.upon old).clock.cancel (id.shift old.clock.lastId) token = _ :=
    ManualClock.cancel_renamed ..
  simp only [askCancel, hrecord, hcancel]
  rfl

def settleTick (out : Except ClockError Unit × Live) : Live :=
  match out with
  | (.ok (), l) => l
  | (.error e, l) =>
    { l with
      controller.scheduler.pending := false
      world := l.world.report (.tickRefused e) }

def settleTimer (token : TimerToken) (out : Except ClockError Unit × Live) : Live :=
  match out with
  | (.ok (), l) => { l with controller.inactivity.pending := some token }
  | (.error e, l) => { l with world := l.world.report (.timerRefused e) }

theorem startAnimation_eq : l.startAnimation =
    if l.controller.scheduler.pending then l
    else
      let started := { l with controller.scheduler := ⟨true, l.clock.now⟩ }
      match l.controller.listener with
      | none => started
      | some id => settleTick (started.askTick id) := rfl

theorem settleTick_upon (out : Except ClockError Unit × Live) :
    settleTick (out.1.mapError (.shift old.clock.lastId), out.2.upon old) =
      (settleTick out).upon old := by
  obtain ⟨answer, l⟩ := out
  cases answer with
  | ok _ => rfl
  | error e =>
      have hreport : (l.upon old).world.report (.tickRefused (e.shift old.clock.lastId)) =
          (l.world.report (.tickRefused e)).upon old := l.world.report_upon old (.tickRefused e)
      simp only [settleTick, Except.mapError, hreport]
      rfl

theorem startAnimation_upon : (l.upon old).startAnimation = l.startAnimation.upon old := by
  rw [startAnimation_eq, startAnimation_eq, scheduler_upon, listener_upon]
  split
  · rfl
  · cases l.controller.listener with
    | none => rfl
    | some id =>
        have hask := askTick_upon { l with controller.scheduler := ⟨true, l.clock.now⟩ } old id
        exact (congrArg settleTick hask).trans (settleTick_upon old _)

theorem cancelInactivity_eq : l.cancelInactivity =
    let gone := { l with controller.inactivity.pending := none }
    match l.controller.inactivity.pending, l.controller.listener with
    | some token, some id => gone.askCancel id token
    | _, _ => gone := rfl

theorem cancelInactivity_upon : (l.upon old).cancelInactivity = l.cancelInactivity.upon old := by
  rw [cancelInactivity_eq, cancelInactivity_eq, inactivity_upon, listener_upon]
  cases l.controller.inactivity.pending with
  | none => rfl
  | some token =>
      cases l.controller.listener with
      | none => rfl
      | some id =>
          exact askCancel_upon { l with controller.inactivity.pending := none } old id token

def scheduleInactivity (delay : Nanos) : Live :=
  match l.controller.listener with
  | none => l
  | some id =>
    let token : TimerToken := ⟨l.controller.inactivity.lastToken + 1⟩
    settleTimer token
      ({ l with controller.inactivity.lastToken := token.number }.askTimer id token delay)

theorem restartInactivity_eq : l.restartInactivity = l.cancelInactivity.scheduleInactivity
    (l.controller.settings.inactivityDelay l.controller.inactivity.timeout) := rfl

theorem settleTimer_upon (token : TimerToken) (out : Except ClockError Unit × Live) :
    settleTimer token (out.1.mapError (.shift old.clock.lastId), out.2.upon old) =
      (settleTimer token out).upon old := by
  obtain ⟨answer, l⟩ := out
  cases answer with
  | ok _ => rfl
  | error e =>
      have hreport : (l.upon old).world.report (.timerRefused (e.shift old.clock.lastId)) =
          (l.world.report (.timerRefused e)).upon old := l.world.report_upon old (.timerRefused e)
      simp only [settleTimer, Except.mapError, hreport]
      rfl

theorem scheduleInactivity_upon (delay : Nanos) :
    (l.upon old).scheduleInactivity delay = (l.scheduleInactivity delay).upon old := by
  unfold scheduleInactivity
  rw [listener_upon]
  cases l.controller.listener with
  | none => rfl
  | some id =>
      have hask := askTimer_upon { l with
        controller.inactivity.lastToken := l.controller.inactivity.lastToken + 1 } old id
        ⟨l.controller.inactivity.lastToken + 1⟩ delay
      exact (congrArg (settleTimer _) hask).trans (settleTimer_upon old _ _)

theorem restartInactivity_upon : (l.upon old).restartInactivity = l.restartInactivity.upon old := by
  rw [restartInactivity_eq, restartInactivity_eq, cancelInactivity_upon]
  exact scheduleInactivity_upon _ old _

/-- Whether or not something is left to do. -/
theorem startIf_upon (moves : Bool) :
    (if moves then (l.upon old).startAnimation else l.upon old) =
      (if moves then l.startAnimation else l).upon old := by
  cases moves with
  | false => rfl
  | true => exact startAnimation_upon l old

/-! ## Presenting the pointer -/

theorem onSurface_upon {f g : Surface → Surface}
    (h : f (l.world.surface.upon old.host.world.surface) =
      (g l.world.surface).upon old.host.world.surface) :
    (l.upon old).onSurface f = (l.onSurface g).upon old :=
  congrArg (fun surface => { l.upon old with world.surface := surface }) h

theorem writePlace_upon (sprite : SpriteId) :
    (l.upon old).writePlace (sprite.shift old.host.world.surface.created) =
      (l.writePlace sprite).upon old := by
  unfold writePlace
  rw [pointer_upon, viewport_upon]
  apply onSurface_upon
  simp only [Surface.setLayer, Surface.setPosition, Surface.setDisplay, Surface.setAlpha,
    Surface.setVisible, Surface.change_upon]
  split <;> rfl

theorem writeIcon_upon (sprite : SpriteId) :
    (l.upon old).writeIcon (sprite.shift old.host.world.surface.created) =
      ((l.writeIcon sprite).1, (l.writeIcon sprite).2.upon old) := by
  have hchoice : (l.upon old).controller.iconChoice (l.upon old).world.catalogue.defaultId =
      l.controller.iconChoice l.world.catalogue.defaultId := rfl
  have hreport : (l.upon old).world.report (.iconMissing l.controller.pointer.requested) =
      (l.world.report (.iconMissing l.controller.pointer.requested)).upon old :=
    l.world.report_upon old (.iconMissing _)
  unfold writeIcon
  rw [hchoice, pointer_upon, hreport]
  generalize l.controller.iconChoice l.world.catalogue.defaultId = choice
  obtain ⟨icon, animated, missing⟩ := choice
  cases icon with
  | none => cases missing <;> cases animated <;> rfl
  | some icon =>
      have hicon : (l.upon old).world.surface.setIcon
          (sprite.shift old.host.world.surface.created) icon =
          (l.world.surface.setIcon sprite icon).upon old.host.world.surface :=
        Surface.change_upon ..
      have hsurface : ((l.world.report (.iconMissing l.controller.pointer.requested)).upon
          old).surface = (l.upon old).world.surface := rfl
      cases missing <;> cases animated <;>
        simp only [onSurface, reduceIte, Bool.false_eq_true, hsurface, hicon] <;> rfl

/-- Once the icon is written, if it had to be, the pointer is presented. -/
theorem finish_upon (out : Bool × Live) :
    (let l := (out.2.upon old).onSurface (·.closeTransaction)
      if out.1 then l.startAnimation else l) =
    (let l := out.2.onSurface (·.closeTransaction)
      if out.1 then l.startAnimation else l).upon old := by
  have hclosed : (out.2.upon old).onSurface (·.closeTransaction) =
      (out.2.onSurface (·.closeTransaction)).upon old :=
    onSurface_upon out.2 old (Surface.closeTransaction_upon ..)
  rw [hclosed]
  exact startIf_upon _ old out.1

theorem present_upon : (l.upon old).present = l.present.upon old := by
  have hopened : (l.upon old).onSurface (·.openTransaction) =
      (l.onSurface (·.openTransaction)).upon old :=
    onSurface_upon l old (Surface.openTransaction_upon ..)
  unfold present
  rw [viewport_upon, sprite_upon]
  cases l.controller.viewport.isValid with
  | false => rfl
  | true =>
      cases l.controller.sprite with
      | none => rfl
      | some sprite =>
          simp only [Option.map_some, hopened, writePlace_upon]
          generalize (l.onSurface (·.openTransaction)).writePlace sprite = placed
          have hchanged : ((placed.upon old).controller.iconChanged ||
              (placed.upon old).controller.presentationChanged) =
              (placed.controller.iconChanged || placed.controller.presentationChanged) := rfl
          rw [hchanged]
          split
          · rw [writeIcon_upon]
            exact finish_upon old (placed.writeIcon sprite)
          · exact finish_upon old (false, placed)

theorem place_upon (p : Point) : (l.upon old).place p = (l.place p).upon old := by
  unfold place
  rw [viewport_upon]
  cases l.controller.viewport.bounds? with
  | none => rfl
  | some bounds => exact present_upon { l with controller.pointer.position := bounds.clamp p } old

theorem fadeAllSpots_upon : (l.upon old).fadeAllSpots = l.fadeAllSpots.upon old := by
  have hfaded : (l.upon old).controller.spots.fadeAll = _ := SpotPool.fadeAll_shift ..
  unfold fadeAllSpots
  rw [hfaded]
  exact startIf_upon { l with controller.spots := l.controller.spots.fadeAll.2 } old _

theorem hide_upon (transition : Transition) :
    (l.upon old).hide transition = (l.hide transition).upon old := by
  unfold hide
  rw [cancelInactivity_upon]
  cases transition with
  | immediate => exact present_upon { l.cancelInactivity with
      controller.pointer.fade := ⟨0, .idle⟩ } old
  | gradual => exact startAnimation_upon { l.cancelInactivity with
      controller.pointer.fade.direction := .out } old

theorem reveal_upon (transition : Transition) :
    (l.upon old).reveal transition = (l.reveal transition).upon old := by
  unfold reveal
  rw [restartInactivity_upon]
  cases transition with
  | immediate => exact present_upon { l.restartInactivity with
      controller.pointer.fade := ⟨1, .idle⟩ } old
  | gradual => exact startAnimation_upon { l.restartInactivity with
      controller.pointer.fade.direction := .into } old

theorem loadIcons_upon : (l.upon old).loadIcons = l.loadIcons.upon old := by
  unfold loadIcons
  rw [viewport_upon]
  split
  · dsimp only
    rw [pointer_upon]
    split <;> rfl
  · rfl

theorem applyViewport_upon (viewport : Viewport) :
    (l.upon old).applyViewport viewport = (l.applyViewport viewport).upon old := by
  have hreset (l : Live) : (l.upon old).fadeAllSpots.present = l.fadeAllSpots.present.upon old := by
    rw [fadeAllSpots_upon, present_upon]
  by_cases hsame : l.controller.viewport = viewport
  · simp only [applyViewport, viewport_upon, hsame, if_true]
  · simp only [applyViewport, viewport_upon, hsame, if_false]
    cases l.controller.viewport.changeTo viewport with
    | reset =>
        cases viewport.bounds? with
        | none => exact hreset { l with
            controller.viewport := viewport, controller.pointer.position := .origin }
        | some bounds =>
            have hloaded := loadIcons_upon { l with
              controller.viewport := viewport, controller.pointer.position := bounds.center } old
            exact (congrArg (·.fadeAllSpots.present) hloaded).trans (hreset _)
    | reorient =>
        exact present_upon { l with
          controller.viewport := viewport
          controller.pointer.position :=
            l.controller.viewport.carry viewport l.controller.pointer.position } old
    | unchanged => exact present_upon { l with controller.viewport := viewport } old

theorem setPresentation_upon (presentation : Presentation) :
    (l.upon old).setPresentation presentation = (l.setPresentation presentation).upon old := by
  unfold setPresentation
  rw [pointer_upon]
  split
  · rfl
  · cases presentation with
    | spot => exact present_upon { l with
        controller.pointer.presentation := .spot, controller.presentationChanged := true } old
    | pointer =>
        dsimp only
        rw [mouse_upon, viewport_upon]
        split
        · have hfaded := fadeAllSpots_upon { l with
            controller.pointer.presentation := .pointer
            controller.presentationChanged := true }.loadMouse old
          exact (congrArg present hfaded).trans (present_upon _ old)
        · have hfaded := fadeAllSpots_upon { l with
            controller.pointer.presentation := .pointer
            controller.presentationChanged := true } old
          exact (congrArg present hfaded).trans (present_upon _ old)

theorem requestIcon_upon (id : IconId) :
    (l.upon old).requestIcon id = (l.requestIcon id).upon old := by
  unfold requestIcon
  rw [pointer_upon]
  split
  · rfl
  · exact present_upon { l with
      controller.pointer.requested := id
      controller.iconChanged := true } old

theorem setCustomIcon_upon (icon : Icon) :
    (l.upon old).setCustomIcon icon = (l.setCustomIcon icon).upon old := by
  unfold setCustomIcon
  exact present_upon { l with
    controller.mouse := _
    controller.pointer.requested := _
    controller.iconChanged := true } old

theorem setSpots_upon (h : l.world.surface.Tidy) (contacts : List Contact) (display : DisplayId) :
    (l.upon old).setSpots contacts display = (l.setSpots contacts display).upon old := by
  unfold setSpots
  rw [viewport_upon, icons_upon]
  cases l.controller.viewport.isValid with
  | false => rfl
  | true =>
      cases l.controller.icons with
      | none => rfl
      | some icons =>
          have hopened : (l.upon old).onSurface (·.openTransaction) =
              (l.onSurface (·.openTransaction)).upon old :=
            onSurface_upon l old (Surface.openTransaction_upon ..)
          have htidy : (l.onSurface (·.openTransaction)).world.surface.Tidy := h.openTransaction
          simp only [hopened]
          generalize l.onSurface (·.openTransaction) = opened at htidy
          have hupdate : (opened.upon old).controller.spots.update contacts display icons.spots
              (opened.upon old).world.surface = _ := SpotPool.update_upon _ _ _ _ _ htidy
          rw [hupdate]
          generalize opened.controller.spots.update contacts display icons.spots
            opened.world.surface = updated
          obtain ⟨started, spots, surface⟩ := updated
          rw [Surface.closeTransaction_upon]
          exact startIf_upon { opened with
            controller.spots := spots, world.surface := surface.closeTransaction } old started

/-- Whatever a caller asks is done likewise. -/
theorem perform_upon (h : l.world.surface.Tidy) (command : Command) :
    (l.upon old).perform command = (l.perform command).upon old := by
  cases command with
  | moveBy dx dy =>
      dsimp only [perform]
      split
      · rfl
      · exact place_upon l old _
  | place p => exact place_upon l old p
  | setButtons buttons => rfl
  | hide transition => exact hide_upon l old transition
  | reveal transition => exact reveal_upon l old transition
  | present presentation => exact setPresentation_upon l old presentation
  | setSpots contacts display => exact setSpots_upon l old h contacts display
  | clearSpots =>
      dsimp only [perform]
      rw [viewport_upon]
      split
      · exact fadeAllSpots_upon l old
      · rfl
  | setTimeout timeout =>
      dsimp only [perform]
      rw [inactivity_upon]
      split
      · rfl
      · exact restartInactivity_upon { l with controller.inactivity.timeout := timeout } old
  | setViewport viewport => exact applyViewport_upon l old viewport
  | requestIcon id => exact requestIcon_upon l old id
  | setCustomIcon icon => exact setCustomIcon_upon l old icon
  | reload =>
      dsimp only [perform]
      rw [loadIcons_upon, present_upon]

/-! ## Ticks and timers -/

theorem fadePointer_upon (elapsed : Nanos) :
    (l.upon old).fadePointer elapsed =
      ((l.fadePointer elapsed).1, (l.fadePointer elapsed).2.upon old) := by
  unfold fadePointer
  rw [pointer_upon, settings_upon]
  dsimp only
  split
  · exact congrArg (Prod.mk _) (present_upon { l with
      controller.pointer.fade := (l.controller.pointer.fade.step elapsed
        l.controller.settings.pointerFade) } old)
  · rfl

theorem fadeSpots_upon (h : l.world.surface.Tidy) (elapsed : Nanos) :
    (l.upon old).fadeSpots elapsed =
      ((l.fadeSpots elapsed).1, (l.fadeSpots elapsed).2.upon old) := by
  have hfades : (l.upon old).controller.spots.advanceFades
      (elapsedShare elapsed l.controller.settings.spotFade) (l.upon old).world.surface = _ :=
    SpotPool.advanceFades_upon _ _ _ h
  simp only [fadeSpots, settings_upon, hfades]
  rfl

def showFrame (frame : Option Icon) : Bool × Live :=
  match l.controller.sprite, frame with
  | some sprite, some icon => (true, l.onSurface (·.setIcon sprite icon))
  | _, _ => (true, l)

theorem showFrame_upon (frame : Option Icon) :
    (l.upon old).showFrame frame = ((l.showFrame frame).1, (l.showFrame frame).2.upon old) := by
  unfold showFrame
  rw [sprite_upon]
  cases l.controller.sprite with
  | none => rfl
  | some sprite =>
      cases frame with
      | none => rfl
      | some icon =>
          exact congrArg (Prod.mk true) (onSurface_upon l old (Surface.change_upon ..))

theorem flipFrame_upon (timestamp : Nanos) :
    (l.upon old).flipFrame timestamp =
      ((l.flipFrame timestamp).1, (l.flipFrame timestamp).2.upon old) := by
  unfold flipFrame
  rw [pointer_upon, mouse_upon]
  dsimp only
  split
  · rename_i animation _ _
    split
    · split
      · exact showFrame_upon { l with
          controller.pointer.frame := (l.controller.pointer.frame +
            (Nanos.since l.controller.pointer.frameTime timestamp / animation.frameDuration).toNat %
              animation.frames.length) % animation.frames.length
          controller.pointer.frameTime := .wrap (l.controller.pointer.frameTime +
            animation.frameDuration *
              (Nanos.since l.controller.pointer.frameTime timestamp /
                animation.frameDuration)) } old _
      · rfl
    · rfl
  · rfl

theorem present_tidy {l : Live} (h : l.world.surface.Tidy) : l.present.world.surface.Tidy := by
  unfold present
  split
  · rename_i sprite _ _
    have hplaced := writePlace_drawing (l := l.onSurface (·.openTransaction))
      Surface.tidy_drawing h.openTransaction sprite
    generalize (l.onSurface (·.openTransaction)).writePlace sprite = placed at hplaced ⊢
    dsimp only
    split
    · have hwritten := writeIcon_drawing Surface.tidy_drawing hplaced sprite
      change (scene _).surface.Tidy
      rw [startIf_scene]
      exact hwritten.closeTransaction
    · exact hplaced.closeTransaction
  · exact h

theorem fadePointer_tidy {l : Live} (h : l.world.surface.Tidy) (elapsed : Nanos) :
    (l.fadePointer elapsed).2.world.surface.Tidy := by
  unfold fadePointer
  dsimp only
  split
  · exact present_tidy h
  · exact h

/-- What is drawn for a tick, in a transaction that is open. -/
def drawTick (elapsed timestamp : Nanos) : Live :=
  let (pointerFading, l) := l.fadePointer elapsed
  let (spotsFading, l) := l.fadeSpots elapsed
  let (playing, l) := l.flipFrame timestamp
  let l := l.onSurface (·.closeTransaction)
  if pointerFading || spotsFading || playing then l.startAnimation else l

theorem tick_eq (timestamp : Nanos) : l.tick timestamp =
    ({ l with controller.scheduler.pending := false }.onSurface (·.openTransaction)).drawTick
      (l.controller.scheduler.elapsed timestamp) timestamp := rfl

theorem drawTick_upon (h : l.world.surface.Tidy) (elapsed timestamp : Nanos) :
    (l.upon old).drawTick elapsed timestamp = (l.drawTick elapsed timestamp).upon old := by
  have hfaded := fadePointer_tidy h elapsed
  unfold drawTick
  rw [fadePointer_upon]
  generalize l.fadePointer elapsed = faded at hfaded
  dsimp only
  rw [fadeSpots_upon _ old hfaded]
  generalize faded.2.fadeSpots elapsed = dimmed
  dsimp only
  rw [flipFrame_upon]
  generalize dimmed.2.flipFrame timestamp = flipped
  exact finish_upon old (faded.1 || dimmed.1 || flipped.1, flipped.2)

theorem tick_upon (h : l.world.surface.Tidy) (timestamp : Nanos) :
    (l.upon old).tick timestamp = (l.tick timestamp).upon old := by
  have hopened : { l.upon old with controller.scheduler.pending := false }.onSurface
      (·.openTransaction) =
      ({ l with controller.scheduler.pending := false }.onSurface (·.openTransaction)).upon old :=
    onSurface_upon { l with controller.scheduler.pending := false } old
      (Surface.openTransaction_upon ..)
  have htidy : ({ l with controller.scheduler.pending := false }.onSurface
      (·.openTransaction)).world.surface.Tidy := h.openTransaction
  rw [tick_eq, tick_eq, hopened]
  exact drawTick_upon _ old htidy _ timestamp

theorem timerFired_upon (token : TimerToken) :
    (l.upon old).timerFired token = (l.timerFired token).upon old := by
  unfold timerFired
  rw [inactivity_upon]
  split
  · exact hide_upon { l with controller.inactivity.pending := none } old .gradual
  · rfl

/-- Whatever a clock tells is answered likewise. -/
theorem receive_upon (h : l.world.surface.Tidy) (notice : Notice) :
    (l.upon old).receive notice = ((l.receive notice).1, (l.receive notice).2.upon old) := by
  cases notice with
  | events events =>
      dsimp only [receive]
      rw [tornDown_upon]
      split
      · rfl
      · split
        · rfl
        · rw [tick_upon l old h]
  | timer token =>
      dsimp only [receive]
      rw [tornDown_upon]
      split
      · rfl
      · rw [timerFired_upon]
  | failure =>
      have hreport : (l.upon old).world.report .connectionLost =
          (l.world.report .connectionLost).upon old := l.world.report_upon old .connectionLost
      dsimp only [receive]
      rw [hreport]
      rfl

/-! ## Taking down -/

def releaseSprite : Live :=
  match l.controller.sprite with
  | some sprite => l.onSurface (·.release sprite)
  | none => l

def retire : Live :=
  let (spots, surface) := l.controller.spots.releaseAll l.world.surface
  { l with
    controller.scheduler.pending := false
    controller.sprite := none
    controller.spots := spots
    controller.mouse := .empty
    controller.icons := none
    controller.tornDown := true
    world.surface := surface }

theorem tearDown_eq : l.tearDown = l.cancelInactivity.releaseSprite.retire := rfl

theorem releaseSprite_upon (h : l.world.surface.Tidy) :
    (l.upon old).releaseSprite = l.releaseSprite.upon old := by
  unfold releaseSprite
  rw [sprite_upon]
  cases l.controller.sprite with
  | none => rfl
  | some sprite => exact onSurface_upon l old (Surface.release_upon _ h sprite)

theorem releaseSprite_tidy {l : Live} (h : l.world.surface.Tidy) :
    l.releaseSprite.world.surface.Tidy := by
  unfold releaseSprite
  split
  · exact Surface.tidy_drawing.release _ _ h
  · exact h

theorem retire_upon (h : l.world.surface.Tidy) : (l.upon old).retire = l.retire.upon old := by
  have hreleased : (l.upon old).controller.spots.releaseAll (l.upon old).world.surface = _ :=
    SpotPool.releaseAll_upon _ _ h
  unfold retire
  rw [hreleased]
  rfl

/-- A controller is taken down likewise. -/
theorem tearDown_upon (h : l.world.surface.Tidy) :
    (l.upon old).tearDown = l.tearDown.upon old := by
  have hsurface : l.cancelInactivity.world.surface = l.world.surface :=
    congrArg Scene.surface l.cancelInactivity_scene
  rw [← hsurface] at h
  rw [tearDown_eq, tearDown_eq, cancelInactivity_upon, releaseSprite_upon _ old h,
    retire_upon _ old (releaseSprite_tidy h)]

end Live

end ScreenPointer
