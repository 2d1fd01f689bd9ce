/-
# What a failing clock cannot spoil

The appearance of a host is all that its caller and its viewers can tell of it, except for
its dealings with the clock: whether a tick or a timer is pending, under which name the
clock knows the controller, and what the log says of refusals.  Commands read nothing else
to write the appearance, apart from the time.  So as long as the clock does not call, hosts
that look alike go on looking alike, whatever their clocks refuse.
-/

import ScreenPointer.Proofs.Runs

namespace ScreenPointer

/-- Does the entry tell of a request that the clock refused? -/
def LogEntry.isRefusal : LogEntry → Bool
  | registrationRefused _ | tickRefused _ | timerRefused _ => true
  | iconMissing _ | connectionLost | strayClose => false

namespace World

/-- The log without what it says of refusals. -/
def notes (w : World) : List LogEntry := w.log.filter fun e => !e.isRefusal

theorem report_notes_of_isRefusal {e : LogEntry} (w : World) (h : e.isRefusal = true) :
    (w.report e).notes = w.notes := by
  simp [report, notes, h]

theorem report_notes {w w' : World} (h : w'.notes = w.notes) (e : LogEntry) :
    (w'.report e).notes = (w.report e).notes := by
  simp only [report, notes, List.filter_append] at h ⊢
  rw [h]

end World

/-- All that can be told of a host apart from its dealings with the clock. -/
structure Appearance where
  controller : Option Controller
  catalogue : Catalogue
  surface : Surface
  loads : LoadCounts
  notes : List LogEntry
  now : Nanos
  deriving DecidableEq

def Host.appearance (h : Host) (now : Nanos) : Appearance where
  controller := h.controller.map (·.unclocked)
  catalogue := h.world.catalogue
  surface := h.world.surface
  loads := h.world.loads
  notes := h.world.notes
  now := now

namespace Live

def appearance (l : Live) : Appearance := Host.appearance ⟨some l.controller, l.world⟩ l.clock.now

/-- What clocks decide of a controller at work, and all that they know. -/
structure Tuning where
  listener : Option ListenerId
  scheduler : Scheduler
  pending : Option TimerToken
  lastToken : Nat
  clock : ManualClock
  faults : LineFaults
  line : List LineRecord
  log : List LogEntry

/-- The same controller on another clock. -/
def tuned (l : Live) (t : Tuning) : Live := { l with
  controller.listener := t.listener
  controller.scheduler := t.scheduler
  controller.inactivity.pending := t.pending
  controller.inactivity.lastToken := t.lastToken
  clock := t.clock
  world.faults := t.faults
  world.line := t.line
  world.log := t.log }

variable {l l' : Live} {t : Tuning}

theorem appearance_of_tuned (hnow : t.clock.now = l.clock.now)
    (hnotes : (l.tuned t).world.notes = l.world.notes) (h : l' = l.tuned t) :
    l'.appearance = l.appearance := by
  subst h
  unfold appearance Host.appearance
  rw [hnotes]
  exact congrArg _ hnow

/-- Who looks alike differs by the clock only. -/
theorem exists_tuned (h : l'.appearance = l.appearance) :
    ∃ t, t.clock.now = l.clock.now ∧ (l.tuned t).world.notes = l.world.notes ∧
      l' = l.tuned t := by
  obtain ⟨c, clock, catalogue, surface, loads, faults, line, log⟩ := l
  obtain ⟨c', clock', catalogue', surface', loads', faults', line', log'⟩ := l'
  simp only [appearance, Host.appearance, Appearance.mk.injEq, Option.map_some, Option.some.injEq]
    at h
  obtain ⟨hcontroller, rfl, rfl, rfl, hnotes, hnow⟩ := h
  let t : Tuning := ⟨c'.listener, c'.scheduler, c'.inactivity.pending, c'.inactivity.lastToken,
    clock', faults', line', log'⟩
  refine ⟨t, hnow, hnotes, ?_⟩
  calc Live.mk c' clock' ⟨catalogue', surface', loads', faults', line', log'⟩
    _ = tuned ⟨c'.unclocked, clock, ⟨catalogue', surface', loads', faults, line, log⟩⟩ t := rfl
    _ = tuned ⟨c.unclocked, clock, ⟨catalogue', surface', loads', faults, line, log⟩⟩ t := by
        rw [hcontroller]
    _ = tuned ⟨c, clock, ⟨catalogue', surface', loads', faults, line, log⟩⟩ t := rfl

/-! ## Asking the clock -/

theorem askTick_appearance (l : Live) (id : ListenerId) :
    (l.askTick id).2.appearance = l.appearance := by
  unfold askTick ManualClock.requestTick
  dsimp only
  split
  · rfl
  · by_cases hknown : l.clock.isRegistered id = true
    · rw [if_pos hknown]
      rfl
    · rw [if_neg hknown]
      rfl

theorem askTimer_appearance (l : Live) (id : ListenerId) (token : TimerToken) (delay : Nanos) :
    (l.askTimer id token delay).2.appearance = l.appearance := by
  unfold askTimer ManualClock.schedule
  dsimp only
  split
  · rfl
  · by_cases hknown : l.clock.isRegistered id = true
    · rw [if_pos hknown]
      rfl
    · rw [if_neg hknown]
      rfl

/-- A refusal is only noted in the part of the log that is left out. -/
theorem report_appearance {e : LogEntry} (h : e.isRefusal = true) (l : Live) :
    { l with world := l.world.report e }.appearance = l.appearance := by
  unfold appearance Host.appearance
  dsimp only
  rw [World.report_notes_of_isRefusal l.world h]
  rfl

@[simp]
theorem startAnimation_appearance (l : Live) : l.startAnimation.appearance = l.appearance := by
  unfold startAnimation
  split
  · rfl
  · dsimp only
    split
    · rfl
    · rename_i id _
      have hasked := askTick_appearance { l with controller.scheduler := ⟨true, l.clock.now⟩ } id
      split
      · rename_i asked heq
        rw [heq] at hasked
        exact hasked
      · rename_i error asked heq
        rw [heq] at hasked
        exact (report_appearance (e := .tickRefused error) rfl _).trans hasked

@[simp]
theorem startIf_appearance (l : Live) (needed : Bool) :
    (if needed then l.startAnimation else l).appearance = l.appearance := by
  split
  · exact l.startAnimation_appearance
  · rfl

@[simp]
theorem cancelInactivity_appearance (l : Live) :
    l.cancelInactivity.appearance = l.appearance := by
  unfold cancelInactivity
  dsimp only
  split <;> rfl

@[simp]
theorem restartInactivity_appearance (l : Live) :
    l.restartInactivity.appearance = l.appearance := by
  unfold restartInactivity
  dsimp only
  split
  · exact l.cancelInactivity_appearance
  · rename_i id _
    have hasked := (askTimer_appearance { l.cancelInactivity with
      controller.inactivity.lastToken := l.cancelInactivity.controller.inactivity.lastToken + 1 }
      id ⟨l.cancelInactivity.controller.inactivity.lastToken + 1⟩
      (l.controller.settings.inactivityDelay l.controller.inactivity.timeout)).trans
        l.cancelInactivity_appearance
    split
    · rename_i asked heq
      rw [heq] at hasked
      exact hasked
    · rename_i error asked heq
      rw [heq] at hasked
      exact (report_appearance (e := .timerRefused error) rfl _).trans hasked

/-! ## Commands -/

theorem onSurface_alike (h : l'.appearance = l.appearance) (f : Surface → Surface) :
    (l'.onSurface f).appearance = (l.onSurface f).appearance := by
  obtain ⟨t, hnow, hnotes, rfl⟩ := exists_tuned h
  exact appearance_of_tuned hnow hnotes rfl

/-- Which icon is written and when its animation starts over, the clock has no say in. -/
theorem writeIcon_alike (h : l'.appearance = l.appearance) (sprite : SpriteId) :
    (l'.writeIcon sprite).2.appearance = (l.writeIcon sprite).2.appearance := by
  obtain ⟨t, hnow, hnotes, rfl⟩ := exists_tuned h
  have hmissing := World.report_notes hnotes (.iconMissing l.controller.pointer.requested)
  have hchoice : (l.tuned t).controller.iconChoice (l.tuned t).world.catalogue.defaultId =
      l.controller.iconChoice l.world.catalogue.defaultId := rfl
  unfold writeIcon
  dsimp only
  rw [hchoice]
  have hclock : (l.tuned t).clock.now = l.clock.now := hnow
  obtain ⟨icon, animated, missing⟩ := l.controller.iconChoice l.world.catalogue.defaultId
  cases missing with
  | true =>
      cases animated <;> cases icon
      all_goals
        refine appearance_of_tuned (t := { t with
          log := t.log ++ [.iconMissing l.controller.pointer.requested] }) hnow hmissing ?_
        simp only [hclock, if_true, if_false, Bool.false_eq_true]
        rfl
  | false =>
      cases animated <;> cases icon
      all_goals
        refine appearance_of_tuned (t := t) hnow hnotes ?_
        simp only [hclock, if_true, if_false, Bool.false_eq_true]
        rfl

theorem writePlace_alike (h : l'.appearance = l.appearance) (sprite : SpriteId) :
    (l'.writePlace sprite).appearance = (l.writePlace sprite).appearance := by
  obtain ⟨t, hnow, hnotes, rfl⟩ := exists_tuned h
  exact appearance_of_tuned hnow hnotes rfl

/-- Presenting starts an animation or not; it looks the same. -/
theorem present_appearance {sprite : SpriteId} (hvalid : l.controller.viewport.isValid = true)
    (hsprite : l.controller.sprite = some sprite) :
    l.present.appearance =
      ((if l.controller.iconChanged || l.controller.presentationChanged then
          (((l.onSurface (·.openTransaction)).writePlace sprite).writeIcon sprite).2
        else (l.onSurface (·.openTransaction)).writePlace sprite).onSurface
          (·.closeTransaction)).appearance := by
  unfold present
  rw [hvalid, hsprite]
  dsimp only
  rw [startIf_appearance]
  congr 2
  exact apply_ite Prod.snd _ _ _

theorem present_alike (h : l'.appearance = l.appearance) :
    l'.present.appearance = l.present.appearance := by
  obtain ⟨t, -, -, rfl⟩ := exists_tuned h
  cases hvalid : l.controller.viewport.isValid with
  | false => simpa [present, tuned, hvalid] using h
  | true =>
      cases hsprite : l.controller.sprite with
      | none => simpa [present, tuned, hsprite] using h
      | some sprite =>
          have hplaced := writePlace_alike (onSurface_alike h (·.openTransaction)) sprite
          rw [present_appearance hvalid hsprite, present_appearance (l := l.tuned t) hvalid hsprite]
          apply onSurface_alike
          by_cases hchanged :
              (l.controller.iconChanged || l.controller.presentationChanged) = true
          · rw [if_pos hchanged]
            exact (congrArg appearance (if_pos hchanged)).trans (writeIcon_alike hplaced sprite)
          · rw [if_neg hchanged]
            exact (congrArg appearance (if_neg hchanged)).trans hplaced

theorem place_alike (h : l'.appearance = l.appearance) (p : Point) :
    (l'.place p).appearance = (l.place p).appearance := by
  obtain ⟨t, hnow, hnotes, rfl⟩ := exists_tuned h
  cases hbounds : l.controller.viewport.bounds? with
  | none => simpa [place, tuned, hbounds] using h
  | some b =>
      simp only [place, hbounds, show (l.tuned t).controller.viewport.bounds? = some b from hbounds]
      exact present_alike (appearance_of_tuned hnow hnotes rfl)

theorem fadeAllSpots_alike (h : l'.appearance = l.appearance) :
    l'.fadeAllSpots.appearance = l.fadeAllSpots.appearance := by
  obtain ⟨t, hnow, hnotes, rfl⟩ := exists_tuned h
  simp only [fadeAllSpots, startIf_appearance]
  exact appearance_of_tuned hnow hnotes rfl

theorem refade_alike (h : l'.appearance = l.appearance) (f : Fade → Fade) :
    { l' with controller.pointer.fade := f l'.controller.pointer.fade }.appearance =
      { l with controller.pointer.fade := f l.controller.pointer.fade }.appearance := by
  obtain ⟨t, hnow, hnotes, rfl⟩ := exists_tuned h
  exact appearance_of_tuned hnow hnotes rfl

theorem hide_alike (h : l'.appearance = l.appearance) (transition : Transition) :
    (l'.hide transition).appearance = (l.hide transition).appearance := by
  have hcancelled : l'.cancelInactivity.appearance = l.cancelInactivity.appearance := by
    rw [cancelInactivity_appearance, cancelInactivity_appearance, h]
  cases transition with
  | immediate => exact present_alike (refade_alike hcancelled fun _ => ⟨0, .idle⟩)
  | gradual =>
      simp only [hide, startAnimation_appearance]
      exact refade_alike hcancelled ({ · with direction := .out })

theorem reveal_alike (h : l'.appearance = l.appearance) (transition : Transition) :
    (l'.reveal transition).appearance = (l.reveal transition).appearance := by
  have hrestarted : l'.restartInactivity.appearance = l.restartInactivity.appearance := by
    rw [restartInactivity_appearance, restartInactivity_appearance, h]
  cases transition with
  | immediate => exact present_alike (refade_alike hrestarted fun _ => ⟨1, .idle⟩)
  | gradual =>
      simp only [reveal, startAnimation_appearance]
      exact refade_alike hrestarted ({ · with direction := .into })

theorem loadIcons_alike (h : l'.appearance = l.appearance) :
    l'.loadIcons.appearance = l.loadIcons.appearance := by
  obtain ⟨t, hnow, hnotes, rfl⟩ := exists_tuned h
  cases hvalid : l.controller.viewport.isValid with
  | false => simpa [loadIcons, tuned, hvalid] using h
  | true =>
      cases hshown : l.controller.pointer.presentation with
      | pointer =>
          simp only [loadIcons, tuned, hvalid, hshown, if_true]
          exact appearance_of_tuned hnow hnotes rfl
      | spot =>
          simp only [loadIcons, tuned, hvalid, hshown, if_true]
          exact appearance_of_tuned hnow hnotes rfl

theorem applyViewport_alike (h : l'.appearance = l.appearance) (viewport : Viewport) :
    (l'.applyViewport viewport).appearance = (l.applyViewport viewport).appearance := by
  obtain ⟨t, hnow, hnotes, rfl⟩ := exists_tuned h
  by_cases hsame : l.controller.viewport = viewport
  · simpa [applyViewport, tuned, hsame] using h
  · have hsame' : (l.tuned t).controller.viewport ≠ viewport := hsame
    simp only [applyViewport, if_neg hsame, if_neg hsame']
    apply present_alike
    have hchange : (l.tuned t).controller.viewport.changeTo viewport =
        l.controller.viewport.changeTo viewport := rfl
    rw [hchange]
    cases l.controller.viewport.changeTo viewport with
    | reset =>
        apply fadeAllSpots_alike
        cases viewport.bounds? with
        | some b => exact loadIcons_alike (appearance_of_tuned hnow hnotes rfl)
        | none => exact appearance_of_tuned hnow hnotes rfl
    | reorient => exact appearance_of_tuned hnow hnotes rfl
    | unchanged => exact appearance_of_tuned hnow hnotes rfl

theorem setPresentation_alike (h : l'.appearance = l.appearance) (presentation : Presentation) :
    (l'.setPresentation presentation).appearance = (l.setPresentation presentation).appearance := by
  obtain ⟨t, hnow, hnotes, rfl⟩ := exists_tuned h
  by_cases hsame : l.controller.pointer.presentation = presentation
  · simpa [setPresentation, tuned, hsame] using h
  · have hsame' : (l.tuned t).controller.pointer.presentation ≠ presentation := hsame
    simp only [setPresentation, if_neg hsame, if_neg hsame']
    apply present_alike
    cases presentation with
    | pointer =>
        apply fadeAllSpots_alike
        by_cases hload : (l.controller.mouse.isEmpty && l.controller.viewport.isValid) = true
        · rw [if_pos hload]
          exact (congrArg appearance (if_pos hload)).trans (appearance_of_tuned hnow hnotes rfl)
        · rw [if_neg hload]
          exact (congrArg appearance (if_neg hload)).trans (appearance_of_tuned hnow hnotes rfl)
    | spot => exact appearance_of_tuned hnow hnotes rfl

theorem setSpots_alike (h : l'.appearance = l.appearance) (contacts : List Contact)
    (display : DisplayId) :
    (l'.setSpots contacts display).appearance = (l.setSpots contacts display).appearance := by
  obtain ⟨t, hnow, hnotes, rfl⟩ := exists_tuned h
  cases hvalid : l.controller.viewport.isValid with
  | false => simpa [setSpots, tuned, hvalid] using h
  | true =>
      cases hicons : l.controller.icons with
      | none => simpa [setSpots, tuned, hicons] using h
      | some icons =>
          have hvalid' : (l.tuned t).controller.viewport.isValid = true := hvalid
          have hicons' : (l.tuned t).controller.icons = some icons := hicons
          simp only [setSpots, hvalid, hicons, hvalid', hicons', startIf_appearance]
          exact appearance_of_tuned hnow hnotes rfl

/-- What a command makes of the appearance depends on the appearance. -/
theorem perform_alike (h : l'.appearance = l.appearance) (command : Command) :
    (l'.perform command).appearance = (l.perform command).appearance := by
  obtain ⟨t, hnow, hnotes, rfl⟩ := exists_tuned h
  cases command with
  | moveBy dx dy =>
      dsimp only [perform]
      split
      · exact h
      · exact place_alike h _
  | place p => exact place_alike h p
  | setButtons buttons => exact appearance_of_tuned hnow hnotes rfl
  | hide transition => exact hide_alike h transition
  | reveal transition => exact reveal_alike h transition
  | present presentation => exact setPresentation_alike h presentation
  | setSpots contacts display => exact setSpots_alike h contacts display
  | clearSpots =>
      cases hvalid : l.controller.viewport.isValid with
      | false => simpa [perform, tuned, hvalid] using h
      | true => simpa [perform, tuned, hvalid] using fadeAllSpots_alike h
  | setTimeout timeout =>
      by_cases hsame : l.controller.inactivity.timeout = timeout
      · simpa [perform, tuned, hsame] using h
      · have hsame' : (l.tuned t).controller.inactivity.timeout ≠ timeout := hsame
        simp only [perform, if_neg hsame, if_neg hsame', restartInactivity_appearance]
        exact appearance_of_tuned hnow hnotes rfl
  | setViewport viewport => exact applyViewport_alike h viewport
  | requestIcon id =>
      by_cases hsame : l.controller.pointer.requested = id
      · simpa [perform, requestIcon, tuned, hsame] using h
      · have hsame' : (l.tuned t).controller.pointer.requested ≠ id := hsame
        simp only [perform, requestIcon, if_neg hsame, if_neg hsame']
        exact present_alike (appearance_of_tuned hnow hnotes rfl)
  | setCustomIcon icon => exact present_alike (appearance_of_tuned hnow hnotes rfl)
  | reload => exact present_alike (loadIcons_alike h)

/-- So does what is left when the controller is taken down. -/
theorem tearDown_alike (h : l'.appearance = l.appearance) :
    l'.tearDown.appearance = l.tearDown.appearance := by
  have hcancelled : l'.cancelInactivity.appearance = l.cancelInactivity.appearance := by
    rw [cancelInactivity_appearance, cancelInactivity_appearance, h]
  unfold tearDown
  generalize l.cancelInactivity = cancelled at hcancelled ⊢
  obtain ⟨t, hnow, hnotes, heq⟩ := exists_tuned hcancelled
  rw [heq]
  cases hsprite : cancelled.controller.sprite with
  | none =>
      simp only [hsprite, show (cancelled.tuned t).controller.sprite = none from hsprite]
      exact appearance_of_tuned (t := { t with scheduler.pending := false }) hnow hnotes rfl
  | some sprite =>
      simp only [hsprite, show (cancelled.tuned t).controller.sprite = some sprite from hsprite]
      exact appearance_of_tuned (t := { t with scheduler.pending := false }) hnow hnotes rfl

end Live

def Step.delivers : Step → Bool
  | .vsync _ | .burst _ | .advance _ | .frames .. | .broadcast _ | .failConnection | .deliver _ => true
  | .create _ | .drop | .setNow _ | .isRegistered _ | .setFaults _ | .pass | .command _ |
    .rotate _ => false

namespace Session

def appearance (s : Session) : Appearance := s.host.appearance s.clock.now

/-- Sessions that their callers cannot tell apart by looking. -/
structure Alike (s s' : Session) : Prop where
  appearance : s'.appearance = s.appearance
  reported : s'.reported = s.reported

variable {s s' : Session} {step : Step}

/-- A controller that is made looks the same, registered or not. -/
theorem start_appearance (s : Session) (settings : Settings) :
    (s.start settings).appearance =
      { s.appearance with
        controller := some (Controller.new settings none s.appearance.catalogue.defaultId
          s.appearance.surface.create.1)
        surface := s.appearance.surface.create.2 } := by
  unfold start ManualClock.register
  dsimp only
  by_cases hconnected : s.clock.connected = true
  · rw [if_pos hconnected]
    rfl
  · rw [if_neg hconnected]
    have hnotes := World.report_notes_of_isRefusal (e := .registrationRefused
      (.unavailable "manual clock built without a display connection"))
      { s.host.world with surface := s.host.world.surface.create.2 } rfl
    simp only [Session.appearance, Host.appearance, hnotes]
    rfl

theorem start_alike (h : s.Alike s') (settings : Settings) :
    (s.start settings).Alike (s'.start settings) := by
  refine ⟨?_, ?_⟩
  · rw [start_appearance, start_appearance, h.appearance]
  · unfold start
    dsimp only
    split <;> split <;> exact h.reported

/-- Sessions that look alike both have a controller, or neither has. -/
theorem Alike.controller_isSome (h : s.Alike s') :
    s'.host.controller.isSome = s.host.controller.isSome := by
  have hcontroller := congrArg Appearance.controller h.appearance
  simpa [Session.appearance, Host.appearance] using congrArg Option.isSome hcontroller

/-- Dropping a controller leaves what taking it down has left. -/
theorem drop_appearance {c : Controller} (hc : s.host.controller = some c) :
    s.drop.appearance =
      { (Live.mk c s.clock s.host.world).tearDown.appearance with controller := none } := by
  obtain ⟨line, hdrop⟩ := drop_of_some hc
  rw [hdrop]
  cases c.listener <;> rfl

theorem live_appearance {c : Controller} (hc : s.host.controller = some c) :
    (Live.mk c s.clock s.host.world).appearance = s.appearance := by
  rw [Session.appearance, Live.appearance, Host.appearance, Host.appearance, hc]

theorem drop_alike (h : s.Alike s') : s.drop.Alike s'.drop := by
  refine ⟨?_, by rw [drop_reported, drop_reported, h.reported]⟩
  have hsome := h.controller_isSome
  cases hc : s.host.controller with
  | none =>
      have hc' : s'.host.controller = none := by simpa [hc] using hsome
      rw [drop_of_none hc, drop_of_none hc']
      exact h.appearance
  | some c =>
      obtain ⟨c', hc'⟩ := Option.isSome_iff_exists.mp (hsome.trans (by rw [hc]; rfl))
      have hlive := ((live_appearance hc').trans h.appearance).trans (live_appearance hc).symm
      rw [drop_appearance hc, drop_appearance hc', Live.tearDown_alike hlive]

theorem command_alike (h : s.Alike s') (command : Command) :
    (s.command command).2.Alike (s'.command command).2 := by
  have hsome := h.controller_isSome
  obtain ⟨clock, ⟨controller, world⟩, reported⟩ := s
  obtain ⟨clock', ⟨controller', world'⟩, reported'⟩ := s'
  cases controller with
  | none =>
      cases controller' with
      | none => exact h
      | some c' => cases hsome
  | some c =>
      cases controller' with
      | none => cases hsome
      | some c' =>
          have hlive : (Live.mk c' clock' world').appearance = (Live.mk c clock world).appearance :=
            h.appearance
          have hperform := Live.perform_alike hlive command
          cases command with
          | setViewport viewport => exact ⟨hperform, rfl⟩
          | _ => exact ⟨hperform, h.reported⟩

theorem step_alike (h : s.Alike s') (hquiet : step.delivers = false) :
    (s.step step).2.Alike (s'.step step).2 := by
  cases step with
  | create settings => exact start_alike (drop_alike h) settings
  | drop => exact drop_alike h
  | setNow now =>
      exact ⟨congrArg (fun a => { a with now }) h.appearance, h.reported⟩
  | command command => exact command_alike h command
  | rotate rotation =>
      dsimp only [Session.step]
      rw [h.reported]
      exact command_alike h _
  | isRegistered id => exact h
  | setFaults faults => exact ⟨h.appearance, h.reported⟩
  | pass => exact h
  | _ => cases hquiet

/-- As long as the clock does not call, sessions go on looking alike. -/
theorem run_alike (h : s.Alike s') {steps : List Step}
    (hquiet : ∀ step ∈ steps, step.delivers = false) : (s.run steps).Alike (s'.run steps) := by
  induction steps generalizing s s' with
  | nil => exact h
  | cons step rest ih =>
      obtain ⟨hstep, hrest⟩ := List.forall_mem_cons.mp hquiet
      exact ih (step_alike h hstep) hrest

/-- Whatever clocks refuse, registration included, a session looks the same after any calls
of its owner and any changes of the time, as long as the clock does not call: the pointer,
the viewport, the buttons, the preset of the inactivity timeout, the spots and spare sprites,
the icons and how often they were loaded, the surface and the rest of the log. -/
theorem looks_alike_whatever_clocks_refuse (now : Nanos) (catalogue : Catalogue)
    (connected connected' : Bool) (faults faults' : LineFaults) {steps : List Step}
    (hquiet : ∀ step ∈ steps, step.delivers = false) :
    ((blank now connected catalogue).run (.setFaults faults :: steps)).Alike
      ((blank now connected' catalogue).run (.setFaults faults' :: steps)) := by
  have hstart : Alike { blank now connected catalogue with host.world.faults := faults }
      { blank now connected' catalogue with host.world.faults := faults' } := ⟨rfl, rfl⟩
  exact run_alike hstart hquiet

/-- A pointer that was shown and is to fade looks the same with a clock that grants nothing,
which the controller goes on asking. -/
theorem looks_alike_when_all_is_refused :
    let steps : List Step := [.create {}, .command (.setViewport (.whole .builtin 800 600)),
      .command (.reveal .immediate), .setNow 5, .command (.hide .gradual)]
    let granted := (blank 0 true .plain).run (.setFaults {} :: steps)
    let refused := (blank 0 true .plain).run
      (.setFaults { tick := .always true, timer := .always true } :: steps)
    granted.Alike refused ∧
      granted.host.controller.map (·.scheduler.pending) = some true ∧
      refused.host.controller.map (·.scheduler.pending) = some false ∧
      granted.host.world.log = [] ∧ refused.host.world.log.length = 2 := by
  intro steps granted refused
  refine ⟨looks_alike_whatever_clocks_refuse 0 .plain true true {} _ (by decide), ?_, ?_, ?_, ?_⟩
  · decide +kernel
  · decide +kernel
  · decide +kernel
  · decide +kernel

end Session

end ScreenPointer
