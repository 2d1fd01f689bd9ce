/-
# No lost wake-up

While something moves a tick is pending, and while a tick is pending the clock
holds the request for it, so nothing freezes halfway.  Both hold from the making
of a controller on.  A vsync takes the request back, and the tick asks anew if it
needs to.
-/

import ScreenPointer.Proofs.Alert
import ScreenPointer.Proofs.Registration

namespace ScreenPointer

/-- Something of a controller moves: the pointer fades, a spot fades or an animation
plays on the display. -/
def Controller.Moves (c : Controller) (defaultId : IconId) : Prop :=
  c.pointer.fade.direction ≠ .idle ∨
    (∃ display, ∃ s ∈ c.spots.spots display, s.isFading = true) ∨
    (c.viewport.isValid = true ∧ c.Plays defaultId)

namespace Live

variable {strict : Prop} {id : ListenerId} {l : Live}

/-- Tick requests are granted, and whatever moves waits for a tick that was asked for. -/
structure Awake (strict : Prop) (id : ListenerId) (l : Live) : Prop where
  ticking : Ticking strict id l
  alert : Alert l

theorem tick_awake (timestamp : Nanos)
    (h : Ticking strict id { l with controller.scheduler.pending := false }) :
    Awake strict id (l.tick timestamp) :=
  ⟨(tick_works l timestamp).ticking h, tick_alert timestamp h⟩

theorem timerFired_awake (h : Awake strict id l) (token : TimerToken) :
    Awake strict id (l.timerFired token) := by
  by_cases hpending : l.controller.inactivity.pending = some token
  · refine ⟨(timerFired_works hpending).ticking { h.ticking with }, ?_⟩
    rw [timerFired_of_eq hpending]
    have hfired : Ticking strict id { l with controller.inactivity.pending := none } :=
      { h.ticking with }
    exact hide_alert hfired { h.alert with } _
  · rw [timerFired_of_ne hpending]
    exact h

/-- A notice finds a controller awake and leaves it so.  A vsync that the clock did not
deliver as asked leaves a request behind. -/
theorem receive_awake (h : Awake strict id l) {notice : Notice}
    (hasked : strict → ∀ events, notice = .events events → latestVsync? events = none) :
    Awake strict id (l.receive notice).2 := by
  cases notice with
  | events events =>
      dsimp only [receive]
      split
      · exact h
      · rename_i timestamp hvsync
        rw [h.ticking.working]
        refine tick_awake timestamp { h.ticking with
          held := fun hp => absurd hp Bool.false_ne_true
          answered := fun hstrict => ?_ }
        cases hvsync.symm.trans (hasked hstrict events rfl)
  | timer token =>
      dsimp only [receive]
      rw [h.ticking.working]
      exact timerFired_awake h token
  | failure => exact ⟨{ h.ticking with }, { h.alert with }⟩

/-- A controller that is at work takes events with a vsync for a tick. -/
theorem receive_vsync (hworking : l.controller.tornDown = false) {events : List DisplayEvent}
    {timestamp : Nanos} (hvsync : latestVsync? events = some timestamp) :
    l.receive (.events events) = (.keep, l.tick timestamp) := by
  dsimp only [receive]
  rw [hvsync]
  dsimp only
  rw [hworking]
  rfl

theorem receive_keep (hworking : l.controller.tornDown = false) {notice : Notice}
    (hnotice : notice ≠ .failure) : (l.receive notice).1 = .keep := by
  cases notice with
  | events events =>
      dsimp only [receive]
      split
      · rfl
      · rw [hworking]
        rfl
  | timer token =>
      dsimp only [receive]
      rw [hworking]
      rfl
  | failure => exact absurd rfl hnotice

end Live

/-- Steps that leave the connection and the tick requests of a controller alone. -/
def Step.LeavesLine : Step → Prop
  | .create _ | .drop | .failConnection | .deliver .failure => False
  | .setFaults faults => faults.tick.Grants
  | _ => True

/-- Does the step deliver a vsync that was not asked for? -/
def Step.straysVsync : Step → Bool
  | .broadcast events | .deliver (.events events) => (latestVsync? events).isSome
  | _ => false

namespace Session

def Awake (strict : Prop) (id : ListenerId) (d : ManualClock × Host) : Prop :=
  ∃ c, d.2.controller = some c ∧ (Live.mk c d.1 d.2.world).Awake strict id

variable {strict : Prop} {own : ListenerId} {c : ManualClock} {h : Host}

theorem hear_awake (hawake : Awake strict own (c, h)) {notice : Notice}
    (hasked : strict → ∀ events, notice = .events events → latestVsync? events = none)
    (id : ListenerId) : Awake strict own (Host.hear id notice c h).2 := by
  obtain ⟨controller, world⟩ := h
  obtain ⟨c', hc, hlive⟩ := hawake
  cases hc
  have hreceived := Live.receive_awake hlive hasked
  exact ⟨_, rfl, { hreceived.ticking with }, { hreceived.alert with }⟩

/-- A working controller is told without being forgotten. -/
theorem tell_of_working {controller : Controller} {world : World}
    (hworking : controller.tornDown = false) {notice : Notice} (hnotice : notice ≠ .failure)
    (id : ListenerId) :
    c.tell Host.hear notice id ⟨some controller, world⟩ =
      (Host.hear id notice c ⟨some controller, world⟩).2 :=
  ManualClock.tell_of_keep (Live.receive_keep (l := ⟨controller, c, world⟩) hworking hnotice)

theorem tell_awake (hawake : Awake strict own (c, h)) {notice : Notice}
    (hnotice : notice ≠ .failure)
    (hasked : strict → ∀ events, notice = .events events → latestVsync? events = none)
    (id : ListenerId) : Awake strict own (c.tell Host.hear notice id h) := by
  obtain ⟨controller, world⟩ := h
  obtain ⟨c', hc, hlive⟩ := hawake
  cases hc
  rw [tell_of_working hlive.ticking.working hnotice]
  exact hear_awake ⟨c', rfl, hlive⟩ hasked id

/-- A vsync wakes a controller whose request the clock has taken back. -/
theorem tell_vsync_awake {controller : Controller} {world : World} {events : List DisplayEvent}
    {timestamp : Nanos} (hvsync : latestVsync? events = some timestamp)
    (hticking : Live.Ticking strict own
      ⟨{ controller with scheduler.pending := false }, c, world⟩) (id : ListenerId) :
    Awake strict own (c.tell Host.hear (.events events) id ⟨some controller, world⟩) := by
  have hworking : controller.tornDown = false := hticking.working
  have hreceive := Live.receive_vsync (l := ⟨controller, c, world⟩) hworking hvsync
  have hticked := Live.tick_awake (l := ⟨controller, c, world⟩) timestamp hticking
  rw [tell_of_working hworking (by nofun)]
  unfold Host.hear
  dsimp only
  rw [hreceive]
  exact ⟨_, rfl, { hticked.ticking with }, { hticked.alert with }⟩

/-- The clock takes back the request and delivers the tick; the controller asks anew if
it needs to. -/
theorem vsyncBurst_awake (hawake : Awake strict own (c, h)) (timestamps : List Nanos) :
    Awake strict own (c.vsyncBurst Host.hear timestamps h).2 := by
  obtain ⟨controller, world⟩ := h
  obtain ⟨c', hc, hlive⟩ := hawake
  cases hc
  have hticking := hlive.ticking
  unfold ManualClock.vsyncBurst
  split
  · exact ⟨c', rfl, hlive⟩
  · rename_i last hlast
    dsimp only
    rcases hticking.waiting with hnone | hone
    · have htargets : c.requests.filter c.isRegistered = [] := by
        change c.requests = [] at hnone
        simp [hnone]
      rw [htargets]
      refine ⟨c', rfl, { hticking with
        waiting := .inl rfl
        held := fun hp => ?_
        answered := fun _ hone => absurd hone.symm (List.cons_ne_nil _ _) }, { hlive.alert with }⟩
      cases (hticking.held hp).symm.trans hnone
    · have htargets : c.requests.filter c.isRegistered = [own] := by
        change c.requests = [own] at hone
        have hregistered : c.listeners = [own] := hticking.registered
        simp [hone, ManualClock.isRegistered, hregistered]
      have hcleared : Live.Ticking strict own ⟨{ c' with scheduler.pending := false },
          { c with now := max c.now last, requests := [] }, world⟩ := { hticking with
        waiting := .inl rfl
        held := fun hp => absurd hp Bool.false_ne_true
        answered := fun _ hone => absurd hone.symm (List.cons_ne_nil _ _) }
      rw [htargets]
      exact tell_vsync_awake ((latestVsync?_burstEvents timestamps).trans hlast) hcleared own

theorem broadcast_awake (hawake : Awake strict own (c, h)) {events : List DisplayEvent}
    (hasked : strict → latestVsync? events = none) :
    Awake strict own (c.broadcast Host.hear events h).2 :=
  ManualClock.broadcast_keeps (P := Awake strict own)
    (fun id _ _ hd => tell_awake hd (by nofun)
      (fun hstrict other heq => by cases heq; exact hasked hstrict) id) hawake

/-- Steps that leave the line alone keep a controller awake. -/
theorem awake_keeps (strict : Prop) (own : ListenerId) :
    Keeps (Awake strict own) fun step =>
      step.LeavesLine ∧ (strict → step.straysVsync = false) where
  move _ _ _ _ _ h := by
    obtain ⟨c', hc, hlive⟩ := h
    exact ⟨c', hc, { hlive.ticking with }, { hlive.alert with }⟩
  burst timestamps _ _ h := vsyncBurst_awake h timestamps
  timer token id _ _ h := tell_awake h (by nofun) (fun _ _ heq => by cases heq) id
  broadcast events hallowed _ _ h := by
    apply broadcast_awake h
    intro hstrict
    simpa [Step.straysVsync] using hallowed.2 hstrict
  failure hallowed := hallowed.1.elim
  deliver notice hallowed id _ _ h := by
    refine hear_awake h (fun hstrict events heq => ?_) id
    subst heq
    simpa [Step.straysVsync] using hallowed.2 hstrict
  faults faults hallowed _ _ h := by
    obtain ⟨c', hc, hlive⟩ := h
    exact ⟨c', hc, { hlive.ticking with grants := hallowed.1 }, { hlive.alert with }⟩
  command command l h := by
    obtain ⟨c', hc, hlive⟩ := h
    cases hc
    exact ⟨_, rfl, (Live.perform_works l command).ticking hlive.ticking,
      Live.perform_alert hlive.ticking hlive.alert command⟩
  drop hallowed := hallowed.1.elim
  create _ hallowed := hallowed.1.elim

/-- Dropping a controller changes neither the connection nor the faults on the line. -/
theorem drop_line (s : Session) :
    s.drop.clock.connected = s.clock.connected ∧
      s.drop.host.world.faults.tick = s.host.world.faults.tick := by
  cases hc : s.host.controller with
  | none =>
      rw [drop_of_none hc]
      exact ⟨rfl, rfl⟩
  | some c =>
      obtain ⟨line, hdrop⟩ := drop_of_some hc
      have hgone : (Live.mk c s.clock s.host.world).tearDown.clock.connected = s.clock.connected ∧
          (Live.mk c s.clock s.host.world).tearDown.world.faults.tick =
            s.host.world.faults.tick := by
        rw [Live.tearDown_clock, Live.tearDown_faults]
        obtain ⟨_, _, _, _, _, _, heq⟩ := (Live.mk c s.clock s.host.world).cancelInactivity_retimed
        rw [heq]
        exact ⟨rfl, rfl⟩
      rw [hdrop]
      cases c.listener with
      | none => exact hgone
      | some id => exact hgone

/-- A controller that its clock accepts is awake from the start. -/
theorem create_awake (strict : Prop) {s : Session} (hs : s.Reachable)
    (hconnected : s.clock.connected = true) (hgrants : s.host.world.faults.tick.Grants)
    (settings : Settings) :
    ∃ id, Awake strict id
      ((s.step (.create settings)).2.clock, (s.step (.create settings)).2.host) := by
  obtain ⟨hnone, hserves⟩ := drop_served s hs.served
  obtain ⟨hline, hfaults⟩ := drop_line s
  dsimp only [Session.step]
  generalize s.drop = dropped at *
  rw [start_of_connected (hline.trans hconnected)]
  refine ⟨⟨dropped.clock.lastId + 1⟩, _, rfl,
    ⟨rfl, rfl, ?registered, ?grants, .inl hserves.waiting_none, ?held, ?answered⟩,
    ⟨?fade, ?spots, ?icon⟩⟩
  case registered =>
    dsimp only
    rw [hserves.known_none]
    rfl
  case grants =>
    rw [← hfaults] at hgrants
    exact hgrants
  case held => exact fun hpending => absurd hpending Bool.false_ne_true
  case answered =>
    intro _ hone
    cases hserves.waiting_none.symm.trans hone
  case fade => exact fun hmoves => absurd rfl hmoves
  case spots =>
    rintro ⟨e, he, -⟩
    cases he
  case icon =>
    rintro - - ⟨-, -, ⟨icon, hicon⟩, -⟩
    cases hicon

/-- No wake-up is lost.  From the making of a controller that its clock accepts, as long
as tick requests are granted and the connection stays, a pending tick is requested,
whatever moves waits for a tick, and if vsyncs only come as asked, whatever is requested
is pending. -/
theorem no_lost_wakeup {before : Session} (hbefore : before.Reachable)
    (hconnected : before.clock.connected = true) (hgrants : before.host.world.faults.tick.Grants)
    (settings : Settings) {steps : List Step} (hsteps : ∀ step ∈ steps, step.LeavesLine) :
    let s := before.run (.create settings :: steps)
    ∃ c id, s.host.controller = some c ∧ c.listener = some id ∧
      (c.scheduler.pending = true → id ∈ s.clock.requests) ∧
      (c.Moves s.host.world.catalogue.defaultId → c.scheduler.pending = true) ∧
      ((∀ step ∈ steps, step.straysVsync = false) → id ∈ s.clock.requests →
        c.scheduler.pending = true) := by
  intro s
  have hs : s.Reachable := by
    obtain ⟨now, connected, catalogue, first, rfl⟩ := hbefore
    exact ⟨now, connected, catalogue, first ++ .create settings :: steps, (run_append _ _ _).symm⟩
  obtain ⟨id, hcreated⟩ := create_awake (∀ step ∈ steps, step.straysVsync = false) hbefore
    hconnected hgrants settings
  obtain ⟨c, hc, hticking, halert⟩ := (awake_keeps _ id).run steps
    (fun step hstep => ⟨hsteps step hstep, fun hstrict => hstrict step hstep⟩) _ hcreated
  obtain ⟨pointer, hstaged⟩ := staged_law.live_meets hs hc
  refine ⟨c, id, hc, hticking.listener, fun hpending => ?_, fun hmoves => ?_,
    fun hstrict hmem => hticking.answered hstrict ?_⟩
  · have hrequests : s.clock.requests = [id] := hticking.held hpending
    rw [hrequests]
    exact List.mem_singleton_self id
  · rcases hmoves with hfade | ⟨display, spot, hspot, hfading⟩ | ⟨hvalid, hplays⟩
    · exact halert.fade hfade
    · exact halert.spots ⟨(display, spot), SpotPool.mem_live_of_mem_spots hspot, hfading⟩
    · have hshown := hstaged.upToDate hvalid
      exact halert.icon hshown.iconWritten hshown.presentationWritten hplays
  · rcases hticking.waiting with hnone | hone
    · have hnone : s.clock.requests = [] := hnone
      rw [hnone] at hmem
      cases hmem
    · exact hone

/-- A pointer that starts to fade in waits for a tick that the clock holds. -/
theorem no_lost_wakeup_of_reveal :
    let s := (blank 0 true .plain).run [.create {}, .command (.reveal .gradual)]
    ∃ c id, s.host.controller = some c ∧ c.pointer.fade.direction = .into ∧
      c.listener = some id ∧ c.scheduler.pending = true ∧ id ∈ s.clock.requests := by
  intro s
  have hblank : (blank 0 true .plain).Reachable := ⟨0, true, .plain, [], rfl⟩
  have hsteps : ∀ step ∈ [Step.command (.reveal .gradual)], step.LeavesLine := by
    simp [Step.LeavesLine]
  obtain ⟨c, id, hc, hlistener, hrequested, hmoves, -⟩ :=
    no_lost_wakeup hblank rfl ⟨by simp [blank], rfl⟩ {} hsteps
  have hdirection : (s.host.controller.map (·.pointer.fade.direction)) = some .into := by
    decide +kernel
  obtain ⟨c', hc', hfade⟩ := Option.map_eq_some_iff.mp hdirection
  cases Option.some.inj (hc.symm.trans hc')
  have hpending := hmoves (.inl (by rw [hfade]; decide))
  exact ⟨c, id, hc, hfade, hlistener, hpending, hrequested hpending⟩

end Session

end ScreenPointer
