/-
# Runs of a session

A run starts with a clock that was just made, connected or not, an empty surface
and no controller; every later state comes from steps.  `Keeps` lists what each
kind of step must keep for a property to hold throughout a run of allowed steps,
and is the only place where steps are told apart.  A law of scenes asks for less,
because scenes do not see the clock: that it holds of a new controller and is kept
by commands and notices.
-/

import ScreenPointer.Proofs.Dealings
import ScreenPointer.Proofs.Delivery
import ScreenPointer.Session

namespace ScreenPointer

/-- Does the step make, drop or command a controller? -/
def Step.isCall : Step → Bool
  | .create _ | .drop | .command _ | .rotate _ => true
  | _ => false

/-- Does the notice carry a vsync or a timer? -/
def Notice.calls : Notice → Bool
  | events es => (latestVsync? es).isSome
  | timer _ => true
  | failure => false

/-- A burst of vsyncs is a tick at its last vsync. -/
theorem latestVsync?_burstEvents (timestamps : List Nanos) :
    latestVsync? (ManualClock.burstEvents timestamps) = timestamps.getLast? := by
  suffices hall : ∀ (ts : List Nanos) (f : Nat → Nanos → DisplayEvent),
      (∀ i t, (f i t).vsyncTime? = some t) → (ts.mapIdx f).filterMap DisplayEvent.vsyncTime? = ts by
    unfold latestVsync? ManualClock.burstEvents
    rw [hall timestamps _ fun _ _ => rfl]
  intro ts
  induction ts with
  | nil => intro f _; rfl
  | cons t rest ih =>
      intro f hf
      rw [List.mapIdx_cons, List.filterMap_cons_some (hf 0 t), ih _ fun i t => hf (i + 1) t]

namespace Session

def blank (now : Nanos) (connected : Bool) (catalogue : Catalogue) : Session :=
  ⟨{ now, connected }, ⟨none, { catalogue }⟩, .unset⟩

/-- Every state of every run is reachable: whatever connection there is, whatever icons are served,
and whatever steps were taken. -/
def Reachable (s : Session) : Prop :=
  ∃ now connected catalogue steps, s = (blank now connected catalogue).run steps

theorem run_append (s : Session) (first second : List Step) :
    s.run (first ++ second) = (s.run first).run second :=
  List.foldl_append

theorem run_concat (s : Session) (steps : List Step) (step : Step) :
    s.run (steps ++ [step]) = ((s.run steps).step step).2 :=
  s.run_append steps [step]

theorem Reachable.run {s : Session} (hs : s.Reachable) (steps : List Step) :
    (s.run steps).Reachable := by
  obtain ⟨now, connected, catalogue, earlier, rfl⟩ := hs
  exact ⟨now, connected, catalogue, earlier ++ steps, (run_append _ earlier steps).symm⟩

/-! ## Dropping a controller -/

theorem lateNotices_call (now : Nanos) : ∀ notice ∈ lateNotices now, notice.calls = true := by
  simp [lateNotices, Notice.calls, latestVsync?, DisplayEvent.vsyncTime?]

/-- A controller that was taken down answers what calls it and does nothing. -/
theorem deliver_of_tornDown {s : Session} {c : Controller}
    (hc : s.host.controller = some c) (hdown : c.tornDown = true) {notice : Notice}
    (hcalls : notice.calls = true) :
    s.deliver notice = (.deregister,
      { s with host.world := s.host.world.record (.answered notice.kind .deregister) }) := by
  obtain ⟨clock, ⟨controller, world⟩, reported⟩ := s
  cases hc
  cases notice with
  | events events =>
      obtain ⟨timestamp, hvsync⟩ := Option.isSome_iff_exists.mp hcalls
      simp [deliver, Host.hear, Live.receive, hvsync, hdown]
  | timer token => simp [deliver, Host.hear, Live.receive, hdown]
  | failure => cases hcalls

theorem deliverAll_of_tornDown {c : Controller} (hdown : c.tornDown = true) :
    ∀ (notices : List Notice), (∀ notice ∈ notices, notice.calls = true) →
      ∀ s : Session, s.host.controller = some c →
        ∃ line, notices.foldl (fun s notice => (s.deliver notice).2) s =
          { s with host.world.line := line } := by
  intro notices
  induction notices with
  | nil => intro _ s _; exact ⟨s.host.world.line, rfl⟩
  | cons notice rest ih =>
      intro hlate s hc
      obtain ⟨hfirst, hrest⟩ := List.forall_mem_cons.mp hlate
      rw [List.foldl_cons, deliver_of_tornDown hc hdown hfirst]
      exact ih hrest _ hc

/-- Unregistering after that only forgets the listener and leaves records. -/
theorem unregister_of_tornDown {s : Session} {c : Controller}
    (hc : s.host.controller = some c) (hdown : c.tornDown = true) (id : ListenerId) :
    ∃ line, s.unregister id =
      { s with clock := s.clock.forget id, host.world.line := line } := by
  unfold unregister
  dsimp only
  split
  · obtain ⟨line, hline⟩ := deliverAll_of_tornDown hdown (lateNotices s.clock.now)
      (lateNotices_call _)
      { s with host.world := s.host.world.record (.asked (.unregister id)) } hc
    rw [hline]
    exact ⟨line, rfl⟩
  · exact ⟨_, rfl⟩

theorem drop_eq {s : Session} {c : Controller} (hc : s.host.controller = some c) :
    s.drop =
      let torn := s.settle (Live.mk c s.clock s.host.world).tearDown
      { (match c.listener with
          | some id => torn.unregister id
          | none => torn) with host.controller := none } := by
  have hlive : s.live? = some ⟨c, s.clock, s.host.world⟩ := by simp [live?, hc]
  unfold drop
  generalize s.live? = live at hlive
  cases hlive
  rfl

/-- What is left of a session whose controller is dropped. -/
theorem drop_of_some {s : Session} {c : Controller} (hc : s.host.controller = some c) :
    ∃ line, s.drop =
      let gone := (Live.mk c s.clock s.host.world).tearDown
      { s with
        clock := match c.listener with
          | some id => gone.clock.forget id
          | none => gone.clock
        host := ⟨none, { gone.world with line }⟩ } := by
  rw [drop_eq hc]
  cases hid : c.listener with
  | none => exact ⟨_, rfl⟩
  | some id =>
      obtain ⟨line, hline⟩ := unregister_of_tornDown
        (s := s.settle (Live.mk c s.clock s.host.world).tearDown) rfl rfl id
      refine ⟨line, ?_⟩
      dsimp only
      rw [hline]
      rfl

theorem drop_of_none {s : Session} (hc : s.host.controller = none) : s.drop = s := by
  have hlive : s.live? = none := by simp [live?, hc]
  unfold drop
  rw [hlive]

theorem drop_reported (s : Session) : s.drop.reported = s.reported := by
  cases hc : s.host.controller with
  | none => rw [drop_of_none hc]
  | some c =>
      obtain ⟨line, hdrop⟩ := drop_of_some hc
      rw [hdrop]

/-! ## Making a controller -/

/-- A controller that is made on a connected clock is registered there. -/
theorem start_of_connected {s : Session} (hconnected : s.clock.connected = true)
    (settings : Settings) :
    s.start settings =
      { s with
        clock := { s.clock with
          lastId := s.clock.lastId + 1
          listeners := s.clock.listeners ++ [⟨s.clock.lastId + 1⟩] }
        host := ⟨some (.new settings (some ⟨s.clock.lastId + 1⟩) s.host.world.catalogue.defaultId
            s.host.world.surface.create.1),
          { s.host.world with surface := s.host.world.surface.create.2 }⟩ } := by
  have hregister : s.clock.register = .ok (⟨s.clock.lastId + 1⟩,
      { s.clock with
        lastId := s.clock.lastId + 1
        listeners := s.clock.listeners ++ [⟨s.clock.lastId + 1⟩] }) := if_pos hconnected
  unfold start
  dsimp only
  rw [hregister]

/-! ## Properties that runs keep -/

/-- A property of clock and host that the moves of the clock, its notices and faults on
the line keep. -/
structure Hears (P : ManualClock × Host → Prop) (allowed : Step → Prop) : Prop where
  move : ∀ c h timers now, timers.Sublist c.timers → P (c, h) → P ({ c with timers, now }, h)
  burst : ∀ timestamps c h, P (c, h) → P (c.vsyncBurst Host.hear timestamps h).2
  timer : ∀ token id c h, P (c, h) → P (c.tell Host.hear (.timer token) id h)
  broadcast : ∀ events, allowed (.broadcast events) →
    ∀ c h, P (c, h) → P (c.broadcast Host.hear events h).2
  failure : allowed .failConnection → ∀ c h, P (c, h) → P (c.failConnection Host.hear h)
  deliver : ∀ notice, allowed (.deliver notice) →
    ∀ id c h, P (c, h) → P (Host.hear id notice c h).2
  faults : ∀ faults, allowed (.setFaults faults) →
    ∀ c h, P (c, h) → P (c, { h with world.faults := faults })

/-- A property of clock and host that allowed steps keep.  What the owner of the controller does is
added to what the clock and the line do. -/
structure Keeps (P : ManualClock × Host → Prop) (allowed : Step → Prop) : Prop
    extends Hears P allowed where
  command : ∀ (command : Command) (l : Live), P (l.clock, ⟨some l.controller, l.world⟩) →
    P ((l.perform command).clock, ⟨some (l.perform command).controller, (l.perform command).world⟩)
  drop : allowed .drop → ∀ s : Session, P (s.clock, s.host) → P (s.drop.clock, s.drop.host)
  create : ∀ settings, allowed (.create settings) → ∀ s : Session, P (s.clock, s.host) →
    P ((s.drop.start settings).clock, (s.drop.start settings).host)

/-- What no answer to a notice changes, nothing changes between the calls of the owner. -/
theorem hears_of_hear {α : Type} {f : Host → α}
    (hhear : ∀ id notice c h, f (Host.hear id notice c h).2.2 = f h)
    (hfaults : ∀ (h : Host) faults, f { h with world.faults := faults } = f h) (a : α) :
    Hears (fun d => f d.2 = a) fun _ => True := by
  have htell : ∀ notice id c h, f h = a →
      f (ManualClock.tell Host.hear notice id c h).2 = a := fun notice id c h heq =>
    ManualClock.tell_keeps (P := fun d => f d.2 = a) ((hhear id notice c h).trans heq)
      fun _ _ hf => hf
  exact {
    move := fun _ _ _ _ _ h => h
    burst := fun _ _ _ h => ManualClock.vsyncBurst_keeps (P := fun d => f d.2 = a)
      (fun _ _ _ hf => hf) (htell _) h
    timer := fun token id c h hf => htell (.timer token) id c h hf
    broadcast := fun _ _ _ _ h => ManualClock.broadcast_keeps (P := fun d => f d.2 = a) (htell _) h
    failure := fun _ _ _ h => ManualClock.failConnection_keeps (P := fun d => f d.2 = a) (htell _) h
    deliver := fun notice _ id c h hf => (hhear id notice c h).trans hf
    faults := fun faults _ _ h hf => (hfaults h faults).trans hf }

theorem Hears.step {P : ManualClock × Host → Prop} {allowed : Step → Prop}
    (hears : Hears P allowed) (s : Session) {step : Step} (hcall : step.isCall = false)
    (hallowed : allowed step) (h : P (s.clock, s.host)) :
    P ((s.step step).2.clock, (s.step step).2.host) := by
  cases step with
  | create settings => cases hcall
  | drop => cases hcall
  | setNow now => exact hears.move s.clock s.host s.clock.timers now (List.Sublist.refl _) h
  | vsync timestamp => exact hears.burst [timestamp] s.clock s.host h
  | burst timestamps => exact hears.burst timestamps s.clock s.host h
  | advance delta =>
      dsimp only [Session.step]
      split
      · rename_i count delivered heq
        exact ManualClock.advanceTo_keeps hears.move hears.timer _ _ _ h _ heq
      · exact h
  | frames frame limit =>
      exact ManualClock.runFrames_keeps (fun t => hears.burst [t]) limit s.clock s.host h
  | broadcast events => exact hears.broadcast events hallowed s.clock s.host h
  | failConnection => exact hears.failure hallowed s.clock s.host h
  | isRegistered id => exact h
  | setFaults faults => exact hears.faults faults hallowed s.clock s.host h
  | deliver notice => exact hears.deliver notice hallowed ⟨s.clock.lastId⟩ s.clock s.host h
  | pass => exact h
  | command command => cases hcall
  | rotate rotation => cases hcall

namespace Keeps

variable {P : ManualClock × Host → Prop} {allowed : Step → Prop}

theorem command_step (keeps : Keeps P allowed) (s : Session) (command : Command)
    (h : P (s.clock, s.host)) : P ((s.command command).2.clock, (s.command command).2.host) := by
  obtain ⟨clock, ⟨controller, world⟩, reported⟩ := s
  cases controller with
  | none => exact h
  | some c =>
      have hperform := keeps.command command ⟨c, clock, world⟩ h
      cases command <;> exact hperform

theorem step (keeps : Keeps P allowed) (s : Session) (step : Step) (hallowed : allowed step)
    (h : P (s.clock, s.host)) : P ((s.step step).2.clock, (s.step step).2.host) := by
  cases step with
  | create settings => exact keeps.create settings hallowed s h
  | drop => exact keeps.drop hallowed s h
  | command command => exact keeps.command_step s command h
  | rotate rotation => exact keeps.command_step s _ h
  | _ => exact keeps.toHears.step s rfl hallowed h

/-- What allowed steps keep holds after every run of them. -/
theorem run (keeps : Keeps P allowed) :
    ∀ (steps : List Step), (∀ step ∈ steps, allowed step) →
      ∀ s : Session, P (s.clock, s.host) → P ((s.run steps).clock, (s.run steps).host) := by
  intro steps
  induction steps with
  | nil => intro _ s h; exact h
  | cons step rest ih =>
      intro hallowed s h
      obtain ⟨hstep, hrest⟩ := List.forall_mem_cons.mp hallowed
      exact ih hrest _ (keeps.step s step hstep h)

end Keeps

end Session

/-! ## Laws of scenes -/

/-- What holds of a host: `bare` of the catalogue and the surface while there is no
controller, `staged` of the scene while there is one. -/
def Host.Meets (bare : Catalogue → Surface → Prop) (staged : Scene → Prop) (h : Host) : Prop :=
  match h.controller with
  | none => bare h.world.catalogue h.world.surface
  | some c => staged (c.sceneIn h.world)

/-- A law that controllers keep from their making to their end.  While there is none, `bare` holds
of the surface; a controller that is made on a bare surface is `staged`, and leaves it bare. -/
structure SceneLaw (bare : Catalogue → Surface → Prop) (staged : Scene → Prop) : Prop where
  empty : ∀ catalogue, bare catalogue {}
  start : ∀ (settings : Settings) (catalogue : Catalogue) (surface : Surface)
    (loads : LoadCounts), bare catalogue surface →
    staged ⟨.new settings none catalogue.defaultId surface.create.1, catalogue,
      surface.create.2, loads⟩
  perform : ∀ (l : Live) (command : Command), staged l.scene → staged (l.perform command).scene
  receive : ∀ (l : Live) (notice : Notice), staged l.scene → staged (l.receive notice).2.scene
  tearDown : ∀ l : Live, staged l.scene →
    bare l.tearDown.world.catalogue l.tearDown.world.surface

namespace SceneLaw

variable {bare : Catalogue → Surface → Prop} {staged : Scene → Prop}

theorem hear_meets (law : SceneLaw bare staged) (id : ListenerId) (notice : Notice)
    (c : ManualClock) (h : Host) (hmeets : h.Meets bare staged) :
    (Host.hear id notice c h).2.2.Meets bare staged := by
  obtain ⟨controller, world⟩ := h
  cases controller with
  | none => cases notice <;> exact hmeets
  | some controller => exact law.receive ⟨controller, c, world⟩ notice hmeets

theorem tell_meets (law : SceneLaw bare staged) (notice : Notice) (id : ListenerId)
    (c : ManualClock) (h : Host) (hmeets : h.Meets bare staged) :
    (c.tell Host.hear notice id h).2.Meets bare staged :=
  ManualClock.tell_keeps (P := fun d => Host.Meets bare staged d.2)
    (law.hear_meets id notice c h hmeets) fun _ _ hm => hm

theorem start_meets (law : SceneLaw bare staged) (s : Session) (settings : Settings)
    (hnone : s.host.controller = none) (hmeets : s.host.Meets bare staged) :
    (s.start settings).host.Meets bare staged := by
  obtain ⟨clock, ⟨controller, world⟩, reported⟩ := s
  cases hnone
  have hstart := law.start settings world.catalogue world.surface world.loads hmeets
  unfold Session.start
  dsimp only
  split <;> exact hstart

theorem drop_meets (law : SceneLaw bare staged) (s : Session)
    (hmeets : s.host.Meets bare staged) :
    s.drop.host.controller = none ∧ s.drop.host.Meets bare staged := by
  cases hc : s.host.controller with
  | none => rw [Session.drop_of_none hc]; exact ⟨hc, hmeets⟩
  | some c =>
      obtain ⟨line, hdrop⟩ := Session.drop_of_some hc
      rw [hdrop]
      unfold Host.Meets at hmeets
      rw [hc] at hmeets
      exact ⟨rfl, law.tearDown ⟨c, s.clock, s.host.world⟩ hmeets⟩

/-- Every step keeps a law of scenes. -/
theorem keeps (law : SceneLaw bare staged) :
    Session.Keeps (fun d => d.2.Meets bare staged) fun _ => True where
  move _ _ _ _ _ h := h
  burst _ _ _ h := ManualClock.vsyncBurst_keeps (P := fun d => Host.Meets bare staged d.2)
    (fun _ _ _ hm => hm) (law.tell_meets _) h
  timer token id c h := law.tell_meets (.timer token) id c h
  broadcast _ _ _ _ h := ManualClock.broadcast_keeps (P := fun d => Host.Meets bare staged d.2)
    (law.tell_meets _) h
  failure _ _ _ h := ManualClock.failConnection_keeps (P := fun d => Host.Meets bare staged d.2)
    (law.tell_meets _) h
  deliver notice _ id c h := law.hear_meets id notice c h
  faults _ _ _ _ hmeets := hmeets
  command command l := law.perform l command
  drop _ s h := (law.drop_meets s h).2
  create settings _ s h := by
    obtain ⟨hnone, hdrop⟩ := law.drop_meets s h
    exact law.start_meets s.drop settings hnone hdrop

/-- A law of scenes holds in every state of every run. -/
theorem run_meets (law : SceneLaw bare staged) {s : Session} (hs : s.Reachable) :
    s.host.Meets bare staged := by
  obtain ⟨now, connected, catalogue, steps, rfl⟩ := hs
  exact law.keeps.run steps (fun _ _ => trivial) _ (law.empty catalogue)

/-- While there is a controller, its scene meets the law. -/
theorem live_meets (law : SceneLaw bare staged) {s : Session} (hs : s.Reachable)
    {c : Controller} (hc : s.host.controller = some c) : staged (c.sceneIn s.host.world) := by
  have hmeets := law.run_meets hs
  unfold Host.Meets at hmeets
  rw [hc] at hmeets
  exact hmeets

end SceneLaw

end ScreenPointer
