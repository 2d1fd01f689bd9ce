/-
# Succession

Dropping a controller leaves nothing behind: no sprite, no transaction, nobody for the
clock to tell, and a listener that answers whatever still comes by asking to be
forgotten.  So what comes after the drop is a blank session upon the old one, and since
every step is done likewise upon an old session, a controller made afterwards behaves
like the first one.
-/

import ScreenPointer.Proofs.Frames
import ScreenPointer.Proofs.Mirroring
import ScreenPointer.Proofs.Succession.Controllers
import ScreenPointer.Proofs.Timers
import ScreenPointer.Proofs.Wakeup

namespace ScreenPointer

variable (old : Session)

namespace Host

/-- The scene of a controller is in order, and without one there are no sprites. -/
def Staged (h : Host) : Prop :=
  h.Meets (fun _ surface => surface.Owned []) fun v => ∃ pointer, v.Staged pointer

theorem Staged.tidy {h : Host} (hstaged : h.Staged) : h.world.surface.Tidy := by
  obtain ⟨controller, world⟩ := h
  cases controller with
  | none => exact Surface.Owned.tidy hstaged
  | some c =>
      obtain ⟨pointer, hscene⟩ := hstaged
      have howned : world.surface.Owned _ := hscene.kept.pool.tended.owned
      exact howned.tidy

theorem Staged.one_pointer {h : Host} (hstaged : h.Staged) : h.world.surface.OnePointer := by
  have hnames : (h.world.surface.placed.map (·.id)).Nodup := hstaged.tidy.distinct
  obtain ⟨controller, world⟩ := h
  intro p hp q hq hplayer hqlayer
  cases controller with
  | none =>
      have hnone : world.surface.placed = [] :=
        List.map_eq_nil_iff.mp (Surface.Owned.alive hstaged).eq_nil
      rw [hnone] at hp
      cases hp
  | some c =>
      obtain ⟨pointer, hscene⟩ := hstaged
      have htop := hscene.kept.mirrored.top
      exact List.inj_on_of_nodup_map hnames hp hq
        ((htop p hp hplayer).trans (htop q hq hqlayer).symm)

theorem hear_upon {h : Host} (htidy : h.world.surface.Tidy) (id : ListenerId) (notice : Notice)
    (clock : ManualClock) :
    hear (id.shift old.clock.lastId) notice (clock.upon old) (h.upon old) =
      ((hear id notice clock h).1, (hear id notice clock h).2.1.upon old,
        (hear id notice clock h).2.2.upon old) := by
  have hrecord (w : World) (status : ListenerStatus) :
      (w.upon old).record (.answered notice.kind status) =
        (w.record (.answered notice.kind status)).upon old :=
    w.record_upon old (.answered notice.kind status)
  obtain ⟨controller, world⟩ := h
  cases controller with
  | none =>
      have hanswer (w : World) := congrArg
        (fun w => (ListenerStatus.deregister, clock.upon old, (⟨none, w⟩ : Host)))
        (hrecord w .deregister)
      cases notice with
      | events events => exact hanswer world
      | timer token => exact hanswer world
      | failure =>
          have hreport : (world.upon old).report .connectionLost =
              (world.report .connectionLost).upon old := world.report_upon old .connectionLost
          simp only [hear, refuse, upon, Option.map_none, hreport]
          exact hanswer _
  | some c =>
      have hreceived :
          (Live.mk (c.upon old) (clock.upon old) (world.upon old)).receive notice = _ :=
        Live.receive_upon ⟨c, clock, world⟩ old htidy notice
      simp only [hear, upon, Option.map_some, hreceived]
      exact congrArg (fun w => (_, _, (⟨_, w⟩ : Host))) (hrecord _ _)

/-- Listeners upon an old session answer likewise. -/
theorem hear_simulates :
    ManualClock.Simulates old.clock.lastId old.clock.requestTotal
      (fun h h' : Host => h' = h.upon old ∧ h.Staged) hear hear := by
  rintro id notice clock h h' ⟨rfl, hstaged⟩
  have hheard := hear_upon old hstaged.tidy id notice clock
  exact ⟨congrArg (·.1) hheard, congrArg (·.2.1) hheard, congrArg (·.2.2) hheard,
    staged_law.hear_meets id notice clock h hstaged⟩

end Host

namespace Session

variable (s : Session)

theorem after_upon {d d' : ManualClock × Host}
    (h : ManualClock.InStep old.clock.lastId old.clock.requestTotal
      (fun h h' : Host => h' = h.upon old ∧ h.Staged) d d') :
    (s.upon old).after d' = (s.after d).upon old := by
  obtain ⟨clock, host⟩ := d
  obtain ⟨clock', host'⟩ := d'
  obtain ⟨hclock, hhost, -⟩ := h
  cases hclock
  cases hhost
  rfl

variable {s}

theorem deliver_upon (h : s.host.world.surface.Tidy) (notice : Notice) :
    (s.upon old).deliver notice =
      ((s.deliver notice).1, (s.deliver notice).2.upon old) := by
  have hlast : (⟨(s.upon old).clock.lastId⟩ : ListenerId) =
      ListenerId.shift old.clock.lastId ⟨s.clock.lastId⟩ := rfl
  have hheard : Host.hear (ListenerId.shift old.clock.lastId ⟨s.clock.lastId⟩) notice
      (s.upon old).clock (s.upon old).host = _ :=
    Host.hear_upon old h ⟨s.clock.lastId⟩ notice s.clock
  simp only [deliver, hlast, hheard]
  rfl

theorem command_upon (h : s.host.Staged) (command : Command) :
    (s.upon old).command command = ((s.command command).1, (s.command command).2.upon old) := by
  have htidy := h.tidy
  obtain ⟨clock, ⟨controller, world⟩, reported⟩ := s
  cases controller with
  | none => rfl
  | some c =>
      have hperform := congrArg (settle (Session.upon ⟨clock, ⟨some c, world⟩, reported⟩ old))
        (Live.perform_upon ⟨c, clock, world⟩ old htidy command)
      cases command with
      | setViewport viewport =>
          exact congrArg (fun s => (Outcome.nothing, { s with reported := viewport })) hperform
      | _ => exact congrArg (Prod.mk Outcome.nothing) hperform

theorem start_upon (settings : Settings) :
    (s.upon old).start settings = (s.start settings).upon old := by
  have hregister : (s.upon old).clock.register = _ :=
    ManualClock.register_renamed old.clock.lastId old.clock.requestTotal s.clock
  have hcreate : (s.upon old).host.world.surface.create = _ :=
    Surface.create_upon s.host.world.surface old.host.world.surface
  simp only [start, hregister, hcreate]
  cases s.clock.register with
  | ok registered => rfl
  | error e =>
      have hreport := World.report_upon
        { s.host.world with surface := s.host.world.surface.create.2 } old (.registrationRefused e)
      exact congrArg (fun w => (⟨_, ⟨_, w⟩, _⟩ : Session)) hreport

theorem deliverAll_upon {c : Controller} (hdown : c.tornDown = true) :
    ∀ (notices : List Notice), (∀ notice ∈ notices, notice.calls = true) →
      ∀ s : Session, s.host.controller = some c →
        notices.foldl (fun s notice => (s.deliver notice).2) (s.upon old) =
          (notices.foldl (fun s notice => (s.deliver notice).2) s).upon old := by
  intro notices
  induction notices with
  | nil => exact fun _ _ _ => rfl
  | cons notice rest ih =>
      intro hlate s hc
      obtain ⟨hfirst, hrest⟩ := List.forall_mem_cons.mp hlate
      have hupon : (s.upon old).host.controller = some (c.upon old) := congrArg (Option.map _) hc
      have hrecord : (s.upon old).host.world.record (.answered notice.kind .deregister) =
          (s.host.world.record (.answered notice.kind .deregister)).upon old :=
        s.host.world.record_upon old (.answered notice.kind .deregister)
      rw [List.foldl_cons, List.foldl_cons, deliver_of_tornDown hupon hdown hfirst,
        deliver_of_tornDown hc hdown hfirst, hrecord]
      exact ih hrest { s with
        host.world := s.host.world.record (.answered notice.kind .deregister) } hc

/-- A listener whose controller was taken down is unregistered likewise. -/
theorem unregister_upon {c : Controller} (hc : s.host.controller = some c)
    (hdown : c.tornDown = true) (id : ListenerId) :
    (s.upon old).unregister (id.shift old.clock.lastId) = (s.unregister id).upon old := by
  have hforget (s : Session) : { s.upon old with
      clock := (s.upon old).clock.forget (id.shift old.clock.lastId) } =
      { s with clock := s.clock.forget id }.upon old :=
    congrArg (fun clock => { s.upon old with clock }) (ManualClock.forget_renamed _ _ s.clock id)
  have hasked : { s.upon old with
      host.world := (s.upon old).host.world.record
        (.asked (.unregister (id.shift old.clock.lastId))) } =
      { s with host.world := s.host.world.record (.asked (.unregister id)) }.upon old :=
    congrArg (fun world => { s.upon old with host.world := world })
      (s.host.world.record_upon old (.asked (.unregister id)))
  have hc' : { s with
      host.world := s.host.world.record (.asked (.unregister id)) }.host.controller = some c := hc
  unfold unregister
  rw [hasked]
  generalize { s with host.world := s.host.world.record (.asked (.unregister id)) } = asked at hc'
  have hlate : (asked.upon old).host.world.faults.late = asked.host.world.faults.late := rfl
  have hnow : (asked.upon old).clock.now = asked.clock.now := rfl
  dsimp only
  rw [hlate, hnow]
  split
  · rw [deliverAll_upon old hdown _ (lateNotices_call _) asked hc']
    exact hforget _
  · exact hforget asked

theorem drop_upon (h : s.host.Staged) : (s.upon old).drop = s.drop.upon old := by
  cases hc : s.host.controller with
  | none =>
      have hupon : (s.upon old).host.controller = none := congrArg (Option.map _) hc
      rw [drop_of_none hupon, drop_of_none hc]
  | some c =>
      have hupon : (s.upon old).host.controller = some (c.upon old) := congrArg (Option.map _) hc
      have hgone := congrArg (settle (s.upon old))
        (Live.tearDown_upon ⟨c, s.clock, s.host.world⟩ old h.tidy)
      have hlistener : (c.upon old).listener = c.listener.map (.shift old.clock.lastId) := rfl
      rw [drop_eq hupon, drop_eq hc, hlistener]
      cases c.listener with
      | none => exact congrArg (fun s : Session => { s with host.controller := none }) hgone
      | some id =>
          have hleft := unregister_upon old
            (s := s.settle (Live.mk c s.clock s.host.world).tearDown) rfl rfl id
          exact congrArg (fun s : Session => { s with host.controller := none })
            ((congrArg (unregister · _) hgone).trans hleft)

/-- Every step is done likewise upon an old session. -/
theorem step_upon (h : s.host.Staged) (step : Step) :
    (s.upon old).step (step.shift old.clock.lastId) =
      ((s.step step).1, (s.step step).2.upon old) := by
  have hsame : s.host.upon old = s.host.upon old ∧ s.host.Staged := ⟨rfl, h⟩
  have sim := Host.hear_simulates old
  cases step with
  | create settings =>
      exact congrArg (Prod.mk Outcome.nothing)
        ((congrArg (start · settings) (drop_upon old h)).trans (start_upon old settings))
  | drop => exact congrArg (Prod.mk Outcome.nothing) (drop_upon old h)
  | setNow now => rfl
  | vsync timestamp =>
      obtain ⟨hcount, hstep⟩ := ManualClock.vsyncBurst_inStep sim [timestamp] s.clock hsame
      exact Prod.ext (congrArg Outcome.count hcount) (after_upon old s hstep)
  | burst timestamps =>
      obtain ⟨hcount, hstep⟩ := ManualClock.vsyncBurst_inStep sim timestamps s.clock hsame
      exact Prod.ext (congrArg Outcome.count hcount) (after_upon old s hstep)
  | advance delta =>
      have hadvance := ManualClock.advanceTo_inStep sim (s.clock.now + delta)
        s.clock.timers.length s.clock hsame
      have hlength : (s.upon old).clock.timers.length = s.clock.timers.length := List.length_map _
      simp only [Session.step, Step.shift, hlength, ManualClock.advance]
      change Option.Rel _ _ (ManualClock.advanceTo Host.hear ((s.upon old).clock.now + delta)
        s.clock.timers.length (s.upon old).clock (s.upon old).host) at hadvance
      generalize ManualClock.advanceTo Host.hear (s.clock.now + delta) _ _ _ = out at hadvance ⊢
      generalize ManualClock.advanceTo Host.hear _ _ _ _ = out' at hadvance ⊢
      cases hadvance with
      | none => rfl
      | some hstep => exact Prod.ext (congrArg Outcome.count hstep.1) (after_upon old s hstep.2)
  | frames frame limit =>
      obtain ⟨hcount, hstep⟩ := ManualClock.runFrames_inStep sim frame limit s.clock hsame
      exact Prod.ext (congrArg Outcome.count hcount) (after_upon old s hstep)
  | broadcast events =>
      obtain ⟨hcount, hstep⟩ := ManualClock.broadcast_inStep sim events s.clock hsame
      exact Prod.ext (congrArg Outcome.count hcount) (after_upon old s hstep)
  | failConnection =>
      exact Prod.ext rfl
        (after_upon old s (ManualClock.failConnection_inStep sim s.clock hsame))
  | isRegistered id =>
      exact congrArg (fun known => (Outcome.truth known, s.upon old))
        (ManualClock.isRegistered_renamed _ _ s.clock id)
  | setFaults faults => rfl
  | deliver notice =>
      have hdeliver := deliver_upon old h.tidy notice
      exact congrArg (fun out : ListenerStatus × Session => (Outcome.status out.1, out.2)) hdeliver
  | pass => rfl
  | command command => exact command_upon old h command
  | rotate rotation => exact command_upon old h (.setViewport (s.reported.rotated rotation))

/-- Every run is run likewise upon an old session. -/
theorem run_upon (steps : List Step) : ∀ {s : Session}, s.host.Staged →
    (s.run steps).host.Staged ∧
      (s.upon old).run (steps.map (.shift old.clock.lastId)) = (s.run steps).upon old := by
  induction steps with
  | nil => exact fun h => ⟨h, rfl⟩
  | cons step rest ih =>
      intro s h
      have hstep := congrArg (·.2) (step_upon old h step)
      have hkept := staged_law.keeps.step s step trivial h
      obtain ⟨hrest, hupon⟩ := ih hkept
      exact ⟨hrest, (congrArg (run · _) hstep).trans hupon⟩

/-! ## Dropping a controller -/

/-- Neither a controller nor anything of one is there: no sprite, no transaction, and nobody whom
the clock knows. -/
structure Vacant (s : Session) : Prop where
  controller : s.host.controller = none
  placed : s.host.world.surface.placed = []
  closed : s.host.world.surface.isOpen = false
  listeners : s.clock.listeners = []
  requests : s.clock.requests = []
  timers : s.clock.timers = []

/-- What calls the listener is told to forget it, and changes neither surface nor clock. -/
def Silent (s : Session) : Prop :=
  ∀ notice : Notice, notice.calls = true → s.deliver notice = (.deregister,
    { s with host.world := s.host.world.record (.answered notice.kind .deregister) })

/-- The same connection, time, icons and faults before anything has happened. -/
def anew (s : Session) : Session :=
  ⟨{ now := s.clock.now, connected := s.clock.connected },
    ⟨none, { catalogue := s.host.world.catalogue, faults := s.host.world.faults }⟩, s.reported⟩

/-- Dropping a controller leaves nothing of it. -/
theorem drop_vacant (hs : s.Reachable) : s.drop.Vacant := by
  obtain ⟨hnone, hstaged⟩ := staged_law.drop_meets s (staged_law.run_meets hs)
  obtain ⟨-, hwhole⟩ := whole_law.drop_meets s (whole_law.run_meets hs)
  obtain ⟨hlisteners, hrequests, htimers⟩ := drop_idle hs
  unfold Host.Meets at hstaged hwhole
  rw [hnone] at hstaged hwhole
  exact ⟨hnone, List.map_eq_nil_iff.mp hstaged.alive.eq_nil, hwhole.1, hlisteners, hrequests,
    htimers⟩

/-- Without a controller there is only the old session. -/
theorem Vacant.eq_anew (h : s.Vacant) : s.anew.upon s = s := by
  obtain ⟨⟨now, connected, lastId, listeners, requests, total, timers⟩,
    ⟨controller, ⟨catalogue, surface, loads, faults, line, log⟩⟩, reported⟩ := s
  obtain ⟨placed, free, created, released, depth, frames, mutations, outside⟩ := surface
  obtain ⟨rfl, rfl, hclosed, rfl, rfl, rfl⟩ := h
  have hdepth : depth = 0 := by simpa [Surface.isOpen] using hclosed
  subst hdepth
  simp [anew, Session.upon, Host.upon, World.upon, Surface.upon, ManualClock.upon,
    ManualClock.renamed]

theorem silent_of_none (hnone : s.host.controller = none) : s.Silent := by
  intro notice hcalls
  obtain ⟨clock, ⟨controller, world⟩, reported⟩ := s
  cases hnone
  cases notice with
  | failure => cases hcalls
  | _ => rfl

def Deserted (d : ManualClock × Host) : Prop := d.2.controller = none

theorem hear_deserted (notice : Notice) (id : ListenerId) (c : ManualClock) (h : Host)
    (hnone : Deserted (c, h)) : Deserted (Host.hear id notice c h).2 := by
  obtain ⟨controller, world⟩ := h
  cases hnone
  cases notice <;> rfl

theorem tell_deserted (notice : Notice) (id : ListenerId) (c : ManualClock) (h : Host)
    (hnone : Deserted (c, h)) : Deserted (c.tell Host.hear notice id h) :=
  ManualClock.tell_keeps (hear_deserted notice id c h hnone) fun _ _ h => h

/-- Steps that make no controller leave none. -/
theorem deserted_keeps : Keeps Deserted fun step => ∀ settings, step ≠ .create settings where
  move _ _ _ _ _ h := h
  burst _ _ _ h := ManualClock.vsyncBurst_keeps (fun _ _ _ h => h) (tell_deserted _) h
  timer token id c h := tell_deserted (.timer token) id c h
  broadcast _ _ _ _ h := ManualClock.broadcast_keeps (tell_deserted _) h
  failure _ _ _ h := ManualClock.failConnection_keeps (tell_deserted _) h
  deliver notice _ id c h := hear_deserted notice id c h
  faults _ _ _ _ h := h
  command _ _ h := by cases h
  drop _ s h := by
    rw [drop_of_none h]
    exact h
  create settings hallowed := absurd rfl (hallowed settings)

/-- Teardown leaves nothing behind.  Once a controller is dropped there is nothing of it on
the surface or with the clock, its listener is silent from its teardown on, and a controller
made afterwards does, step by step, what one made on a new surface and a new clock does.
The spots come ordered by layer; those of one layer, in no order. -/
theorem teardown_leaves_nothing {before : Session} (hbefore : before.Reachable) :
    let dropped := before.drop
    dropped.Vacant ∧
    ((∀ (c : Controller) (torn : Session), before.host.controller = some c →
        torn.host.controller =
          some (Live.mk c before.clock before.host.world).tearDown.controller → torn.Silent) ∧
      (∀ steps : List Step, (∀ step ∈ steps, ∀ settings, step ≠ .create settings) →
        (dropped.run steps).Silent) ∧
      ∀ (steps : List Step) (notice : Notice), notice.calls = true →
        (dropped.run steps).host.refuse notice = (.deregister, (dropped.run steps).host)) ∧
    ∀ (settings : Settings) (steps : List Step),
      let s := dropped.run (.create settings :: steps.map (.shift dropped.clock.lastId))
      let t := dropped.anew.run (.create settings :: steps)
      s = t.upon dropped ∧
      (∀ step : Step, (s.step (step.shift dropped.clock.lastId)).1 = (t.step step).1) ∧
      s.host.world.surface.pointer? = t.host.world.surface.pointer? ∧
      s.host.world.surface.spots.Perm t.host.world.surface.spots ∧
      s.host.world.surface.spots.map (·.layer) = t.host.world.surface.spots.map (·.layer) ∧
      ((t.host.world.surface.spots.map (·.layer)).Nodup →
        s.host.world.surface.spots = t.host.world.surface.spots) := by
  intro dropped
  have hvacant : dropped.Vacant := drop_vacant hbefore
  refine ⟨hvacant, ⟨?torn, ?later, ?ever⟩, ?likewise⟩
  case torn =>
    intro c torn _ htorn notice hcalls
    exact deliver_of_tornDown htorn rfl hcalls
  case later =>
    exact fun steps hsteps => silent_of_none
      (deserted_keeps.run steps hsteps dropped hvacant.controller)
  case ever =>
    intro steps notice hcalls
    cases notice with
    | failure => cases hcalls
    | _ => rfl
  case likewise =>
    intro settings steps s t
    have hanew : dropped.anew.host.Staged := Surface.owned_empty
    obtain ⟨hstaged, hrun⟩ := run_upon dropped (.create settings :: steps) hanew
    rw [hvacant.eq_anew] at hrun
    have hsame : s = t.upon dropped := hrun
    rw [hsame]
    exact ⟨rfl, fun step => congrArg (·.1) (step_upon dropped hstaged step),
      Surface.pointer?_upon _ hstaged.one_pointer, Surface.spots_upon_perm _,
      Surface.layers_upon _, Surface.spots_upon _⟩

/-- A controller with a pointer and a spot on the surface, and with a tick and a timer to
come, gives way to another that is asked for the same. -/
theorem teardown_leaves_nothing_of_two_sprites :
    let asked : List Step := [.command (.setViewport (.whole .builtin 800 600)),
      .command (.setSpots [⟨⟨1⟩, .origin, 1⟩] .builtin), .command (.reveal .gradual)]
    let before := (blank 0 true .plain).run (.create {} :: asked)
    let after := before.drop.run (.create {} :: asked)
    let anew := before.drop.anew.run (.create {} :: asked)
    (before.host.world.surface.placed.length = 2 ∧ before.clock.requests.length = 1 ∧
      before.clock.timers.length = 1) ∧
    before.drop.Vacant ∧ before.drop.Silent ∧
    after.host.world.surface.placed.length = 2 ∧ after = anew.upon before.drop := by
  intro asked before after anew
  have hbefore : before.Reachable := ⟨0, true, .plain, .create {} :: asked, rfl⟩
  obtain ⟨hvacant, ⟨-, hsilent, -⟩, hlikewise⟩ := teardown_leaves_nothing hbefore
  have hasked : asked.map (.shift before.drop.clock.lastId) = asked := rfl
  have hafter := hlikewise {} asked
  rw [hasked] at hafter
  exact ⟨by decide +kernel, hvacant, hsilent [] (by simp), by decide +kernel, hafter.1⟩

/-- Two contacts on one display. -/
def together : List Step :=
  [.create {}, .command (.setViewport (.whole .builtin 1080 1920)),
    .command (.setSpots [⟨⟨1⟩, ⟨10, 10⟩, 1⟩, ⟨⟨2⟩, ⟨20, 20⟩, 1⟩] .builtin)]

/-- The same contact on two displays, so both spots are on one layer. -/
def apart : List Step :=
  [.create {}, .command (.setViewport (.whole .builtin 1080 1920)),
    .command (.setSpots [⟨⟨1⟩, ⟨10, 10⟩, 1⟩] ⟨1⟩),
    .command (.setSpots [⟨⟨1⟩, ⟨10, 10⟩, 1⟩] .builtin)]

/-- Spots of one layer come in the order of their slots, and slots that were freed are taken
again last one first. -/
theorem spots_of_one_layer_change_places :
    let dropped := ((blank 0 true .plain).run together).drop
    (dropped.run apart).host.world.surface.spots.map (·.display) = [.builtin, ⟨1⟩] ∧
      (dropped.anew.run apart).host.world.surface.spots.map (·.display) = [⟨1⟩, .builtin] := by
  intro dropped
  -- After the drop the sprites stand in falling slots, on a new surface in rising ones.
  have hagain := Surface.spots_of_pairwise
    (List.reverse_perm (dropped.run apart).host.world.surface.placed) (by decide +kernel)
    (by decide +kernel)
  have hanew := Surface.spots_of_pairwise
    (List.Perm.refl (dropped.anew.run apart).host.world.surface.placed) (by decide +kernel)
    (by decide +kernel)
  rw [hagain, hanew]
  decide +kernel

end Session

end ScreenPointer
