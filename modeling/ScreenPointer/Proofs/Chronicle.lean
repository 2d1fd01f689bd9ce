/-
# The chronicle of a run

A step of a session may tell a controller many things: advancing fires timer after
timer, and frames come one after another.  The chronicle of a run lists everything
that controllers at work were told or asked, each with the state in which it found
them, and nothing of it depends on being written down.  `Chronicled` lists what each
kind of event must keep for a property of the chronicle and of the state to hold after
every run.  `Paced` does so for properties that hold only where the clock is never set back
and what comes is never ahead of it.
-/

import ScreenPointer.Proofs.Clock.Turns
import ScreenPointer.Proofs.Runs
import ScreenPointer.Proofs.Simulation

namespace ScreenPointer

inductive Cause
  | command (c : Command)
  | notice (n : Notice)
  deriving DecidableEq

def Live.follow (l : Live) : Cause → Live
  | .command c => l.perform c
  | .notice n => (l.receive n).2

/-- One thing that a controller was told or asked, and everything as it was before.  What came of
it is not noted but follows: see `Act.after`. -/
structure Act where
  before : Live
  cause : Cause

def Act.after (a : Act) : Live := a.before.follow a.cause

namespace Host

/-- What the controller at work does, if there is one. -/
def acts (h : Host) (clock : ManualClock) (cause : Cause) : List Act :=
  match h.controller with
  | some controller => [⟨⟨controller, clock, h.world⟩, cause⟩]
  | none => []

/-- Answer a notice as ever, and write it down. -/
def recount : Listeners (Host × List Act) := fun id notice clock (h, written) =>
  let (status, after, h') := hear id notice clock h
  (status, after, h', written ++ h.acts clock (.notice notice))

theorem recount_simulates :
    ManualClock.Simulates 0 0 (fun h (written : Host × List Act) => written.1 = h)
      hear recount := by
  rintro id notice clock h ⟨h', written⟩ rfl
  simp only [ManualClock.renamed_zero, ListenerId.shift_zero]
  exact ⟨rfl, (ManualClock.renamed_zero _).symm, rfl⟩

/-- To answer does not move the clock. -/
theorem recount_now (id : ListenerId) (notice : Notice) (c : ManualClock) (a : Host × List Act) :
    (recount id notice c a).2.1.now = c.now := by
  obtain ⟨⟨controller, world⟩, written⟩ := a
  cases controller with
  | none => rfl
  | some controller => exact Live.receive_now ⟨controller, c, world⟩ notice

theorem tell_recount_now (c : ManualClock) (notice : Notice) (id : ListenerId)
    (a : Host × List Act) : (c.tell recount notice id a).1.now = c.now :=
  ManualClock.tell_keeps (P := fun d => d.1.now = c.now) (recount_now id notice c a)
    fun _ _ h => h

/-- A timer that fires moves the clock to its deadline, but not back. -/
theorem fire_recount_now (t : Timer) (others : List Timer) (c : ManualClock)
    (a : Host × List Act) : (c.fire recount t others a).1.now = max c.now t.deadline := by
  unfold ManualClock.fire
  dsimp only
  split
  · exact tell_recount_now _ _ _ a
  · rfl

end Host

/-- The step does not set the clock back, and what it delivers is not ahead of the clock. -/
def Step.Steady (now : Nanos) : Step → Prop
  | .setNow later => now ≤ later
  | .advance delta => 0 ≤ delta
  | .broadcast events | .deliver (.events events) => ∀ t ∈ latestVsync? events, t ≤ now
  | _ => True

instance (now : Nanos) (step : Step) : Decidable (step.Steady now) := by
  unfold Step.Steady
  split <;> infer_instance

namespace Session

/-- No step of a run sets the clock back or delivers what is ahead of it. -/
def Steady (s : Session) : List Step → Prop
  | [] => True
  | step :: rest => step.Steady s.clock.now ∧ (s.step step).2.Steady rest

instance decidableSteady : (s : Session) → (steps : List Step) → Decidable (s.Steady steps)
  | _, [] => inferInstanceAs (Decidable True)
  | s, step :: rest =>
    have := decidableSteady (s.step step).2 rest
    inferInstanceAs (Decidable (_ ∧ _))

/-- What is written down after a step, on top of what was written before. -/
def writes (s : Session) (written : List Act) : Step → List Act
  | .vsync timestamp => (s.clock.vsync Host.recount timestamp (s.host, written)).2.2.2
  | .burst timestamps => (s.clock.vsyncBurst Host.recount timestamps (s.host, written)).2.2.2
  | .advance delta =>
    match s.clock.advance Host.recount s.clock.timers.length delta (s.host, written) with
    | some (_, _, _, written) => written
    | none => written
  | .frames frame limit => (s.clock.runFrames Host.recount frame limit (s.host, written)).2.2.2
  | .broadcast events => (s.clock.broadcast Host.recount events (s.host, written)).2.2.2
  | .failConnection => (s.clock.failConnection Host.recount (s.host, written)).2.2
  | .deliver notice => written ++ s.host.acts s.clock (.notice notice)
  | .command c => written ++ s.host.acts s.clock (.command c)
  | .rotate rotation =>
    written ++ s.host.acts s.clock (.command (.setViewport (s.reported.rotated rotation)))
  | .create _ | .drop | .setNow _ | .isRegistered _ | .setFaults _ | .pass => written

/-- Everything that controllers at work were told or asked in a run, on top of what was
written before. -/
def writesAll (s : Session) (written : List Act) : List Step → List Act
  | [] => written
  | step :: rest => (s.step step).2.writesAll (s.writes written step) rest

/-- Everything that controllers at work were told or asked in a run. -/
def chronicle (s : Session) (steps : List Step) : List Act := s.writesAll [] steps

/-- A property of clock, host and chronicle that allowed steps keep.  If they have to be steady,
there is one field for each thing that moves the clock, told at which time. -/
structure Paced (P : ManualClock × Host × List Act → Prop) (allowed : Step → Prop)
    (steady : Prop) : Prop where
  setNow : ∀ c a now, (steady → c.now ≤ now) → P (c, a) → P ({ c with now }, a)
  clear : ∀ c a now, (steady → c.now ≤ now) → P (c, a) → P ({ c with now, requests := [] }, a)
  fire : ∀ instant c a t others, ManualClock.takeDue instant c.timers = some (t, others) →
    P (c, a) → P (c.fire Host.recount t others a)
  events : ∀ events id c a, (steady → ∀ t ∈ latestVsync? events, t ≤ c.now) → P (c, a) →
    P (c.tell Host.recount (.events events) id a)
  failure : allowed .failConnection → ∀ id c a, P (c, a) → P (c.tell Host.recount .failure id a)
  deliver : ∀ notice, allowed (.deliver notice) → ∀ id c a,
    (steady → (Step.deliver notice).Steady c.now) → P (c, a) → P (Host.recount id notice c a).2
  faults : ∀ faults, allowed (.setFaults faults) → ∀ c h written, P (c, h, written) →
    P (c, { h with world.faults := faults }, written)
  command : ∀ (command : Command) (l : Live) written,
    P (l.clock, ⟨some l.controller, l.world⟩, written) →
    P ((l.perform command).clock,
      ⟨some (l.perform command).controller, (l.perform command).world⟩,
      written ++ [⟨l, .command command⟩])
  drop : allowed .drop → ∀ (s : Session) written, P (s.clock, s.host, written) →
    P (s.drop.clock, s.drop.host, written)
  create : ∀ settings, allowed (.create settings) → ∀ (s : Session) written,
    P (s.clock, s.host, written) →
    P ((s.drop.start settings).clock, (s.drop.start settings).host, written)

/-- What was delivered while writing is what would have been delivered anyway. -/
theorem of_inStep {P : ManualClock × Host × List Act → Prop} {d : ManualClock × Host}
    {a : ManualClock × Host × List Act}
    (hstep : ManualClock.InStep 0 0 (fun h written => written.1 = h) d a) (h : P a) :
    P (d.1, d.2, a.2.2) := by
  obtain ⟨hclock, hhost⟩ := hstep
  rw [ManualClock.renamed_zero] at hclock
  rw [← hclock, ← hhost]
  exact h

namespace Paced

variable {P : ManualClock × Host × List Act → Prop} {allowed : Step → Prop} {steady : Prop}

theorem command_step (law : Paced P allowed steady) (s : Session) (written : List Act)
    (command : Command) (h : P (s.clock, s.host, written)) :
    P ((s.command command).2.clock, (s.command command).2.host,
      written ++ s.host.acts s.clock (.command command)) := by
  obtain ⟨clock, ⟨controller, world⟩, reported⟩ := s
  cases controller with
  | none => simpa [Session.command, Session.live?, Host.acts] using h
  | some c =>
      have hperform := law.command command ⟨c, clock, world⟩ written h
      cases command <;> exact hperform

/-- Who is told together is told at the same time. -/
theorem tellAll (law : Paced P allowed steady) {events : List DisplayEvent} {now : Nanos}
    (htimely : steady → ∀ t ∈ latestVsync? events, t ≤ now) (ids : List ListenerId)
    (c : ManualClock) (a : Host × List Act) (hnow : c.now = now) (h : P (c, a)) :
    P (ManualClock.tellAll Host.recount (.events events) ids c a) := by
  refine (ManualClock.tellAll_keeps (P := fun d => d.1.now = now ∧ P d) ?_ ids c a ⟨hnow, h⟩).2
  rintro id c a ⟨rfl, h⟩
  exact ⟨Host.tell_recount_now c _ id a, law.events events id c a htimely h⟩

theorem vsyncBurst (law : Paced P allowed steady) (timestamps : List Nanos) (c : ManualClock)
    (a : Host × List Act) (h : P (c, a)) : P (c.vsyncBurst Host.recount timestamps a).2 := by
  unfold ManualClock.vsyncBurst
  split
  · exact h
  · rename_i last hlast
    have htimely : ∀ t ∈ latestVsync? (ManualClock.burstEvents timestamps),
        t ≤ max c.now last := by
      intro t ht
      rw [latestVsync?_burstEvents, hlast] at ht
      cases ht
      exact Int.le_max_right _ _
    exact law.tellAll (fun _ => htimely) _ _ a rfl
      (law.clear c a _ (fun _ => Int.le_max_left _ _) h)

/-- To advance is to fire what is due, and never to go past the instant. -/
theorem advanceTo (law : Paced P allowed steady) {instant : Nanos} {s : Session}
    (hsteady : steady → s.clock.now ≤ instant) (written : List Act) (room : Nat)
    (h : P (s.clock, s.host, written)) :
    ∀ out, ManualClock.advanceTo Host.recount instant room s.clock (s.host, written) = some out →
      P out.2 := by
  intro out hout
  refine (ManualClock.advanceTo_fires (P := fun d => (steady → d.1.now ≤ instant) ∧ P d)
    ?_ ?_ room s.clock (s.host, written) ⟨hsteady, h⟩ out hout).2
  · rintro c a ⟨hnow, h⟩
    exact ⟨fun _ => Int.le_refl _, law.setNow c a instant hnow h⟩
  · rintro c a t others hdue ⟨hnow, h⟩
    refine ⟨fun hpaced => ?_, law.fire instant c a t others hdue h⟩
    rw [Host.fire_recount_now]
    exact Int.max_le.mpr ⟨hnow hpaced, (ManualClock.takeDue_takes hdue).due⟩

theorem step (law : Paced P allowed steady) (s : Session) (written : List Act) (step : Step)
    (hallowed : allowed step) (hsteady : steady → step.Steady s.clock.now)
    (h : P (s.clock, s.host, written)) :
    P ((s.step step).2.clock, (s.step step).2.host, s.writes written step) := by
  cases step with
  | create settings => exact law.create settings hallowed s written h
  | drop => exact law.drop hallowed s written h
  | setNow now => exact law.setNow s.clock (s.host, written) now hsteady h
  | vsync timestamp =>
      have hstep := (ManualClock.vsyncBurst_inStep Host.recount_simulates [timestamp] s.clock
        (t := (s.host, written)) rfl).2
      rw [ManualClock.renamed_zero] at hstep
      exact of_inStep hstep (law.vsyncBurst [timestamp] s.clock (s.host, written) h)
  | burst timestamps =>
      have hstep := (ManualClock.vsyncBurst_inStep Host.recount_simulates timestamps s.clock
        (t := (s.host, written)) rfl).2
      rw [ManualClock.renamed_zero] at hstep
      exact of_inStep hstep (law.vsyncBurst timestamps s.clock (s.host, written) h)
  | advance delta =>
      have hstep := ManualClock.advanceTo_inStep Host.recount_simulates (s.clock.now + delta)
        s.clock.timers.length s.clock (t := (s.host, written)) rfl
      have hahead : steady → s.clock.now ≤ s.clock.now + delta := fun hpaced =>
        Int.le_add_of_nonneg_right (hsteady hpaced)
      have hfired := law.advanceTo hahead written s.clock.timers.length h
      rw [ManualClock.renamed_zero] at hstep
      simp only [Session.step, writes, ManualClock.advance]
      generalize ManualClock.advanceTo Host.hear _ _ _ _ = out at hstep ⊢
      generalize ManualClock.advanceTo Host.recount _ _ _ _ = out' at hstep hfired ⊢
      cases hstep with
      | none => exact h
      | some hstep => exact of_inStep hstep.2 (hfired _ rfl)
  | frames frame limit =>
      have hstep := (ManualClock.runFrames_inStep Host.recount_simulates frame limit s.clock
        (t := (s.host, written)) rfl).2
      rw [ManualClock.renamed_zero] at hstep
      exact of_inStep hstep (ManualClock.runFrames_keeps
        (fun t c a h => law.vsyncBurst [t] c a h) limit s.clock (s.host, written) h)
  | broadcast events =>
      have hstep := (ManualClock.broadcast_inStep Host.recount_simulates events s.clock
        (t := (s.host, written)) rfl).2
      rw [ManualClock.renamed_zero] at hstep
      exact of_inStep hstep (law.tellAll hsteady _ s.clock (s.host, written) rfl h)
  | failConnection =>
      have hstep := ManualClock.failConnection_inStep Host.recount_simulates s.clock
        (t := (s.host, written)) rfl
      rw [ManualClock.renamed_zero] at hstep
      exact of_inStep hstep (ManualClock.failConnection_keeps
        (fun id c a h => law.failure hallowed id c a h) h)
  | isRegistered id => exact h
  | setFaults faults => exact law.faults faults hallowed s.clock s.host written h
  | deliver notice =>
      exact law.deliver notice hallowed ⟨s.clock.lastId⟩ s.clock (s.host, written) hsteady h
  | pass => exact h
  | command command => exact law.command_step s written command h
  | rotate rotation => exact law.command_step s written _ h

/-- What allowed steps keep holds of the chronicle and the state after every run of them. -/
theorem run (law : Paced P allowed steady) (steps : List Step)
    (hallowed : ∀ step ∈ steps, allowed step) : ∀ (s : Session) (written : List Act),
      (steady → s.Steady steps) → P (s.clock, s.host, written) →
      P ((s.run steps).clock, (s.run steps).host, s.writesAll written steps) := by
  induction steps with
  | nil => exact fun _ _ _ h => h
  | cons step rest ih =>
      intro s written hsteady h
      obtain ⟨hstep, hrest⟩ := List.forall_mem_cons.mp hallowed
      exact ih hrest _ _ (fun hpaced => (hsteady hpaced).2)
        (law.step s written step hstep (fun hpaced => (hsteady hpaced).1) h)

end Paced

/-- A property of clock, host and chronicle that allowed steps keep, steady or not.  From it the
property holds after every run of such steps: see `Chronicled.run`. -/
structure Chronicled (P : ManualClock × Host × List Act → Prop) (allowed : Step → Prop) :
    Prop where
  setNow : ∀ c a now, P (c, a) → P ({ c with now }, a)
  clear : ∀ c a now, P (c, a) → P ({ c with now, requests := [] }, a)
  fire : ∀ instant c a t others, ManualClock.takeDue instant c.timers = some (t, others) →
    P (c, a) → P (c.fire Host.recount t others a)
  events : ∀ events id c a, P (c, a) → P (c.tell Host.recount (.events events) id a)
  failure : allowed .failConnection → ∀ id c a, P (c, a) → P (c.tell Host.recount .failure id a)
  deliver : ∀ notice, allowed (.deliver notice) → ∀ id c a, P (c, a) →
    P (Host.recount id notice c a).2
  faults : ∀ faults, allowed (.setFaults faults) → ∀ c h written, P (c, h, written) →
    P (c, { h with world.faults := faults }, written)
  command : ∀ (command : Command) (l : Live) written,
    P (l.clock, ⟨some l.controller, l.world⟩, written) →
    P ((l.perform command).clock,
      ⟨some (l.perform command).controller, (l.perform command).world⟩,
      written ++ [⟨l, .command command⟩])
  drop : allowed .drop → ∀ (s : Session) written, P (s.clock, s.host, written) →
    P (s.drop.clock, s.drop.host, written)
  create : ∀ settings, allowed (.create settings) → ∀ (s : Session) written,
    P (s.clock, s.host, written) →
    P ((s.drop.start settings).clock, (s.drop.start settings).host, written)

namespace Chronicled

variable {P : ManualClock × Host × List Act → Prop} {allowed : Step → Prop}

/-- What every step keeps needs no steadiness. -/
theorem paced (law : Chronicled P allowed) : Paced P allowed False where
  setNow c a now _ h := law.setNow c a now h
  clear c a now _ h := law.clear c a now h
  fire := law.fire
  events events id c a _ h := law.events events id c a h
  failure := law.failure
  deliver notice hallowed id c a _ h := law.deliver notice hallowed id c a h
  faults := law.faults
  command := law.command
  drop := law.drop
  create := law.create

theorem step (law : Chronicled P allowed) (s : Session) (written : List Act) (step : Step)
    (hallowed : allowed step) (h : P (s.clock, s.host, written)) :
    P ((s.step step).2.clock, (s.step step).2.host, s.writes written step) :=
  law.paced.step s written step hallowed False.elim h

/-- What allowed steps keep holds of the chronicle and the state after every run of them. -/
theorem run (law : Chronicled P allowed) (steps : List Step)
    (hallowed : ∀ step ∈ steps, allowed step) (s : Session) (written : List Act)
    (h : P (s.clock, s.host, written)) :
    P ((s.run steps).clock, (s.run steps).host, s.writesAll written steps) :=
  law.paced.run steps hallowed s written False.elim h

/-- A property that does not look at the clock is kept if hearing keeps it. -/
theorem of_hear {Q : Host × List Act → Prop}
    (hear : ∀ id notice c a, Q a → Q (Host.recount id notice c a).2.2)
    (faults : ∀ faults, allowed (.setFaults faults) → ∀ h written, Q (h, written) →
      Q ({ h with world.faults := faults }, written))
    (command : ∀ (command : Command) (l : Live) written,
      Q (⟨some l.controller, l.world⟩, written) →
      Q (⟨some (l.perform command).controller, (l.perform command).world⟩,
        written ++ [⟨l, .command command⟩]))
    (drop : allowed .drop → ∀ (s : Session) written, Q (s.host, written) → Q (s.drop.host, written))
    (create : ∀ settings, allowed (.create settings) → ∀ (s : Session) written,
      Q (s.host, written) → Q ((s.drop.start settings).host, written)) :
    Chronicled (fun d => Q d.2) allowed := by
  have tell : ∀ notice id c a, Q a → Q (ManualClock.tell Host.recount notice id c a).2 :=
    fun notice id c a h => ManualClock.tell_keeps (P := fun d => Q d.2)
      (hear id notice c a h) fun _ _ h => h
  refine ⟨fun _ _ _ h => h, fun _ _ _ h => h, fun instant c a t others _ h => ?_,
    fun events => tell (.events events), fun _ => tell .failure,
    fun notice _ id c a h => hear id notice c a h, fun f hf _ => faults f hf, command, drop,
    create⟩
  unfold ManualClock.fire
  dsimp only
  split
  · exact tell _ _ _ _ h
  · exact h

end Chronicled

end Session

/-! ## Laws of scenes -/

namespace SceneLaw

variable {bare : Catalogue → Surface → Prop} {staged : Scene → Prop}

theorem chronicled (law : SceneLaw bare staged) :
    Session.Chronicled (fun d => d.2.1.Meets bare staged ∧ ∀ act ∈ d.2.2, staged act.before.scene)
      fun _ => True := by
  apply Session.Chronicled.of_hear (Q := fun a : Host × List Act =>
    a.1.Meets bare staged ∧ ∀ act ∈ a.2, staged act.before.scene)
  case hear =>
    rintro id notice c ⟨h, written⟩ ⟨hmeets, hacts⟩
    refine ⟨law.hear_meets id notice c h hmeets, fun act hact => ?_⟩
    rcases List.mem_append.mp hact with hold | hnew
    · exact hacts act hold
    · obtain ⟨controller, world⟩ := h
      cases controller with
      | none => cases hnew
      | some controller =>
          cases List.mem_singleton.mp hnew
          exact hmeets
  case faults => exact fun _ _ _ _ h => h
  case command =>
    rintro command l written ⟨hmeets, hacts⟩
    refine ⟨law.perform l command hmeets, fun act hact => ?_⟩
    rcases List.mem_append.mp hact with hold | hnew
    · exact hacts act hold
    · cases List.mem_singleton.mp hnew
      exact hmeets
  case drop => exact fun _ s _ h => ⟨(law.drop_meets s h.1).2, h.2⟩
  case create =>
    intro settings _ s written h
    obtain ⟨hnone, hdrop⟩ := law.drop_meets s h.1
    exact ⟨law.start_meets s.drop settings hnone hdrop, h.2⟩

/-- A law of scenes holds whenever a controller is told or asked something. -/
theorem acts_meet (law : SceneLaw bare staged) (now : Nanos) (connected : Bool)
    (catalogue : Catalogue) (steps : List Step) :
    ∀ act ∈ (Session.blank now connected catalogue).chronicle steps, staged act.before.scene :=
  (law.chronicled.run steps (fun _ _ => trivial) (Session.blank now connected catalogue) []
    ⟨law.empty catalogue, fun _ h => by cases h⟩).2

end SceneLaw

end ScreenPointer
