/-
# No time is counted twice

A tick counts the time since the scheduler's reference.  Whatever starts to fade asks for a
tick, which refreshes the reference unless a tick is pending already, and a tick after which
something still fades refreshes it too, whether the next tick is granted or not.  So while
something fades or a tick is pending, what ticks have counted lies before the reference.

That supposes that the time between the reference and a tick can be written: a tick too early
for that counts as one that came very late.
-/

import ScreenPointer.Proofs.Repetition
import ScreenPointer.Proofs.Spots.Dimming

namespace ScreenPointer

/-! ## When the reference counts -/

namespace Controller

def Fading (c : Controller) : Prop := c.pointer.fade.direction ≠ .idle ∨ c.spots.Fades

instance (c : Controller) : Decidable c.Fading :=
  have : Decidable c.spots.Fades := decidable_of_iff' _ SpotPool.fades_iff_any
  inferInstanceAs (Decidable (_ ∨ _))

def Active (c : Controller) : Prop := c.scheduler.pending = true ∨ c.Fading

theorem fading_of_shading {c c' : Controller} (h : c'.shading = c.shading)
    (hfading : c'.Fading) : c.Fading := by
  obtain ⟨hfade, hspots⟩ := Prod.mk.inj h
  unfold Fading at hfading ⊢
  rwa [hfade, hspots] at hfading

/-- With the pointer at rest only its spots may fade. -/
theorem fading_of_still {c c' : Controller} (hstill : c'.pointer.fade.direction = .idle)
    (hspots : c'.spots = c.spots) (hfading : c'.Fading) : c.Fading := by
  rcases hfading with hmoves | hfades
  · exact absurd hstill hmoves
  · rw [hspots] at hfades
    exact .inr hfades

theorem Rests.not_fading {c : Controller} {defaultId : IconId} (h : c.Rests defaultId) :
    ¬ c.Fading := by
  rintro (hmoves | hfades)
  · exact hmoves h.fade
  · exact h.spots hfades

end Controller

namespace Live

variable {timed : Bool} {l l' l'' : Live}

/-- If `l'` is active, its reference is now or that of `l`, which was active. -/
structure Resumes (l l' : Live) : Prop where
  now : l'.clock.now = l.clock.now
  active : l'.controller.Active → l'.controller.scheduler.reference = l.clock.now ∨
    l.controller.Active ∧ l'.controller.scheduler.reference = l.controller.scheduler.reference

theorem Resumes.refl (l : Live) : Resumes l l := ⟨rfl, fun h => .inr ⟨h, rfl⟩⟩

theorem Resumes.trans (first : Resumes l l') (second : Resumes l' l'') : Resumes l l'' := by
  refine ⟨second.now.trans first.now, fun h => ?_⟩
  rcases second.active h with hnow | ⟨hactive, hsame⟩
  · exact .inl (hnow.trans first.now)
  · rcases first.active hactive with hnow | ⟨hearlier, hkept⟩
    · exact .inl (hsame.trans hnow)
    · exact .inr ⟨hearlier, hsame.trans hkept⟩

theorem Retimed.scheduler (h : Retimed l l') :
    l'.controller.scheduler = l.controller.scheduler := by
  obtain ⟨_, _, _, _, _, _, rfl⟩ := h
  rfl

theorem prompt_of_free (h : l.controller.scheduler.pending = false) : Prompt l := fun hpending =>
  absurd (h.symm.trans hpending) Bool.false_ne_true

/-- Work refreshes the reference or leaves it alone, and then makes no tick pending. -/
theorem Works.reference (work : Works timed l l') :
    l'.controller.scheduler.reference = l.clock.now ∨
      l'.controller.scheduler.reference = l.controller.scheduler.reference ∧
        (l'.controller.scheduler.pending = true → l.controller.scheduler.pending = true) := by
  induction work with
  | edit same =>
      rename_i first second
      have hscheduler : second.controller.scheduler = first.controller.scheduler :=
        congrArg Dealings.scheduler same
      rw [hscheduler]
      exact .inr ⟨rfl, id⟩
  | start l =>
      cases hpending : l.controller.scheduler.pending with
      | true =>
          rw [startAnimation_of_pending hpending]
          exact .inr ⟨rfl, fun _ => rfl⟩
      | false => exact .inl (startAnimation_reference (prompt_of_free hpending))
  | cancel l =>
      rw [l.cancelInactivity_retimed.scheduler]
      exact .inr ⟨rfl, id⟩
  | restart l =>
      rw [l.restartInactivity_retimed.scheduler]
      exact .inr ⟨rfl, id⟩
  | trans first second ihFirst ihSecond =>
      rcases ihSecond with hnow | ⟨hsame, hpending⟩
      · exact .inl (hnow.trans first.now)
      · rcases ihFirst with hnow | ⟨hkept, hearlier⟩
        · exact .inl (hsame.trans hnow)
        · exact .inr ⟨hsame.trans hkept, fun h => hearlier (hpending h)⟩

/-- Work that starts no fade. -/
theorem Works.resumes (work : Works timed l l')
    (hfading : l'.controller.Fading → l.controller.Fading) : Resumes l l' := by
  refine ⟨work.now, fun hactive => ?_⟩
  rcases work.reference with hnow | ⟨hsame, hpending⟩
  · exact .inl hnow
  · exact .inr ⟨hactive.imp hpending hfading, hsame⟩

/-- Whatever is asked to start may have begun to fade. -/
theorem Works.resumes_start (work : Works timed l l') : Resumes l l'.startAnimation := by
  refine ⟨(work.trans (.start l')).now, fun _ => ?_⟩
  cases hpending : l'.controller.scheduler.pending with
  | false =>
      exact .inl ((startAnimation_reference (prompt_of_free hpending)).trans work.now)
  | true =>
      rw [startAnimation_of_pending hpending]
      rcases work.reference with hnow | ⟨hsame, hearlier⟩
      · exact .inl hnow
      · exact .inr ⟨.inl (hearlier hpending), hsame⟩

theorem Works.resumes_startIf (work : Works timed l l') {needed : Bool}
    (hfading : needed = false → l'.controller.Fading → l.controller.Fading) :
    Resumes l (if needed then l'.startAnimation else l') := by
  cases needed with
  | true => exact work.resumes_start
  | false => exact work.resumes (hfading rfl)

theorem Works.resumes_of_shading (work : Works timed l l')
    (h : l'.controller.shading = l.controller.shading) : Resumes l l' :=
  work.resumes (Controller.fading_of_shading h)

theorem edit_resumes (hdealings : l'.dealings = l.dealings)
    (hshading : l'.controller.shading = l.controller.shading) : Resumes l l' :=
  have hedit : Works false l l' := .edit hdealings
  hedit.resumes_of_shading hshading

/-- After an edit that fades nothing. -/
theorem Resumes.after (h : Resumes l' l'') (hdealings : l'.dealings = l.dealings)
    (hshading : l'.controller.shading = l.controller.shading) : Resumes l l'' :=
  (edit_resumes hdealings hshading).trans h

/-! ## Commands -/

theorem present_resumes (l : Live) : Resumes l l.present :=
  (present_works l).resumes_of_shading l.present_shading

theorem place_resumes (l : Live) (p : Point) : Resumes l (l.place p) :=
  (place_works l p).resumes_of_shading (l.place_shading p)

theorem hide_resumes (l : Live) (transition : Transition) : Resumes l (l.hide transition) := by
  have hcancel : Works true l l.cancelInactivity := .cancel l rfl
  cases transition with
  | immediate =>
      have hended : Works true l { l.cancelInactivity with
          controller.pointer.fade := ⟨0, .idle⟩ } := hcancel.trans (.edit rfl)
      have hspots : l.cancelInactivity.controller.spots = l.controller.spots :=
        congrArg Prod.snd l.cancelInactivity_shading
      exact (hended.resumes (Controller.fading_of_still rfl hspots)).trans (present_resumes _)
  | gradual =>
      have hturned : Works true l { l.cancelInactivity with
          controller.pointer.fade.direction := .out } := hcancel.trans (.edit rfl)
      exact hturned.resumes_start

theorem reveal_resumes (l : Live) (transition : Transition) : Resumes l (l.reveal transition) := by
  have hrestart : Works true l l.restartInactivity := .restart l rfl
  cases transition with
  | immediate =>
      have hended : Works true l { l.restartInactivity with
          controller.pointer.fade := ⟨1, .idle⟩ } := hrestart.trans (.edit rfl)
      have hspots : l.restartInactivity.controller.spots = l.controller.spots :=
        congrArg Prod.snd l.restartInactivity_shading
      exact (hended.resumes (Controller.fading_of_still rfl hspots)).trans (present_resumes _)
  | gradual =>
      have hturned : Works true l { l.restartInactivity with
          controller.pointer.fade.direction := .into } := hrestart.trans (.edit rfl)
      exact hturned.resumes_start

/-- Spots that begin to fade ask for a tick. -/
theorem fadeAllSpots_resumes (l : Live) : Resumes l l.fadeAllSpots := by
  have hfaded : Works false l { l with controller.spots := l.controller.spots.fadeAll.2 } :=
    .edit rfl
  apply hfaded.resumes_startIf
  intro hstarted hfading
  exact hfading.imp_right (SpotPool.fades_of_fadeAll hstarted)

theorem loadIcons_resumes (l : Live) : Resumes l l.loadIcons :=
  (loadIcons_works l).resumes_of_shading l.loadIcons_shading

theorem applyViewport_resumes (l : Live) (viewport : Viewport) :
    Resumes l (l.applyViewport viewport) := by
  unfold applyViewport
  dsimp only
  split
  · exact .refl l
  · refine Resumes.trans ?_ (present_resumes _)
    split
    · refine Resumes.trans ?_ (fadeAllSpots_resumes _)
      split
      · exact (loadIcons_resumes _).after rfl rfl
      · exact edit_resumes rfl rfl
    · exact edit_resumes rfl rfl
    · exact edit_resumes rfl rfl

theorem setPresentation_resumes (l : Live) (presentation : Presentation) :
    Resumes l (l.setPresentation presentation) := by
  unfold setPresentation
  split
  · exact .refl l
  · refine Resumes.trans ?_ (present_resumes _)
    cases presentation with
    | pointer =>
        dsimp only
        refine Resumes.trans ?_ (fadeAllSpots_resumes _)
        split <;> exact edit_resumes rfl rfl
    | spot => exact edit_resumes rfl rfl

theorem setSpots_resumes (l : Live) (contacts : List Contact) (display : DisplayId) :
    Resumes l (l.setSpots contacts display) := by
  unfold setSpots
  split
  · rename_i icons _ _
    have hshown : ∀ surface : Surface, Works false l { l with
        controller.spots := (l.controller.spots.update contacts display icons.spots
          l.world.surface.openTransaction).2.1
        world.surface := surface } := fun _ => .edit rfl
    apply (hshown _).resumes_startIf
    intro hstarted hfading
    exact hfading.imp_right (SpotPool.fades_of_update hstarted)
  · exact .refl l

theorem perform_resumes (l : Live) (command : Command) : Resumes l (l.perform command) := by
  cases command with
  | moveBy dx dy =>
      dsimp only [perform]
      split
      · exact .refl l
      · exact place_resumes l _
  | place p => exact place_resumes l p
  | setButtons buttons => exact edit_resumes rfl rfl
  | hide transition => exact hide_resumes l transition
  | reveal transition => exact reveal_resumes l transition
  | present presentation => exact setPresentation_resumes l presentation
  | setSpots contacts display => exact setSpots_resumes l contacts display
  | clearSpots =>
      dsimp only [perform]
      split
      · exact fadeAllSpots_resumes l
      · exact .refl l
  | setTimeout timeout =>
      dsimp only [perform]
      split
      · exact .refl l
      · have hrestart : Works true { l with controller.inactivity.timeout := timeout }
            { l with controller.inactivity.timeout := timeout }.restartInactivity := .restart _ rfl
        exact (hrestart.resumes_of_shading (restartInactivity_shading _)).after rfl rfl
  | setViewport viewport => exact applyViewport_resumes l viewport
  | requestIcon id =>
      dsimp only [perform, requestIcon]
      split
      · exact .refl l
      · exact (present_resumes _).after rfl rfl
  | setCustomIcon icon => exact (present_resumes _).after rfl rfl
  | reload => exact (loadIcons_resumes l).trans (present_resumes _)

/-! ## Notices -/

theorem timerFired_resumes (l : Live) (token : TimerToken) : Resumes l (l.timerFired token) := by
  by_cases hpending : l.controller.inactivity.pending = some token
  · rw [timerFired_of_eq hpending]
    have hstopped : Resumes l { l with controller.inactivity.pending := none } :=
      ⟨rfl, fun h => .inr ⟨h, rfl⟩⟩
    exact hstopped.trans (hide_resumes _ _)
  · rw [timerFired_of_ne hpending]
    exact .refl l

/-- Whatever is active after a tick counts its time from now. -/
theorem tick_renews (l : Live) (timestamp : Nanos)
    (hactive : (l.tick timestamp).controller.Active) :
    (l.tick timestamp).controller.scheduler.reference = l.clock.now := by
  obtain ⟨worked, hworks, hticked | ⟨hticked, hrests⟩⟩ := l.tick_cases timestamp
  · rw [hticked, startAnimation_reference (hworks.prompt (prompt_of_free rfl))]
    exact hworks.now
  · rw [hticked] at hactive ⊢
    rcases hactive with hpending | hfading
    · exact (hworks.prompt (prompt_of_free rfl) hpending).trans hworks.now
    · exact absurd hfading (hrests l.world.catalogue.defaultId).not_fading

end Live

/-! ## Acts -/

namespace Act

variable {act : Act}

/-- The time that a tick hands to whatever fades. -/
def elapsed? (act : Act) : Option Nanos :=
  act.tick?.map act.before.controller.scheduler.elapsed

/-- If it is a tick, the time that lies between the reference and it can be written. -/
def Measured (act : Act) : Prop :=
  ∀ timestamp ∈ act.tick?, Nanos.Fits (timestamp - act.before.controller.scheduler.reference)

instance (act : Act) : Decidable act.Measured := inferInstanceAs (Decidable (∀ _ ∈ _, _))

theorem after_now (act : Act) : act.after.clock.now = act.before.clock.now := by
  obtain ⟨l, cause⟩ := act
  cases cause with
  | command command => exact (Live.perform_works l command).now
  | notice notice => exact Live.receive_now l notice

theorem after_resumes (hworking : act.before.controller.tornDown = false)
    (hnone : act.tick? = none) : act.before.Resumes act.after := by
  obtain ⟨l, cause⟩ := act
  cases cause with
  | command command => exact Live.perform_resumes l command
  | notice notice =>
      cases notice with
      | events events =>
          have hkept : (l.receive (.events events)).2 = l := by
            dsimp only [tick?] at hnone
            rw [Live.receive, hnone]
          change l.Resumes (l.receive (.events events)).2
          rw [hkept]
          exact .refl l
      | timer token =>
          change l.Resumes (l.receive (.timer token)).2
          rw [Live.receive_timer hworking]
          exact Live.timerFired_resumes l token
      | failure => exact ⟨rfl, fun h => .inr ⟨h, rfl⟩⟩

theorem after_of_tick (hworking : act.before.controller.tornDown = false) {timestamp : Nanos}
    (htick : act.tick? = some timestamp) : act.after = act.before.tick timestamp := by
  obtain ⟨l, command | notice⟩ := act
  · cases htick
  · cases notice with
    | events events =>
        change (l.receive (.events events)).2 = l.tick timestamp
        rw [Live.receive_vsync hworking htick]
    | timer token => cases htick
    | failure => cases htick

/-- A tick that can be measured counts no more than what lies between the reference and now. -/
theorem Measured.elapsed_le (hmeasured : act.Measured) {timestamp : Nanos}
    (htick : act.tick? = some timestamp) (htimely : timestamp ≤ act.before.clock.now)
    (hreference : act.before.controller.scheduler.reference ≤ act.before.clock.now) :
    act.before.controller.scheduler.elapsed timestamp ≤
      act.before.clock.now - act.before.controller.scheduler.reference := by
  rw [Scheduler.elapsed, Nanos.since, Nanos.wrap_of_fits (hmeasured timestamp htick)]
  exact Int.max_le.mpr ⟨Int.sub_le_sub_right htimely _, Int.sub_nonneg_of_le hreference⟩

end Act

/-- The time that ticks have counted that found something fading. -/
def spent (acts : List Act) : Nanos :=
  ((acts.filter fun act => act.before.controller.Fading).filterMap Act.elapsed?).sum

theorem spent_concat (acts : List Act) (act : Act) :
    spent (acts ++ [act]) =
      spent acts + if act.before.controller.Fading then act.elapsed?.getD 0 else 0 := by
  unfold spent
  rw [List.filter_append, List.filterMap_append, List.sum_append]
  by_cases hfading : act.before.controller.Fading
  · cases helapsed : act.elapsed? <;> simp [hfading, helapsed]
  · simp [hfading]

/-- An active controller's reference is past.  So is what ticks have counted since `start`, as
long as they could be measured, and the reference of an active controller is not before it. -/
structure Account (start : Nanos) (d : ManualClock × Host × List Act) : Prop where
  staged : d.2.1.Meets (fun _ surface => surface.Owned []) fun v => ∃ pointer, v.Staged pointer
  timely : ∀ c, d.2.1.controller = some c → c.Active → c.scheduler.reference ≤ d.1.now
  past : (∀ act ∈ d.2.2, act.Measured) → start + spent d.2.2 ≤ d.1.now
  counted : (∀ act ∈ d.2.2, act.Measured) → ∀ c, d.2.1.controller = some c → c.Active →
    start + spent d.2.2 ≤ c.scheduler.reference

namespace Account

variable {start : Nanos} {c c' : ManualClock} {h : Host} {acts : List Act}

theorem later {a : Host × List Act} (account : Account start (c, a)) (hnow : c.now ≤ c'.now) :
    Account start (c', a) where
  staged := account.staged
  timely controller hc hactive := (account.timely controller hc hactive).trans hnow
  past hmeasured := (account.past hmeasured).trans hnow
  counted := account.counted

section Acts

variable {act : Act} (account : Account start
  (act.before.clock, ⟨some act.before.controller, act.before.world⟩, acts))
include account

theorem working : act.before.controller.tornDown = false := by
  obtain ⟨pointer, hstaged⟩ : ∃ pointer, act.before.scene.Staged pointer := account.staged
  exact hstaged.kept.working

theorem staged_after : ∃ pointer, act.after.scene.Staged pointer := by
  obtain ⟨l, command | notice⟩ := act
  · exact staged_law.perform l command account.staged
  · exact staged_law.receive l notice account.staged

/-- An act that is no tick counts nothing. -/
theorem concat_of_none (hnone : act.tick? = none) : Account start
    (act.after.clock, ⟨some act.after.controller, act.after.world⟩, acts ++ [act]) := by
  have hpast : (∀ act ∈ acts, act.Measured) → start + spent acts ≤ act.before.clock.now :=
    account.past
  have hspent : spent (acts ++ [act]) = spent acts := by
    rw [spent_concat, Act.elapsed?, hnone]
    simp
  have hresumes := Act.after_resumes account.working hnone
  refine ⟨account.staged_after, ?timely, ?past, ?counted⟩
  case timely =>
    rintro controller hc hactive
    cases hc
    rw [act.after_now]
    rcases hresumes.active hactive with hnow | ⟨hearlier, hsame⟩
    · exact hnow.le
    · exact hsame.trans_le (account.timely _ rfl hearlier)
  case past =>
    intro hmeasured
    rw [hspent, act.after_now]
    exact hpast (List.forall_mem_append.mp hmeasured).1
  case counted =>
    rintro hmeasured controller hc hactive
    have hbefore := (List.forall_mem_append.mp hmeasured).1
    cases hc
    rw [hspent]
    rcases hresumes.active hactive with hnow | ⟨hearlier, hsame⟩
    · rw [hnow]
      exact hpast hbefore
    · rw [hsame]
      exact account.counted hbefore _ rfl hearlier

/-- A tick of something fading counts what lies between the reference and now at most. -/
theorem spent_of_tick {timestamp : Nanos} (htick : act.tick? = some timestamp)
    (htimely : timestamp ≤ act.before.clock.now)
    (hmeasured : ∀ earlier ∈ acts ++ [act], earlier.Measured) :
    start + spent (acts ++ [act]) ≤ act.before.clock.now := by
  obtain ⟨hbefore, hact⟩ := List.forall_mem_append.mp hmeasured
  rw [List.forall_mem_singleton] at hact
  rw [spent_concat, Act.elapsed?, htick]
  split
  · rename_i hfading
    have hcounted : start + spent acts ≤ act.before.controller.scheduler.reference :=
      account.counted hbefore _ rfl (.inr hfading)
    have helapsed := hact.elapsed_le htick htimely (account.timely _ rfl (.inr hfading))
    calc start + (spent acts + act.before.controller.scheduler.elapsed timestamp)
        = start + spent acts + act.before.controller.scheduler.elapsed timestamp :=
          (Int.add_assoc _ _ _).symm
      _ ≤ act.before.controller.scheduler.reference +
          (act.before.clock.now - act.before.controller.scheduler.reference) :=
        Int.add_le_add hcounted helapsed
      _ = act.before.clock.now := add_sub_cancel _ _
  · rw [Int.add_zero]
    exact account.past hbefore

/-- It leaves a reference that is now. -/
theorem concat_of_tick {timestamp : Nanos} (htick : act.tick? = some timestamp)
    (htimely : timestamp ≤ act.before.clock.now) : Account start
    (act.after.clock, ⟨some act.after.controller, act.after.world⟩, acts ++ [act]) := by
  have hrenewed : ∀ controller, some act.after.controller = some controller →
      controller.Active → controller.scheduler.reference = act.before.clock.now := by
    rintro controller hc hactive
    cases hc
    rw [Act.after_of_tick account.working htick] at hactive ⊢
    exact Live.tick_renews act.before timestamp hactive
  refine ⟨account.staged_after, fun controller hc hactive => ?_, fun hmeasured => ?_,
    fun hmeasured controller hc hactive => ?_⟩
  · rw [act.after_now]
    exact (hrenewed controller hc hactive).le
  · rw [act.after_now]
    exact account.spent_of_tick htick htimely hmeasured
  · rw [hrenewed controller hc hactive]
    exact account.spent_of_tick htick htimely hmeasured

end Acts

/-- One more act that is not ahead of the clock. -/
theorem concat (act : Act)
    (account : Account start
      (act.before.clock, ⟨some act.before.controller, act.before.world⟩, acts))
    (htimely : ∀ timestamp ∈ act.tick?, timestamp ≤ act.before.clock.now) :
    Account start
      (act.after.clock, ⟨some act.after.controller, act.after.world⟩, acts ++ [act]) := by
  cases htick : act.tick? with
  | none => exact account.concat_of_none htick
  | some timestamp => exact account.concat_of_tick htick (htimely timestamp htick)

/-- Whoever hears of nothing ahead of the clock keeps the account. -/
theorem recount (account : Account start (c, h, acts)) (notice : Notice)
    (hsteady : (Step.deliver notice).Steady c.now) (id : ListenerId) :
    Account start (Host.recount id notice c (h, acts)).2 := by
  obtain ⟨controller, world⟩ := h
  cases controller with
  | none =>
      have hkept : Account start (c, ⟨none, world⟩, acts ++ []) := by
        rw [List.append_nil]
        exact account
      cases notice <;> exact ⟨hkept.staged, hkept.timely, hkept.past, hkept.counted⟩
  | some controller =>
      have hnext := account.concat ⟨⟨controller, c, world⟩, .notice notice⟩ (by
        cases notice with
        | events events => exact hsteady
        | timer token => exact fun _ h => by cases h
        | failure => exact fun _ h => by cases h)
      exact ⟨hnext.staged, hnext.timely, hnext.past, hnext.counted⟩

theorem tell (account : Account start (c, h, acts)) (notice : Notice)
    (hsteady : (Step.deliver notice).Steady c.now) (id : ListenerId) :
    Account start (c.tell Host.recount notice id (h, acts)) :=
  ManualClock.tell_keeps (account.recount notice hsteady id) fun _ _ h => h.later (Int.le_refl _)

end Account

namespace Session

end Session

end ScreenPointer
