/-
# One timeout, at most one fade

Every start of the inactivity timeout uses a new token, so a controller tells the
timer that is pending from those that were replaced, given up or refused, whenever
and however often they arrive.  Which token is armed is read off the chronicle: the
last one scheduled, if it was granted and neither a fade nor its own arrival came
after.  While timers come only from the clock, the clock holds the armed one and no
other.
-/

import ScreenPointer.Proofs.Timers
import ScreenPointer.Proofs.Wakeup

namespace ScreenPointer

namespace Act

/-- The tokens that an act schedules, granted or not. -/
def schedules (a : Act) : List TimerToken :=
  (a.after.world.line.drop a.before.world.line.length).filterMap LineRecord.scheduled?

def hides (a : Act) : Bool :=
  match a.cause with
  | .command (.hide _) => true
  | _ => false

def delivers (a : Act) (token : TimerToken) : Bool := a.cause = .notice (.timer token)

/-- When a timer that the act starts is due: after the delay that is then in force. -/
def due (a : Act) : Nanos :=
  a.before.clock.now +
    a.before.controller.settings.inactivityDelay a.after.controller.inactivity.timeout

theorem schedules_of_line {a : Act} {tokens : List TimerToken}
    (h : Schedules tokens a.before.world.line a.after.world.line) : a.schedules = tokens := by
  obtain ⟨records, hline, hscheduled⟩ := h
  rw [schedules, hline, List.drop_left, hscheduled]

end Act

/-- The last reset scheduled this token and was granted it, and since then there was
neither a fade nor a delivery of the token. -/
def Armed (token : TimerToken) (acts : List Act) : Prop :=
  ∃ earlier reset later, acts = earlier ++ reset :: later ∧
    reset.schedules = [token] ∧ reset.before.grantsTimer = true ∧
    ∀ act ∈ later, act.schedules = [] ∧ act.hides = false ∧ act.delivers token = false

/-- The tokens that acts schedule, each greater than those before. -/
def Increasing (acts : List Act) : Prop :=
  (acts.flatMap Act.schedules).Pairwise fun a b => a.number < b.number

/-- Of the timers that arrive the armed ones make the pointer fade, and the others change
nothing at all. -/
def OnlyArmedFade (acts : List Act) : Prop :=
  ∀ earlier act later token, acts = earlier ++ act :: later → act.delivers token = true →
    (Armed token earlier → act.after.controller.pointer.fade.direction = .out) ∧
    (¬ Armed token earlier → act.after = act.before)

/-- The clock holds the pending timer and no other.  It is due when the delay of the last
reset is over, unless that instant is too late to be written. -/
def Waiting (id : ListenerId) (pending : Option TimerToken) (acts : List Act)
    (timers : List Timer) : Prop :=
  match pending with
  | none => timers = []
  | some token => ∃ earlier reset later deadline, acts = earlier ++ reset :: later ∧
      reset.schedules = [token] ∧ (∀ act ∈ later, act.schedules = []) ∧
      timers = [⟨id, token, deadline⟩] ∧ (Nanos.Fits reset.due → deadline = reset.due)

/-! ## One more act -/

/-- An act among some and one more is that one or among the others. -/
theorem concat_eq_append_cons {α : Type} {acts earlier later : List α} {act last : α} :
    acts ++ [last] = earlier ++ act :: later ↔
      (acts = earlier ∧ last = act ∧ later = []) ∨
        ∃ between, later = between ++ [last] ∧ acts = earlier ++ act :: between := by
  rcases List.eq_nil_or_concat later with rfl | ⟨between, final, rfl⟩
  · simp
  · rw [List.concat_eq_append, ← List.cons_append, ← List.append_assoc, List.append_singleton_inj]
    constructor
    · rintro ⟨rfl, rfl⟩
      exact .inr ⟨between, rfl, rfl⟩
    · rintro (⟨-, -, h⟩ | ⟨other, heq, rfl⟩)
      · simp at h
      · obtain ⟨rfl, hlast⟩ := List.append_singleton_inj.mp heq
        exact ⟨rfl, hlast.symm⟩

/-- One more act arms a token or leaves it armed. -/
theorem armed_concat {token : TimerToken} {acts : List Act} {act : Act} :
    Armed token (acts ++ [act]) ↔
      (act.schedules = [token] ∧ act.before.grantsTimer = true) ∨
        (Armed token acts ∧ act.schedules = [] ∧ act.hides = false ∧
          act.delivers token = false) := by
  constructor
  · rintro ⟨earlier, reset, later, heq, hscheduled, hgranted, hlater⟩
    rcases concat_eq_append_cons.mp heq with ⟨rfl, rfl, rfl⟩ | ⟨between, rfl, rfl⟩
    · exact .inl ⟨hscheduled, hgranted⟩
    · rw [List.forall_mem_append, List.forall_mem_singleton] at hlater
      exact .inr ⟨⟨earlier, reset, between, rfl, hscheduled, hgranted, hlater.1⟩, hlater.2⟩
  · rintro (⟨hscheduled, hgranted⟩ | ⟨⟨earlier, reset, later, rfl, hscheduled, hgranted, hlater⟩,
      hquiet⟩)
    · exact ⟨acts, act, [], rfl, hscheduled, hgranted, by simp⟩
    · refine ⟨earlier, reset, later ++ [act], by simp, hscheduled, hgranted, ?_⟩
      rw [List.forall_mem_append, List.forall_mem_singleton]
      exact ⟨hlater, hquiet⟩

theorem increasing_concat {acts : List Act} {act : Act} :
    Increasing (acts ++ [act]) ↔
      Increasing acts ∧ act.schedules.Pairwise (fun a b => a.number < b.number) ∧
        ∀ a ∈ acts.flatMap Act.schedules, ∀ b ∈ act.schedules, a.number < b.number := by
  simp only [Increasing, List.flatMap_append, List.flatMap_singleton, List.pairwise_append]

/-- An armed token was scheduled. -/
theorem Armed.scheduled {token : TimerToken} {acts : List Act} (h : Armed token acts) :
    token ∈ acts.flatMap Act.schedules := by
  obtain ⟨earlier, reset, later, rfl, hscheduled, -, -⟩ := h
  simp [hscheduled]

theorem Live.hide_gradual_direction (l : Live) :
    (l.hide .gradual).controller.pointer.fade.direction = .out :=
  congrArg (·.controller.pointer.fade.direction) (startAnimation_scene _)

namespace Act

open Live (Quiet Times Timed)

/-- An act starts the timeout anew, or what was pending stays so unless it was given up or
has fired. -/
theorem times {a : Act} {id : ListenerId} (hlistener : a.before.controller.listener = some id)
    (hworking : a.before.controller.tornDown = false) :
    (∃ timers, Times [a.before.nextToken]
      (if a.before.grantsTimer then some a.before.nextToken else none) timers a.before a.after) ∨
    ∃ pending timers, Times [] pending timers a.before a.after ∧
      ∀ token, pending = some token ↔ a.before.controller.inactivity.pending = some token ∧
        a.hides = false ∧ a.delivers token = false := by
  obtain ⟨l, cause⟩ := a
  have htimed := Live.follow_timed hworking cause
  dsimp only [after] at *
  generalize l.follow cause = l' at htimed ⊢
  cases htimed with
  | @reset c timeout _ hides chosen rest =>
      have hrestart := (Live.restartInactivity_times (l := { l with
        controller.inactivity.timeout := timeout }) hlistener).quiet rest
      exact .inl ⟨_, { hrestart with }⟩
  | hidden transition rest =>
      refine .inr ⟨none, _, l.cancelInactivity_times.quiet rest, fun token => ?_⟩
      simp [Act.hides]
  | @fired token pending =>
      have hgone := (Live.cancelInactivity_times { l with
        controller.inactivity.pending := none }).quiet (Live.hide_works _ .gradual).quiet
      refine .inr ⟨none, _, { hgone with }, fun other => ?_⟩
      simp [Act.hides, Act.delivers, pending]
  | @stale token pending =>
      refine .inr ⟨_, _, Quiet.refl l, fun other => ?_⟩
      have hother : l.controller.inactivity.pending = some other → other ≠ token := by
        rintro heq rfl
        exact pending heq
      simpa [Act.hides, Act.delivers, eq_comm] using hother
  | other hides timer rest =>
      refine .inr ⟨_, _, rest, fun token => ?_⟩
      have hhides : Act.hides ⟨l, cause⟩ = false := by
        cases cause with
        | notice n => rfl
        | command c =>
            cases c with
            | hide transition => exact absurd rfl (hides transition)
            | _ => rfl
      have hdelivers : Act.delivers ⟨l, cause⟩ token = false := decide_eq_false (timer token)
      simp [hhides, hdelivers]

/-- The pending timer makes the pointer fade, and any other finds nothing to do. -/
theorem delivered {a : Act} {token : TimerToken} (hworking : a.before.controller.tornDown = false)
    (hdelivers : a.delivers token = true) :
    (a.before.controller.inactivity.pending = some token →
      a.after.controller.pointer.fade.direction = .out) ∧
    (a.before.controller.inactivity.pending ≠ some token → a.after = a.before) := by
  obtain ⟨l, cause⟩ := a
  cases of_decide_eq_true hdelivers
  have htimed := Live.follow_timed hworking (.notice (.timer token))
  dsimp only [after] at *
  generalize l.follow _ = l' at htimed ⊢
  cases htimed with
  | fired pending => exact ⟨fun _ => Live.hide_gradual_direction _, absurd pending⟩
  | stale pending => exact ⟨fun hpending => absurd hpending pending, fun _ => rfl⟩
  | other hides timer rest => exact absurd rfl (timer token)

end Act

/-- What a controller at work has kept of its acts since the line stood so: the timeout it takes for
pending is the armed one, and no token was used twice. -/
structure Tracks (id : ListenerId) (line : List LineRecord) (acts : List Act) (c : Controller)
    (world : World) : Prop where
  listener : c.listener = some id
  working : c.tornDown = false
  pending : ∀ token, c.inactivity.pending = some token ↔ Armed token acts
  line : Schedules (acts.flatMap Act.schedules) line world.line
  used : ∀ token ∈ acts.flatMap Act.schedules, token.number ≤ c.inactivity.lastToken
  increasing : Increasing acts
  fades : OnlyArmedFade acts

namespace Tracks

open Live (Times)

variable {id : ListenerId} {line : List LineRecord} {acts : List Act}

theorem onlyArmedFade_concat {a : Act}
    (h : Tracks id line acts a.before.controller a.before.world) : OnlyArmedFade (acts ++ [a]) := by
  intro earlier act later token heq hdelivers
  rcases concat_eq_append_cons.mp heq with ⟨rfl, rfl, rfl⟩ | ⟨between, rfl, rfl⟩
  · rw [← h.pending token]
    exact Act.delivered h.working hdelivers
  · exact h.fades earlier act between token rfl hdelivers

/-- The account holds of an act that schedules tokens greater than all before. -/
theorem of_times {a : Act} (h : Tracks id line acts a.before.controller a.before.world)
    {tokens : List TimerToken} {pending : Option TimerToken} {timers : List Timer}
    (htimes : Times tokens pending timers a.before a.after)
    (hpending : ∀ token, pending = some token ↔ Armed token (acts ++ [a]))
    (hsorted : tokens.Pairwise fun a b => a.number < b.number)
    (hfresh : ∀ token ∈ tokens, a.before.controller.inactivity.lastToken < token.number ∧
      token.number ≤ a.before.controller.inactivity.lastToken + tokens.length) :
    Tracks id line (acts ++ [a]) a.after.controller a.after.world := by
  have hscheduled := Act.schedules_of_line htimes.line
  have hall : (acts ++ [a]).flatMap Act.schedules = acts.flatMap Act.schedules ++ tokens := by
    rw [List.flatMap_append, List.flatMap_singleton, hscheduled]
  refine ⟨htimes.listener.trans h.listener, htimes.working.trans h.working, fun token => ?_,
    ?_, ?_, ?_, h.onlyArmedFade_concat⟩
  · rw [htimes.pending]
    exact hpending token
  · rw [hall]
    exact h.line.trans htimes.line
  · rw [hall, List.forall_mem_append, htimes.lastToken]
    exact ⟨fun token hmem => Nat.le_add_right_of_le (h.used token hmem),
      fun token hmem => (hfresh token hmem).2⟩
  · rw [increasing_concat, hscheduled]
    exact ⟨h.increasing, hsorted, fun earlier hearlier token hmem =>
      Nat.lt_of_le_of_lt (h.used earlier hearlier) (hfresh token hmem).1⟩

/-- One more act keeps the account. -/
theorem concat {a : Act} (h : Tracks id line acts a.before.controller a.before.world) :
    Tracks id line (acts ++ [a]) a.after.controller a.after.world := by
  rcases Act.times h.listener h.working with
    ⟨timers, htimes⟩ | ⟨pending, timers, htimes, hpending⟩
  · apply h.of_times htimes
    · intro token
      rw [armed_concat, Act.schedules_of_line htimes.line]
      simp [and_comm]
    · exact List.pairwise_singleton _ _
    · simp [Live.nextToken]
  · apply h.of_times htimes
    · intro token
      rw [armed_concat, Act.schedules_of_line htimes.line, ← h.pending token, hpending]
      simp
    · exact .nil
    · simp

/-- An answer on the line schedules nothing. -/
theorem answer {c : Controller} {world : World} (h : Tracks id line acts c world)
    (kind : NoticeKind) (status : ListenerStatus) :
    Tracks id line acts c (world.record (.answered kind status)) :=
  { h with line := List.append_nil (acts.flatMap _) ▸ h.line.trans (.record world.line _) }

end Tracks

/-! ## What the clock holds -/

/-- The controller at work is the one listener of the clock, and its timer the one timer. -/
structure Live.Waits (id : ListenerId) (acts : List Act) (l : Live) : Prop where
  listener : l.controller.listener = some id
  working : l.controller.tornDown = false
  listeners : l.clock.listeners = [id]
  timers : Waiting id l.controller.inactivity.pending acts l.clock.timers

namespace Live.Waits

variable {id : ListenerId} {acts : List Act} {l : Live}

theorem clearedTimers (h : Waits id acts l) : l.clearedTimers = [] := by
  have htimers := h.timers
  unfold Live.clearedTimers
  rw [h.listener]
  cases hpending : l.controller.inactivity.pending with
  | none =>
      rw [hpending] at htimers
      exact htimers
  | some token =>
      rw [hpending] at htimers
      obtain ⟨_, _, _, _, -, -, -, htimers, -⟩ := htimers
      simp [ManualClock.cancel, htimers]

/-- A timer that an act starts is the timer of the clock. -/
theorem of_started {a : Act} {timers : List Timer} {deadline : Nanos} (h : Waits id acts a.before)
    (htimes : Times [a.before.nextToken]
      (if a.before.grantsTimer then some a.before.nextToken else none) timers a.before a.after)
    (htimers : timers =
      if a.before.grantsTimer then [⟨id, a.before.nextToken, deadline⟩] else [])
    (hdue : Nanos.Fits a.due → deadline = a.due) : Waits id (acts ++ [a]) a.after := by
  refine ⟨htimes.listener.trans h.listener, htimes.working.trans h.working,
    htimes.listeners.trans h.listeners, ?_⟩
  rw [htimes.pending, htimes.timers, htimers]
  split
  · exact ⟨acts, a, [], deadline, rfl, Act.schedules_of_line htimes.line, by simp, rfl, hdue⟩
  · rfl

/-- Without a timeout pending the clock has no timer. -/
theorem of_none {a : Act} {timers : List Timer} (h : Waits id acts a.before)
    (htimes : Times [] none timers a.before a.after) (htimers : timers = []) :
    Waits id (acts ++ [a]) a.after := by
  refine ⟨htimes.listener.trans h.listener, htimes.working.trans h.working,
    htimes.listeners.trans h.listeners, ?_⟩
  rw [htimes.pending, htimes.timers, htimers]
  rfl

/-- A quiet act leaves the timer as it is. -/
theorem of_quiet {a : Act} (h : Waits id acts a.before) (hquiet : Quiet a.before a.after) :
    Waits id (acts ++ [a]) a.after := by
  refine ⟨hquiet.listener.trans h.listener, hquiet.working.trans h.working,
    hquiet.listeners.trans h.listeners, ?_⟩
  have htimers := h.timers
  rw [hquiet.pending, hquiet.timers]
  cases hpending : a.before.controller.inactivity.pending with
  | none =>
      rw [hpending] at htimers
      exact htimers
  | some token =>
      rw [hpending] at htimers
      obtain ⟨earlier, reset, later, deadline, rfl, hreset, hlater, htimers⟩ := htimers
      refine ⟨earlier, reset, later ++ [a], deadline, by simp, hreset, ?_, htimers⟩
      rw [List.forall_mem_append, List.forall_mem_singleton]
      exact ⟨hlater, Act.schedules_of_line hquiet.line⟩

/-- An act that is no timer keeps the clock in step with the controller. -/
theorem concat {a : Act} (h : Waits id acts a.before)
    (htimer : ∀ token, a.cause ≠ .notice (.timer token)) : Waits id (acts ++ [a]) a.after := by
  have htimed : Timed a.before a.cause a.after := Live.follow_timed h.working a.cause
  generalize hafter : a.after = l' at htimed
  generalize hcause : a.cause = cause at htimed htimer
  cases htimed with
  | @reset c timeout _ hides chosen rest =>
      subst hafter
      have hrestart := (Live.restartInactivity_times (l := { a.before with
        controller.inactivity.timeout := timeout }) h.listener).quiet rest
      apply h.of_started { hrestart with } (congrArg (· ++ _) h.clearedTimers)
      rw [Act.due, chosen]
      exact Live.deadline_of_fits (l := { a.before with
        controller.inactivity.timeout := timeout })
  | hidden transition rest =>
      subst hafter
      exact h.of_none (a.before.cancelInactivity_times.quiet rest) h.clearedTimers
  | fired pending => exact absurd rfl (htimer _)
  | stale pending => exact absurd rfl (htimer _)
  | other hides timer rest =>
      subst hafter
      exact h.of_quiet rest

/-- The timer of the clock is the pending one, and once it has fired there is none. -/
theorem fire {l : Live} (h : Waits id acts l) {instant : Nanos} {t : Timer} {others : List Timer}
    (hdue : ManualClock.takeDue instant l.clock.timers = some (t, others)) (now : Nanos) :
    let act : Act := ⟨{ l with clock := { l.clock with timers := others, now } },
      .notice (.timer t.token)⟩
    t.listener = id ∧ Waits id (acts ++ [act]) act.after := by
  intro act
  have htimers := h.timers
  cases hpending : l.controller.inactivity.pending with
  | none =>
      rw [hpending] at htimers
      rw [show l.clock.timers = [] from htimers] at hdue
      cases hdue
  | some token =>
      rw [hpending] at htimers
      obtain ⟨_, _, _, deadline, -, -, -, htimers, -⟩ := htimers
      have hwas : t = ⟨id, token, deadline⟩ ∧ others = [] := by
        rw [htimers] at hdue
        simp only [ManualClock.takeDue] at hdue
        split at hdue
        · cases hdue
          exact ⟨rfl, rfl⟩
        · cases hdue
      obtain ⟨rfl, rfl⟩ := hwas
      refine ⟨rfl, ?_⟩
      have hafter : act.after = { act.before with
          controller.inactivity.pending := none }.hide .gradual :=
        (Live.receive_timer (l := act.before) h.working token).trans
          (Live.timerFired_of_eq (l := act.before) hpending)
      have hfired := (Live.cancelInactivity_times { act.before with
        controller.inactivity.pending := none }).quiet (Live.hide_works _ .gradual).quiet
      rw [← hafter] at hfired
      refine ⟨hfired.listener.trans h.listener, hfired.working.trans h.working,
        hfired.listeners.trans h.listeners, ?_⟩
      rw [hfired.pending, hfired.timers]
      rfl

end Live.Waits

/-! ## Runs -/

namespace Session

def Waits (id : ListenerId) (d : ManualClock × Host × List Act) : Prop :=
  ∃ c, d.2.1.controller = some c ∧ (⟨c, d.1, d.2.1.world⟩ : Live).Waits id d.2.2

end Session

end ScreenPointer
