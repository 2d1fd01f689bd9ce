/-
# The inactivity timeout and its timer

What work does to the bookkeeping of the inactivity timeout and to the timers of the
clock.  Work that is not timed is quiet: it changes neither.  Giving the timeout up
takes its timer off the clock, and starting it anew schedules one timer under the
next token, if the line grants it.  So a clock never holds a timer of a listener
that it does not know.
-/

import ScreenPointer.Proofs.Chronicle
import ScreenPointer.Proofs.Drawing
import ScreenPointer.Proofs.Registration

namespace ScreenPointer

def LineRecord.scheduled? : LineRecord → Option TimerToken
  | .asked (.schedule _ token _) => some token
  | _ => none

/-- A delay is never negative. -/
theorem Settings.inactivityDelay_nonneg (s : Settings) (timeout : InactivityTimeout) :
    0 ≤ s.inactivityDelay timeout := by
  have hnonneg (ms : Nat) : 0 ≤ Nanos.ofMillis ms := by
    change (0 : Int) ≤ min (min (ms : Int) 0x7FFFFFFFFFFFFFFF * 1000000) 0x7FFFFFFFFFFFFFFF
    omega
  cases timeout <;> exact hnonneg _

/-- What one line has more than the other schedules these tokens, granted or not. -/
def Schedules (tokens : List TimerToken) (line line' : List LineRecord) : Prop :=
  ∃ records, line' = line ++ records ∧ records.filterMap LineRecord.scheduled? = tokens

namespace Schedules

theorem refl (line : List LineRecord) : Schedules [] line line :=
  ⟨[], (List.append_nil _).symm, rfl⟩

theorem record (line : List LineRecord) (r : LineRecord) :
    Schedules r.scheduled?.toList line (line ++ [r]) := by
  refine ⟨[r], rfl, ?_⟩
  cases h : r.scheduled? <;> simp [h]

theorem trans {first second : List TimerToken} {line₁ line₂ line₃ : List LineRecord}
    (h : Schedules first line₁ line₂) (h' : Schedules second line₂ line₃) :
    Schedules (first ++ second) line₁ line₃ := by
  obtain ⟨records, rfl, rfl⟩ := h
  obtain ⟨records', rfl, rfl⟩ := h'
  exact ⟨records ++ records', List.append_assoc .., List.filterMap_append⟩

end Schedules

namespace Live

/-- `l'` is `l` after these tokens were scheduled, with this timeout pending and these
timers on the clock. -/
structure Times (tokens : List TimerToken) (pending : Option TimerToken) (timers : List Timer)
    (l l' : Live) : Prop where
  settings : l'.controller.settings = l.controller.settings
  listener : l'.controller.listener = l.controller.listener
  working : l'.controller.tornDown = l.controller.tornDown
  now : l'.clock.now = l.clock.now
  listeners : l'.clock.listeners = l.clock.listeners
  pending : l'.controller.inactivity.pending = pending
  timers : l'.clock.timers = timers
  lastToken : l'.controller.inactivity.lastToken =
    l.controller.inactivity.lastToken + tokens.length
  line : Schedules tokens l.world.line l'.world.line

/-- Neither the timeout nor the timers of the clock have changed. -/
def Quiet (l l' : Live) : Prop :=
  Times [] l.controller.inactivity.pending l.clock.timers l l'

theorem Quiet.refl (l : Live) : Quiet l l :=
  ⟨rfl, rfl, rfl, rfl, rfl, rfl, rfl, rfl, .refl _⟩

/-- Quiet work afterwards changes nothing. -/
theorem Times.quiet {tokens : List TimerToken} {pending : Option TimerToken}
    {timers : List Timer} {l₁ l₂ l₃ : Live} (first : Times tokens pending timers l₁ l₂)
    (second : Quiet l₂ l₃) : Times tokens pending timers l₁ l₃ where
  settings := second.settings.trans first.settings
  listener := second.listener.trans first.listener
  working := second.working.trans first.working
  now := second.now.trans first.now
  listeners := second.listeners.trans first.listeners
  pending := second.pending.trans first.pending
  timers := second.timers.trans first.timers
  lastToken := second.lastToken.trans first.lastToken
  line := by simpa using first.line.trans second.line

theorem Quiet.trans {l₁ l₂ l₃ : Live} (first : Quiet l₁ l₂) (second : Quiet l₂ l₃) : Quiet l₁ l₃ :=
  Times.quiet first second

/-! ## Work that is not timed -/

theorem askTick_line (l : Live) (id : ListenerId) :
    (l.askTick id).2.world.line = l.world.line ++ [.asked (.tick id)] := by
  unfold askTick
  dsimp only
  split
  · rfl
  · split <;> rfl

theorem startAnimation_line (l : Live) :
    Schedules [] l.world.line l.startAnimation.world.line := by
  unfold startAnimation
  split
  · exact .refl _
  · dsimp only
    split
    · exact .refl _
    · rename_i id _
      have hasked := askTick_line { l with controller.scheduler := ⟨true, l.clock.now⟩ } id
      split
      · rename_i asked heq
        rw [heq] at hasked
        exact ⟨_, hasked, rfl⟩
      · rename_i error asked heq
        rw [heq] at hasked
        exact ⟨_, hasked, rfl⟩

theorem startAnimation_quiet (l : Live) : Quiet l l.startAnimation := by
  have hline := l.startAnimation_line
  obtain ⟨scheduler, clock, plan, line, log, hclock, heq⟩ := l.startAnimation_ticked
  rw [heq] at hline ⊢
  have hsame : clock.now = l.clock.now ∧ clock.listeners = l.clock.listeners ∧
      clock.timers = l.clock.timers := by
    rcases hclock with rfl | ⟨id, hrequest⟩
    · exact ⟨rfl, rfl, rfl⟩
    · exact ManualClock.requestTick_eq hrequest
  exact ⟨rfl, rfl, rfl, hsame.1, hsame.2.1, rfl, hsame.2.2, rfl, hline⟩

theorem quiet_of_dealings {l l' : Live} (h : l'.dealings = l.dealings) : Quiet l l' := by
  simp only [dealings, Dealings.mk.injEq] at h
  obtain ⟨hsettings, hlistener, -, hpending, hlast, hworking, hclock, -, hline⟩ := h
  refine ⟨hsettings, hlistener, hworking, ?_, ?_, hpending, ?_, hlast, ?_⟩
  · rw [hclock]
  · rw [hclock]
  · rw [hclock]
  · rw [hline]
    exact .refl _

/-- Work that is not timed is quiet. -/
theorem Works.quiet {l l' : Live} (work : Works false l l') : Quiet l l' := by
  induction work with
  | edit same => exact quiet_of_dealings same
  | start l => exact l.startAnimation_quiet
  | cancel l allowed => cases allowed
  | restart l allowed => cases allowed
  | trans first second ihFirst ihSecond => exact ihFirst.trans ihSecond

/-! ## Giving up and restarting -/

/-- Will the line grant a timer, should one be asked for? -/
def grantsTimer (l : Live) : Bool :=
  !l.world.faults.timer.next.1 && l.controller.listener.any l.clock.isRegistered

/-- The timers of the clock without that of the pending timeout. -/
def clearedTimers (l : Live) : List Timer :=
  match l.controller.inactivity.pending, l.controller.listener with
  | some token, some id => (l.clock.cancel id token).timers
  | _, _ => l.clock.timers

theorem clearedTimers_sublist (l : Live) : l.clearedTimers.Sublist l.clock.timers := by
  unfold clearedTimers
  split
  · exact List.filter_sublist
  · exact .refl _

/-- Giving up the timeout takes its timer off the clock. -/
theorem cancelInactivity_times (l : Live) : Times [] none l.clearedTimers l l.cancelInactivity := by
  unfold cancelInactivity clearedTimers
  dsimp only
  cases l.controller.inactivity.pending with
  | none => exact ⟨rfl, rfl, rfl, rfl, rfl, rfl, rfl, rfl, .refl _⟩
  | some token =>
      cases hlistener : l.controller.listener with
      | none => exact ⟨rfl, hlistener.symm, rfl, rfl, rfl, rfl, rfl, rfl, .refl _⟩
      | some id => exact ⟨rfl, hlistener.symm, rfl, rfl, rfl, rfl, rfl, rfl, .record _ _⟩

theorem cancelInactivity_plan (l : Live) :
    l.cancelInactivity.world.faults.timer = l.world.faults.timer := by
  unfold cancelInactivity
  dsimp only
  split <;> rfl

def nextToken (l : Live) : TimerToken := ⟨l.controller.inactivity.lastToken + 1⟩

def deadline (l : Live) : Nanos :=
  .after l.clock.now (l.controller.settings.inactivityDelay l.controller.inactivity.timeout)

theorem deadline_of_fits {l : Live} (h : Nanos.Fits (l.clock.now +
      l.controller.settings.inactivityDelay l.controller.inactivity.timeout)) :
    l.deadline =
      l.clock.now + l.controller.settings.inactivityDelay l.controller.inactivity.timeout := by
  unfold deadline Nanos.after
  rw [Int.max_eq_left (Settings.inactivityDelay_nonneg _ _)]
  exact Nanos.wrap_of_fits h

/-- Starting the timeout anew schedules one timer, if the line grants it. -/
theorem restartInactivity_times {l : Live} {id : ListenerId}
    (hlistener : l.controller.listener = some id) :
    Times [l.nextToken] (if l.grantsTimer then some l.nextToken else none)
      (l.clearedTimers ++ if l.grantsTimer then [⟨id, l.nextToken, l.deadline⟩] else [])
      l l.restartInactivity := by
  have hcancel := l.cancelInactivity_times
  have hplan := l.cancelInactivity_plan
  unfold restartInactivity askTimer ManualClock.schedule grantsTimer nextToken deadline
  dsimp only
  generalize l.cancelInactivity = gone at hcancel hplan ⊢
  have hown : gone.controller.listener = some id := hcancel.listener.trans hlistener
  have hlast : gone.controller.inactivity.lastToken = l.controller.inactivity.lastToken :=
    hcancel.lastToken
  have hregistered : gone.clock.isRegistered id = l.clock.isRegistered id := by
    rw [ManualClock.isRegistered, hcancel.listeners]
    rfl
  have hline (delay : Nanos) := hcancel.line.trans (.record gone.world.line
    (.asked (.schedule id ⟨l.controller.inactivity.lastToken + 1⟩ delay)))
  rw [hown]
  dsimp only
  rw [hplan, hlast, hregistered, hlistener, Option.any_some]
  cases hrefused : l.world.faults.timer.next.1 with
  | true =>
      exact ⟨hcancel.settings, hlistener.symm, hcancel.working, hcancel.now,
        hcancel.listeners, hcancel.pending, by simp [hcancel.timers], rfl, hline _⟩
  | false =>
      cases hgranted : l.clock.isRegistered id with
      | true =>
          refine ⟨hcancel.settings, hlistener.symm, hcancel.working, hcancel.now,
            hcancel.listeners, ?_, ?_, rfl, hline _⟩
          · simp
          · simp [hcancel.timers, hcancel.now]
      | false =>
          exact ⟨hcancel.settings, hlistener.symm, hcancel.working, hcancel.now,
            hcancel.listeners, hcancel.pending, by simp [hcancel.timers], rfl, hline _⟩

/-! ## What an act does to the timeout -/

/-- What being told or asked something does to the inactivity timeout. -/
inductive Timed (l : Live) : Cause → Live → Prop
  /-- The timeout is started anew, with the delay that is then in force. -/
  | reset {c : Command} {timeout : InactivityTimeout} {l' : Live}
    (hides : ∀ transition, c ≠ .hide transition)
    (chosen : l'.controller.inactivity.timeout = timeout)
    (rest : Quiet { l with controller.inactivity.timeout := timeout }.restartInactivity l') :
    Timed l (.command c) l'
  | hidden (transition : Transition) {l' : Live} (rest : Quiet l.cancelInactivity l') :
    Timed l (.command (.hide transition)) l'
  | fired {token : TimerToken} (pending : l.controller.inactivity.pending = some token) :
    Timed l (.notice (.timer token))
      ({ l with controller.inactivity.pending := none }.hide .gradual)
  /-- Any other timer finds nothing to do. -/
  | stale {token : TimerToken} (pending : l.controller.inactivity.pending ≠ some token) :
    Timed l (.notice (.timer token)) l
  | other {cause : Cause} {l' : Live} (hides : ∀ transition, cause ≠ .command (.hide transition))
    (timer : ∀ token, cause ≠ .notice (.timer token)) (rest : Quiet l l') : Timed l cause l'

theorem reveal_timeout (l : Live) (transition : Transition) :
    (l.reveal transition).controller.inactivity.timeout = l.controller.inactivity.timeout := by
  have hrestarted : l.restartInactivity.controller.inactivity.timeout =
      l.controller.inactivity.timeout :=
    congrArg (·.controller.inactivity.timeout) l.restartInactivity_scene
  cases transition with
  | immediate =>
      obtain ⟨_, _, _, _, _, hscene⟩ := present_scene { l.restartInactivity with
        controller.pointer.fade := ⟨1, .idle⟩ }
      exact (congrArg (·.controller.inactivity.timeout) hscene).trans hrestarted
  | gradual =>
      have hscene := startAnimation_scene { l.restartInactivity with
        controller.pointer.fade.direction := .into }
      exact (congrArg (·.controller.inactivity.timeout) hscene).trans hrestarted

theorem perform_timed (l : Live) (command : Command) :
    Timed l (.command command) (l.perform command) := by
  cases htimed : command.isTimed with
  | false =>
      refine .other (fun transition heq => ?_) (by nofun) (perform_untimed l htimed).quiet
      cases heq
      cases htimed
  | true =>
      cases command with
      | hide transition => exact .hidden transition (hide_works l transition).quiet
      | reveal transition =>
          exact .reset (by nofun) (reveal_timeout l transition) (reveal_works l transition).quiet
      | setTimeout timeout =>
          dsimp only [perform]
          split
          · exact .other (by nofun) (by nofun) (.refl l)
          · refine .reset (by nofun) ?_ (.refl _)
            exact congrArg (·.controller.inactivity.timeout) (restartInactivity_scene _)
      | _ => cases htimed

theorem receive_timer {l : Live} (hworking : l.controller.tornDown = false)
    (token : TimerToken) : (l.receive (.timer token)).2 = l.timerFired token := by
  dsimp only [receive]
  rw [hworking]
  rfl

theorem receive_timed {l : Live} (hworking : l.controller.tornDown = false) (notice : Notice) :
    Timed l (.notice notice) (l.receive notice).2 := by
  cases notice with
  | events events =>
      refine .other (by nofun) (by nofun) ?_
      dsimp only [receive]
      split
      · exact .refl l
      · rw [hworking]
        have hpending : Quiet l { l with controller.scheduler.pending := false } :=
          ⟨rfl, rfl, rfl, rfl, rfl, rfl, rfl, rfl, .refl _⟩
        exact hpending.trans (tick_works l _).quiet
  | timer token =>
      rw [receive_timer hworking]
      by_cases hpending : l.controller.inactivity.pending = some token
      · rw [timerFired_of_eq hpending]
        exact .fired hpending
      · rw [timerFired_of_ne hpending]
        exact .stale hpending
  | failure =>
      refine .other (by nofun) (by nofun) ?_
      exact ⟨rfl, rfl, rfl, rfl, rfl, rfl, rfl, rfl, .refl _⟩

theorem follow_timed {l : Live} (hworking : l.controller.tornDown = false) (cause : Cause) :
    Timed l cause (l.follow cause) := by
  cases cause with
  | command c => exact l.perform_timed c
  | notice notice => exact receive_timed hworking notice

end Live

/-! ## A timer schedules no other -/

theorem Live.receive_timer_timers (l : Live) (token : TimerToken) :
    (l.receive (.timer token)).2.clock.timers = l.clock.timers := by
  cases hworking : l.controller.tornDown with
  | true =>
      dsimp only [receive]
      rw [hworking]
      rfl
  | false =>
      rw [receive_timer hworking]
      by_cases hpending : l.controller.inactivity.pending = some token
      · rw [timerFired_of_eq hpending]
        have hgiven := { l with controller.inactivity.pending := none }.cancelInactivity_times
        exact (hgiven.quiet (hide_works _ .gradual).quiet).timers
      · rw [timerFired_of_ne hpending]

namespace Session

theorem hear_timer_timers (token : TimerToken) (id : ListenerId) (c : ManualClock) (h : Host) :
    (Host.hear id (.timer token) c h).2.1.timers = c.timers := by
  obtain ⟨controller, world⟩ := h
  cases controller with
  | none => rfl
  | some controller => exact Live.receive_timer_timers ⟨controller, c, world⟩ token

/-- The purse of a controller is empty. -/
theorem hear_paying : ManualClock.Paying Host.hear fun _ => 0 := by
  intro token id c h
  apply ManualClock.tell_keeps (P := fun d => d.1.timers.length ≤ c.timers.length)
  · exact Nat.le_of_eq (congrArg List.length (hear_timer_timers token id c h))
  · exact fun _ _ hle => Nat.le_trans (List.length_filter_le _ _) hle

/-- The clock of a session always comes to the end of an advance. -/
theorem step_advance (s : Session) (delta : Nanos) :
    ∃ out, s.clock.advance Host.hear s.clock.timers.length delta s.host = some out ∧
      s.step (.advance delta) = (.count out.1, s.after out.2) := by
  have hsome : (s.clock.advance Host.hear s.clock.timers.length delta s.host).isSome = true :=
    hear_paying.advanceTo_isSome (Nat.le_refl _)
  obtain ⟨out, hout⟩ := Option.isSome_iff_exists.mp hsome
  refine ⟨out, hout, ?_⟩
  dsimp only [step]
  rw [hout]

end Session

/-! ## Timers belong to registered listeners -/

/-- Every timer is one of a listener that the clock knows. -/
def ManualClock.Bound (c : ManualClock) : Prop := ∀ t ∈ c.timers, t.listener ∈ c.listeners

namespace ManualClock.Bound

variable {c : ManualClock}

theorem move (h : c.Bound) {timers : List Timer} (hsub : timers.Sublist c.timers) (now : Nanos)
    (requests : List ListenerId) : { c with timers, now, requests }.Bound :=
  fun t ht => h t (hsub.subset ht)

theorem forget (h : c.Bound) (id : ListenerId) : (c.forget id).Bound := by
  intro t ht
  obtain ⟨hmem, hother⟩ := List.mem_filter.mp ht
  exact List.mem_filter.mpr ⟨h t hmem, hother⟩

/-- A clock without listeners has no timers. -/
theorem timers_eq_nil (h : c.Bound) (hnone : c.listeners = []) : c.timers = [] := by
  apply List.eq_nil_iff_forall_not_mem.mpr
  intro t ht
  have hmem := h t ht
  rw [hnone] at hmem
  cases hmem

end ManualClock.Bound

namespace Live

theorem Times.bound {tokens : List TimerToken} {pending : Option TimerToken} {timers : List Timer}
    {l l' : Live} (h : Times tokens pending timers l l')
    (htimers : ∀ t ∈ timers, t.listener ∈ l.clock.listeners) : l'.clock.Bound := by
  intro t ht
  rw [h.timers] at ht
  rw [h.listeners]
  exact htimers t ht

theorem clearedTimers_bound {l : Live} (h : l.clock.Bound) :
    ∀ t ∈ l.clearedTimers, t.listener ∈ l.clock.listeners :=
  fun t ht => h t (l.clearedTimers_sublist.subset ht)

theorem restartInactivity_bound {l : Live} (h : l.clock.Bound) :
    l.restartInactivity.clock.Bound := by
  cases hlistener : l.controller.listener with
  | none =>
      have hcancelled : l.restartInactivity = l.cancelInactivity := by
        have hnone := l.cancelInactivity_times.listener.trans hlistener
        simp only [restartInactivity, hnone]
      rw [hcancelled]
      exact l.cancelInactivity_times.bound (clearedTimers_bound h)
  | some id =>
      apply (restartInactivity_times hlistener).bound
      intro t ht
      rcases List.mem_append.mp ht with hold | hnew
      · exact clearedTimers_bound h t hold
      · split at hnew
        · rename_i hgranted
          cases List.mem_singleton.mp hnew
          simpa [grantsTimer, hlistener, ManualClock.isRegistered] using
            (Bool.and_eq_true_iff.mp hgranted).2
        · cases hnew

theorem Works.bound {timed : Bool} {l l' : Live} (work : Works timed l l') :
    l.clock.Bound → l'.clock.Bound := by
  refine work.keeps (P := fun l => l.clock.Bound) (fun l l' hsame h => ?_)
    (fun l h => l.startAnimation_quiet.bound h)
    (fun l h => l.cancelInactivity_times.bound (clearedTimers_bound h))
    fun l => restartInactivity_bound
  have hclock : l'.clock = l.clock := congrArg Dealings.clock hsame
  rw [hclock]
  exact h

theorem receive_bound {l : Live} (h : l.clock.Bound) (notice : Notice) :
    (l.receive notice).2.clock.Bound := by
  cases notice with
  | events events =>
      dsimp only [receive]
      split
      · exact h
      · split
        · exact h
        · exact (tick_works l _).bound h
  | timer token =>
      dsimp only [receive]
      split
      · exact h
      · by_cases hpending : l.controller.inactivity.pending = some token
        · exact (timerFired_works hpending).bound h
        · rw [timerFired_of_ne hpending]
          exact h
  | failure => exact h

end Live

namespace Session

theorem hear_bound (notice : Notice) (id : ListenerId) (c : ManualClock) (h : Host)
    (hbound : c.Bound) : (Host.hear id notice c h).2.1.Bound := by
  obtain ⟨controller, world⟩ := h
  cases controller with
  | none => cases notice <;> exact hbound
  | some controller => exact Live.receive_bound (l := ⟨controller, c, world⟩) hbound notice

theorem tell_bound (notice : Notice) (id : ListenerId) (c : ManualClock) (h : Host)
    (hbound : c.Bound) : (c.tell Host.hear notice id h).1.Bound :=
  ManualClock.tell_keeps (P := fun d => d.1.Bound) (hear_bound notice id c h hbound)
    fun _ _ hb => hb.forget id

theorem drop_bound (s : Session) (hbound : s.clock.Bound) : s.drop.clock.Bound := by
  cases hc : s.host.controller with
  | none =>
      rw [drop_of_none hc]
      exact hbound
  | some c =>
      obtain ⟨line, hdrop⟩ := drop_of_some hc
      have hgone : (Live.mk c s.clock s.host.world).tearDown.clock.Bound := by
        rw [Live.tearDown_clock]
        exact (Live.cancelInactivity_times _).bound (Live.clearedTimers_bound hbound)
      rw [hdrop]
      cases c.listener with
      | none => exact hgone
      | some id => exact hgone.forget id

theorem start_bound (s : Session) (settings : Settings) (hbound : s.clock.Bound) :
    (s.start settings).clock.Bound := by
  unfold start
  dsimp only
  split
  · rename_i id clock hregister
    unfold ManualClock.register at hregister
    split at hregister
    · cases hregister
      exact fun t ht => List.mem_append_left _ (hbound t ht)
    · cases hregister
  · exact hbound

/-- Every step keeps timers with registered listeners. -/
theorem bound_keeps : Keeps (fun d => d.1.Bound) fun _ => True where
  move _ _ _ now hsub h := h.move hsub now _
  burst _ _ _ h := ManualClock.vsyncBurst_keeps (P := fun d => d.1.Bound)
    (fun _ _ now hb => hb.move (.refl _) now []) (tell_bound _) h
  timer token id c h := tell_bound (.timer token) id c h
  broadcast _ _ _ _ h :=
    ManualClock.broadcast_keeps (P := fun d => d.1.Bound) (tell_bound _) h
  failure _ _ _ h := ManualClock.failConnection_keeps (P := fun d => d.1.Bound) (tell_bound _) h
  deliver notice _ id c h := hear_bound notice id c h
  faults _ _ _ _ h := h
  command command l h := (Live.perform_works l command).bound h
  drop _ s h := s.drop_bound h
  create settings _ s h := s.drop.start_bound settings (s.drop_bound h)

theorem Reachable.bound {s : Session} (hs : s.Reachable) : s.clock.Bound := by
  obtain ⟨now, connected, catalogue, steps, rfl⟩ := hs
  exact bound_keeps.run steps (fun _ _ => trivial) (blank now connected catalogue)
    fun t ht => by cases ht

/-- Dropping a controller leaves a clock with nothing to wait for. -/
theorem drop_idle {s : Session} (hs : s.Reachable) :
    s.drop.clock.listeners = [] ∧ s.drop.clock.requests = [] ∧ s.drop.clock.timers = [] := by
  obtain ⟨-, hserves⟩ := drop_served s hs.served
  exact ⟨hserves.known_none, hserves.waiting_none,
    (s.drop_bound hs.bound).timers_eq_nil hserves.known_none⟩

end Session

end ScreenPointer
