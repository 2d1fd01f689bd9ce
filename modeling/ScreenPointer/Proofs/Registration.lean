/-
# Who is registered

In a session the clock knows no listener but that of the controller at work, and
only a listener it knows waits for a vsync.  Whatever happens on the line, faults
and failures included, keeps this, so a vsync reaches a controller at most once.
-/

import ScreenPointer.Proofs.Runs

namespace ScreenPointer

/-- The clock knows at most this listener, and no other one waits for a vsync.  A session has one
controller at a time, so nothing is left of the listeners before. -/
structure ManualClock.Serves (c : ManualClock) (listener : Option ListenerId) : Prop where
  known : c.listeners = [] ∨ c.listeners = listener.toList
  waiting : c.requests = [] ∨ c.requests = c.listeners

namespace ManualClock.Serves

variable {c : ManualClock} {listener : Option ListenerId}

theorem known_none (h : c.Serves none) : c.listeners = [] := h.known.elim id id

theorem waiting_none (h : c.Serves none) : c.requests = [] := by
  have hwaiting := h.waiting
  rw [h.known_none] at hwaiting
  exact hwaiting.elim id id

theorem move (h : c.Serves listener) (timers : List Timer) (now : Nanos) :
    { c with timers, now }.Serves listener :=
  ⟨h.known, h.waiting⟩

theorem clear (h : c.Serves listener) (now : Nanos) :
    { c with now, requests := [] }.Serves listener :=
  ⟨h.known, .inl rfl⟩

theorem forget (h : c.Serves listener) (id : ListenerId) : (c.forget id).Serves listener := by
  refine ⟨?_, ?_⟩
  · unfold ManualClock.forget
    dsimp only
    rcases h.known with hnone | hsome
    · rw [hnone]
      exact .inl rfl
    · rw [hsome]
      cases listener with
      | none => exact .inl rfl
      | some own =>
          by_cases hown : own = id
          · exact .inl (by simp [hown])
          · exact .inr (by simp [hown])
  · unfold ManualClock.forget
    dsimp only
    rcases h.waiting with hnone | hsome
    · rw [hnone]
      exact .inl rfl
    · rw [hsome]
      exact .inr rfl

/-- Without its listener a clock serves nobody. -/
theorem forget_own {id : ListenerId} (h : c.Serves (some id)) : (c.forget id).Serves none := by
  have hknown : (c.forget id).listeners = [] := by
    unfold ManualClock.forget
    dsimp only
    rcases h.known with hnone | hsome
    · rw [hnone]
      rfl
    · rw [hsome]
      simp
  exact ⟨.inl hknown, (h.forget id).waiting⟩

theorem requestTick {c' : ManualClock} {id : ListenerId} (h : c.Serves listener)
    (hrequest : c.requestTick id = .ok c') : c'.Serves listener := by
  unfold ManualClock.requestTick at hrequest
  split at hrequest
  · rename_i hregistered
    cases hrequest
    refine ⟨h.known, ?_⟩
    have hmem : id ∈ c.listeners := by simpa [isRegistered] using hregistered
    rcases h.known with hnone | hsome
    · rw [hnone] at hmem
      cases hmem
    · cases listener with
      | none =>
          rw [hsome] at hmem
          cases hmem
      | some own =>
          rw [hsome] at hmem
          have hown : id = own := by simpa using hmem
          rcases h.waiting with hempty | hall
          · exact .inr (by simp [hempty, hsome, hown])
          · exact .inr (by simp [hall, hsome, hown])
  · cases hrequest

end ManualClock.Serves

namespace Live

def Served (l : Live) : Prop := l.clock.Serves l.controller.listener

variable {l : Live}

theorem Ticked.served {l l' : Live} (h : Ticked l l') (hserved : l.Served) : l'.Served := by
  obtain ⟨_, _, _, _, _, hclock, rfl⟩ := h
  rcases hclock with rfl | ⟨id, hrequest⟩
  · exact hserved
  · exact hserved.requestTick hrequest

theorem Retimed.served {l l' : Live} (h : Retimed l l') (hserved : l.Served) : l'.Served := by
  obtain ⟨_, _, _, _, _, _, rfl⟩ := h
  exact ⟨hserved.known, hserved.waiting⟩

theorem Works.served {timed : Bool} {l l' : Live} (work : Works timed l l') :
    l.Served → l'.Served := by
  refine work.keeps (P := Served) (fun l l' hsame h => ?_)
    (fun l => l.startAnimation_ticked.served) (fun l => l.cancelInactivity_retimed.served)
    fun l => l.restartInactivity_retimed.served
  have hclock : l'.clock = l.clock := congrArg Dealings.clock hsame
  have hlistener : l'.controller.listener = l.controller.listener :=
    congrArg Dealings.listener hsame
  unfold Served
  rw [hclock, hlistener]
  exact h

theorem receive_served (h : l.Served) (notice : Notice) : (l.receive notice).2.Served := by
  cases notice with
  | events events =>
      dsimp only [receive]
      split
      · exact h
      · split
        · exact h
        · rename_i timestamp _ _
          exact (tick_works l timestamp).served h
  | timer token =>
      dsimp only [receive]
      split
      · exact h
      · by_cases hpending : l.controller.inactivity.pending = some token
        · exact (timerFired_works hpending).served h
        · rw [timerFired_of_ne hpending]
          exact h
  | failure => exact h

/-- Of its clock, a controller that is taken down only gives up its timer. -/
theorem tearDown_clock (l : Live) : l.tearDown.clock = l.cancelInactivity.clock := by
  unfold tearDown
  dsimp only
  split <;> rfl

theorem tearDown_faults (l : Live) :
    l.tearDown.world.faults = l.cancelInactivity.world.faults := by
  unfold tearDown
  dsimp only
  split <;> rfl

end Live

namespace Session

def Served (d : ManualClock × Host) : Prop := d.1.Serves (d.2.controller.bind (·.listener))

theorem hear_served (notice : Notice) (id : ListenerId) (c : ManualClock) (h : Host)
    (hserved : Served (c, h)) : Served (Host.hear id notice c h).2 := by
  obtain ⟨controller, world⟩ := h
  cases controller with
  | none => cases notice <;> exact hserved
  | some controller => exact Live.receive_served (l := ⟨controller, c, world⟩) hserved notice

theorem tell_served (notice : Notice) (id : ListenerId) (c : ManualClock) (h : Host)
    (hserved : Served (c, h)) : Served (c.tell Host.hear notice id h) :=
  ManualClock.tell_keeps (hear_served notice id c h hserved) fun _ _ hs => hs.forget id

theorem drop_served (s : Session) (hserved : Served (s.clock, s.host)) :
    s.drop.host.controller = none ∧ s.drop.clock.Serves none := by
  cases hc : s.host.controller with
  | none =>
      rw [drop_of_none hc]
      unfold Served at hserved
      rw [hc] at hserved
      exact ⟨hc, hserved⟩
  | some c =>
      obtain ⟨line, hdrop⟩ := drop_of_some hc
      have hgone : (Live.mk c s.clock s.host.world).cancelInactivity.Served := by
        apply (Live.cancelInactivity_retimed _).served
        unfold Served at hserved
        rw [hc] at hserved
        exact hserved
      have hlistener : (Live.mk c s.clock s.host.world).cancelInactivity.controller.listener =
          c.listener := by
        obtain ⟨_, _, _, _, _, _, heq⟩ :=
          (Live.mk c s.clock s.host.world).cancelInactivity_retimed
        rw [heq]
      unfold Live.Served at hgone
      rw [hlistener, ← Live.tearDown_clock] at hgone
      rw [hdrop]
      refine ⟨rfl, ?_⟩
      cases hid : c.listener with
      | none =>
          rw [hid] at hgone
          exact hgone
      | some id =>
          rw [hid] at hgone
          exact hgone.forget_own

theorem start_served (s : Session) (settings : Settings) (h : s.clock.Serves none) :
    Served ((s.start settings).clock, (s.start settings).host) := by
  unfold Session.start
  dsimp only
  split
  · rename_i id clock hregister
    unfold ManualClock.register at hregister
    split at hregister
    · cases hregister
      refine ⟨.inr ?_, .inl h.waiting_none⟩
      dsimp only
      rw [h.known_none]
      rfl
    · cases hregister
  · exact h

/-- Every step keeps the clock from serving anybody else. -/
theorem served_keeps : Keeps Served fun _ => True where
  move _ _ timers now _ h := h.move timers now
  burst _ _ _ h :=
    ManualClock.vsyncBurst_keeps (fun _ _ now hs => hs.clear now) (tell_served _) h
  timer token id c h := tell_served (.timer token) id c h
  broadcast _ _ _ _ h := ManualClock.broadcast_keeps (tell_served _) h
  failure _ _ _ h := ManualClock.failConnection_keeps (tell_served _) h
  deliver notice _ id c h := hear_served notice id c h
  faults _ _ _ _ h := h
  command command l h := (Live.perform_works l command).served h
  drop _ s h := by
    obtain ⟨hnone, hserves⟩ := drop_served s h
    unfold Served
    rw [hnone]
    exact hserves
  create settings _ s h := start_served s.drop settings (drop_served s h).2

/-- In every state of every run the clock serves at most the controller at work. -/
theorem Reachable.served {s : Session} (hs : s.Reachable) : Served (s.clock, s.host) := by
  obtain ⟨now, connected, catalogue, steps, rfl⟩ := hs
  exact served_keeps.run steps (fun _ _ => trivial) _ ⟨.inl rfl, .inl rfl⟩

end Session

end ScreenPointer
