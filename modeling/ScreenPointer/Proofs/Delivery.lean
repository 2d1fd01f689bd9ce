/-
# What a delivery keeps

A property of a clock and of what its listeners reach is kept by every way of
moving the clock once it is kept by telling one listener.  The listeners stay
abstract here; what they do with a notice is the premise of each law.
-/

import ScreenPointer.Clock.Delivery

namespace ScreenPointer

namespace ManualClock

variable {σ : Type} {hear : Listeners σ} {P : ManualClock × σ → Prop}

/-- A listener that wants to be told more stays. -/
theorem tell_of_keep {notice : Notice} {id : ListenerId} {c : ManualClock} {s : σ}
    (h : (hear id notice c s).1 = .keep) : c.tell hear notice id s = (hear id notice c s).2 := by
  unfold tell
  split
  · rename_i told heq
    rw [heq]
  · rename_i told heq
    rw [heq] at h
    cases h

/-- Telling one listener is its answer, and forgetting it if it asks for that. -/
theorem tell_keeps {notice : Notice} {id : ListenerId} {c : ManualClock} {s : σ}
    (hhear : P (hear id notice c s).2)
    (hforget : ∀ c s, P (c, s) → P (c.forget id, s)) : P (c.tell hear notice id s) := by
  unfold tell
  split
  · rename_i told heq
    rw [heq] at hhear
    exact hhear
  · rename_i told heq
    rw [heq] at hhear
    exact hforget _ _ hhear

theorem tellAll_keeps {notice : Notice}
    (htell : ∀ id c s, P (c, s) → P (c.tell hear notice id s)) :
    ∀ (ids : List ListenerId) (c : ManualClock) (s : σ), P (c, s) →
      P (tellAll hear notice ids c s) := by
  intro ids
  induction ids with
  | nil => intro c s h; exact h
  | cons id rest ih => intro c s h; exact ih _ _ (htell id c s h)

theorem broadcast_keeps {events : List DisplayEvent}
    (htell : ∀ id c s, P (c, s) → P (c.tell hear (.events events) id s))
    {c : ManualClock} {s : σ} (h : P (c, s)) : P (c.broadcast hear events s).2 :=
  tellAll_keeps htell _ _ _ h

theorem failConnection_keeps (htell : ∀ id c s, P (c, s) → P (c.tell hear .failure id s))
    {c : ManualClock} {s : σ} (h : P (c, s)) : P (c.failConnection hear s) :=
  tellAll_keeps htell _ _ _ h

/-- Who waits for a vsync is settled, and waits no longer, before the first of
them is told. -/
theorem vsyncBurst_keeps {timestamps : List Nanos}
    (hmove : ∀ c s now, P (c, s) → P ({ c with now, requests := [] }, s))
    (htell : ∀ id c s, P (c, s) → P (c.tell hear (.events (burstEvents timestamps)) id s))
    {c : ManualClock} {s : σ} (h : P (c, s)) : P (c.vsyncBurst hear timestamps s).2 := by
  unfold vsyncBurst
  split
  · exact h
  · exact tellAll_keeps htell _ _ _ (hmove _ _ _ h)

/-- The timers that are not due now keep their order. -/
theorem takeDue_sublist {instant : Nanos} {t : Timer} :
    ∀ {timers others : List Timer}, takeDue instant timers = some (t, others) →
      others.Sublist timers := by
  intro timers
  induction timers with
  | nil => intro others h; cases h
  | cons first rest ih =>
      intro others h
      simp only [takeDue] at h
      split at h
      · split at h
        · cases h
          exact List.sublist_cons_self _ _
        · cases h
      · rename_i u others' hrest
        split at h
        · cases h
          exact List.sublist_cons_self _ _
        · cases h
          exact (ih hrest).cons_cons _

/-- Take a due timer off the clock and tell its listener, if there still is one. -/
def fire (hear : Listeners σ) (t : Timer) (others : List Timer) (c : ManualClock) (s : σ) :
    ManualClock × σ :=
  let moved := { c with timers := others, now := max c.now t.deadline }
  if moved.isRegistered t.listener then moved.tell hear (.timer t.token) t.listener s
  else (moved, s)

/-- Advancing is firing what is due, one at a time, and standing still then. -/
theorem advanceTo_fires {instant : Nanos}
    (hstill : ∀ c s, P (c, s) → P ({ c with now := instant }, s))
    (hfire : ∀ c s t others, takeDue instant c.timers = some (t, others) → P (c, s) →
      P (c.fire hear t others s)) :
    ∀ (room : Nat) (c : ManualClock) (s : σ), P (c, s) →
      ∀ out, advanceTo hear instant room c s = some out → P out.2 := by
  intro room
  induction room with
  | zero =>
      intro c s h out hout
      unfold advanceTo at hout
      split at hout
      · cases hout
        exact hstill c s h
      · cases hout
  | succ room ih =>
      intro c s h out hout
      unfold advanceTo at hout
      split at hout
      · cases hout
        exact hstill c s h
      · rename_i t others hdue
        have hfired := hfire c s t others hdue h
        simp only [fire] at hfired
        dsimp only at hout
        split at hout
        · rename_i hregistered
          rw [if_pos hregistered] at hfired
          obtain ⟨rest, hrest, rfl⟩ := Option.map_eq_some_iff.mp hout
          exact ih _ _ hfired rest hrest
        · rename_i hgone
          rw [if_neg hgone] at hfired
          exact ih _ _ hfired out hout

theorem advanceTo_keeps {instant : Nanos}
    (hmove : ∀ c s timers now, timers.Sublist c.timers → P (c, s) → P ({ c with timers, now }, s))
    (htell : ∀ token id c s, P (c, s) → P (c.tell hear (.timer token) id s)) :
    ∀ (room : Nat) (c : ManualClock) (s : σ), P (c, s) →
      ∀ out, advanceTo hear instant room c s = some out → P out.2 := by
  apply advanceTo_fires
  · intro c s h
    exact hmove c s c.timers instant (List.Sublist.refl _) h
  · intro c s t others hdue h
    have hmoved := hmove c s others (max c.now t.deadline) (takeDue_sublist hdue) h
    simp only [fire]
    split
    · exact htell t.token t.listener _ s hmoved
    · exact hmoved

theorem runFrames_keeps {frame : Nanos}
    (hvsync : ∀ t c s, P (c, s) → P (c.vsync hear t s).2) :
    ∀ (limit : Nat) (c : ManualClock) (s : σ), P (c, s) →
      P (runFrames hear frame limit c s).2 := by
  intro limit
  induction limit with
  | zero => intro c s h; exact h
  | succ limit ih =>
      intro c s h
      unfold runFrames
      split
      · exact h
      · exact ih _ _ (hvsync (c.now + frame) c s h)

end ManualClock

end ScreenPointer
