/-
# Clocks in step

Two clocks that differ only in the numbers of their listeners and in how many
requests they have granted stay in step: whatever is delivered through the one is
delivered through the other, to the listener of the other number, as long as the
listeners answer alike.  With no difference in numbers this says that listeners
which keep an account of their own do not disturb the clock.
-/

import ScreenPointer.Proofs.Delivery

namespace ScreenPointer

namespace ListenerId

def shift (k : Nat) (id : ListenerId) : ListenerId := ⟨id.number + k⟩

@[simp]
theorem shift_inj {k : Nat} {a b : ListenerId} : a.shift k = b.shift k ↔ a = b := by
  cases a
  cases b
  simp [shift]

@[simp]
theorem shift_zero (id : ListenerId) : id.shift 0 = id := rfl

end ListenerId

namespace Timer

def shift (k : Nat) (t : Timer) : Timer := { t with listener := t.listener.shift k }

@[simp]
theorem shift_zero (t : Timer) : t.shift 0 = t := rfl

end Timer

def ClockError.shift (k : Nat) : ClockError → ClockError
  | unavailable reason => unavailable reason
  | unknownListener id => unknownListener (id.shift k)
  | stopped => stopped

namespace ManualClock

/-- A clock that gave out `k` numbers and granted `m` requests more, but is the same
otherwise. -/
def renamed (k m : Nat) (c : ManualClock) : ManualClock :=
  { c with
    lastId := c.lastId + k
    listeners := c.listeners.map (·.shift k)
    requests := c.requests.map (·.shift k)
    requestTotal := c.requestTotal + m
    timers := c.timers.map (·.shift k) }

/-! ## Requests -/

section Requests

variable (k m : Nat) (c : ManualClock)

@[simp]
theorem renamed_zero : c.renamed 0 0 = c := by
  simp [renamed]

theorem contains_shift (ids : List ListenerId) (id : ListenerId) :
    (ids.map (·.shift k)).contains (id.shift k) = ids.contains id := by
  simp

@[simp]
theorem isRegistered_renamed (id : ListenerId) :
    (c.renamed k m).isRegistered (id.shift k) = c.isRegistered id :=
  contains_shift k c.listeners id

theorem forget_renamed (id : ListenerId) :
    (c.renamed k m).forget (id.shift k) = (c.forget id).renamed k m := by
  simp [renamed, forget, List.filter_map, Function.comp_def, Timer.shift]

theorem cancel_renamed (id : ListenerId) (token : TimerToken) :
    (c.renamed k m).cancel (id.shift k) token = (c.cancel id token).renamed k m := by
  simp [renamed, cancel, List.filter_map, Function.comp_def, Timer.shift]

theorem requestTick_renamed (id : ListenerId) :
    (c.renamed k m).requestTick (id.shift k) =
      match c.requestTick id with
      | .ok c' => .ok (c'.renamed k m)
      | .error e => .error (e.shift k) := by
  simp only [requestTick, isRegistered_renamed]
  split
  · by_cases hwaits : id ∈ c.requests <;> simp [renamed, hwaits, Nat.add_right_comm]
  · rfl

theorem schedule_renamed (id : ListenerId) (token : TimerToken) (delay : Nanos) :
    (c.renamed k m).schedule (id.shift k) token delay =
      match c.schedule id token delay with
      | .ok c' => .ok (c'.renamed k m)
      | .error e => .error (e.shift k) := by
  simp only [schedule, isRegistered_renamed]
  split
  · simp [renamed, Timer.shift]
  · rfl

theorem register_renamed :
    (c.renamed k m).register =
      match c.register with
      | .ok (id, c') => .ok (id.shift k, c'.renamed k m)
      | .error e => .error (e.shift k) := by
  by_cases h : c.connected = true <;>
    simp [register, renamed, ListenerId.shift, ClockError.shift, Nat.add_right_comm, h]

end Requests

/-! ## Deliveries -/

theorem takeDue_shift (k : Nat) (instant : Nanos) (timers : List Timer) :
    takeDue instant (timers.map (·.shift k)) =
      (takeDue instant timers).map fun (t, others) => (t.shift k, others.map (·.shift k)) := by
  induction timers with
  | nil => rfl
  | cons t rest ih =>
      simp only [List.map_cons, takeDue, ih]
      cases takeDue instant rest with
      | none => by_cases h : t.deadline ≤ instant <;> simp [Timer.shift, h]
      | some found =>
          obtain ⟨u, others⟩ := found
          by_cases h : t.deadline ≤ instant ∧ t.deadline ≤ u.deadline <;> simp [Timer.shift, h]

section Deliveries

variable {σ τ : Type} {k m : Nat} {S : σ → τ → Prop} {hear : Listeners σ} {hear' : Listeners τ}

/-- Clocks in step, with states that belong together. -/
def InStep (k m : Nat) (S : σ → τ → Prop) (d : ManualClock × σ) (d' : ManualClock × τ) : Prop :=
  d'.1 = d.1.renamed k m ∧ S d.2 d'.2

/-- Listeners that answer alike when they are in step, and stay in step. -/
def Simulates (k m : Nat) (S : σ → τ → Prop) (hear : Listeners σ) (hear' : Listeners τ) : Prop :=
  ∀ id notice c s t, S s t →
    (hear' (id.shift k) notice (c.renamed k m) t).1 = (hear id notice c s).1 ∧
      InStep k m S (hear id notice c s).2 (hear' (id.shift k) notice (c.renamed k m) t).2

theorem tell_inStep (sim : Simulates k m S hear hear') (notice : Notice) (id : ListenerId)
    (c : ManualClock) {s : σ} {t : τ} (h : S s t) :
    InStep k m S (c.tell hear notice id s)
      ((c.renamed k m).tell hear' notice (id.shift k) t) := by
  obtain ⟨hstatus, hclock, hstate⟩ := sim id notice c s t h
  simp only [tell]
  generalize hear id notice c s = told at *
  generalize hear' (id.shift k) notice (c.renamed k m) t = told' at *
  obtain ⟨status, c₁, s₁⟩ := told
  obtain ⟨status', c₁', t₁⟩ := told'
  cases hstatus
  cases hclock
  cases status with
  | keep => exact ⟨rfl, hstate⟩
  | deregister => exact ⟨forget_renamed k m c₁ id, hstate⟩

theorem tellAll_inStep (sim : Simulates k m S hear hear') (notice : Notice)
    (ids : List ListenerId) : ∀ (c : ManualClock) {s : σ} {t : τ}, S s t →
      InStep k m S (tellAll hear notice ids c s)
        (tellAll hear' notice (ids.map (·.shift k)) (c.renamed k m) t) := by
  induction ids with
  | nil => exact fun _ _ _ h => ⟨rfl, h⟩
  | cons id rest ih =>
      intro c s t h
      obtain ⟨hclock, hstate⟩ := tell_inStep sim notice id c h
      simp only [List.map_cons, tellAll, hclock]
      exact ih _ hstate

theorem vsyncBurst_inStep (sim : Simulates k m S hear hear') (timestamps : List Nanos)
    (c : ManualClock) {s : σ} {t : τ} (h : S s t) :
    ((c.renamed k m).vsyncBurst hear' timestamps t).1 = (c.vsyncBurst hear timestamps s).1 ∧
      InStep k m S (c.vsyncBurst hear timestamps s).2
        ((c.renamed k m).vsyncBurst hear' timestamps t).2 := by
  simp only [vsyncBurst]
  split
  · exact ⟨rfl, rfl, h⟩
  · rename_i last _
    have htargets : (c.renamed k m).requests.filter (c.renamed k m).isRegistered =
        (c.requests.filter c.isRegistered).map (·.shift k) := by
      have hregistered : (c.renamed k m).isRegistered ∘ (·.shift k) = c.isRegistered :=
        funext (isRegistered_renamed k m c)
      simp only [renamed, List.filter_map] at hregistered ⊢
      rw [hregistered]
    have hmoved : { c.renamed k m with now := max (c.renamed k m).now last, requests := [] } =
        { c with now := max c.now last, requests := [] }.renamed k m := by
      simp [renamed]
    rw [htargets, hmoved]
    exact ⟨List.length_map _, tellAll_inStep sim _ _ _ h⟩

theorem broadcast_inStep (sim : Simulates k m S hear hear') (events : List DisplayEvent)
    (c : ManualClock) {s : σ} {t : τ} (h : S s t) :
    ((c.renamed k m).broadcast hear' events t).1 = (c.broadcast hear events s).1 ∧
      InStep k m S (c.broadcast hear events s).2 ((c.renamed k m).broadcast hear' events t).2 :=
  ⟨List.length_map _, tellAll_inStep sim _ _ _ h⟩

theorem failConnection_inStep (sim : Simulates k m S hear hear') (c : ManualClock) {s : σ} {t : τ}
    (h : S s t) :
    InStep k m S (c.failConnection hear s) ((c.renamed k m).failConnection hear' t) :=
  tellAll_inStep sim _ _ _ h

theorem runFrames_inStep (sim : Simulates k m S hear hear') (frame : Nanos) (limit : Nat) :
    ∀ (c : ManualClock) {s : σ} {t : τ}, S s t →
      (runFrames hear' frame limit (c.renamed k m) t).1 = (runFrames hear frame limit c s).1 ∧
        InStep k m S (runFrames hear frame limit c s).2
          (runFrames hear' frame limit (c.renamed k m) t).2 := by
  induction limit with
  | zero => exact fun _ _ _ h => ⟨rfl, rfl, h⟩
  | succ limit ih =>
      intro c s t h
      have hidle : (c.renamed k m).requests.isEmpty = c.requests.isEmpty := by
        simp [renamed]
      simp only [runFrames, hidle]
      split
      · exact ⟨rfl, rfl, h⟩
      · obtain ⟨-, hclock, hstate⟩ := vsyncBurst_inStep sim [c.now + frame] c h
        have hvsync : ((c.renamed k m).vsync hear' ((c.renamed k m).now + frame) t).2.1 =
            (c.vsync hear (c.now + frame) s).2.1.renamed k m := hclock
        rw [hvsync]
        obtain ⟨hcount, hrest⟩ := ih _ hstate
        exact ⟨congrArg (· + 1) hcount, hrest⟩

theorem advanceTo_inStep (sim : Simulates k m S hear hear') (instant : Nanos) (room : Nat) :
    ∀ (c : ManualClock) {s : σ} {t : τ}, S s t →
      Option.Rel (fun out out' => out'.1 = out.1 ∧ InStep k m S out.2 out'.2)
        (advanceTo hear instant room c s) (advanceTo hear' instant room (c.renamed k m) t) := by
  induction room with
  | zero =>
      intro c s t h
      have hdue := takeDue_shift k instant c.timers
      cases hnow : takeDue instant c.timers with
      | none =>
          rw [hnow] at hdue
          simp only [advanceTo, renamed, hnow, hdue, Option.map_none]
          exact .some ⟨rfl, rfl, h⟩
      | some found =>
          rw [hnow] at hdue
          simp only [advanceTo, renamed, hnow, hdue, Option.map_some]
          exact .none
  | succ room ih =>
      intro c s t h
      have hdue := takeDue_shift k instant c.timers
      cases hnow : takeDue instant c.timers with
      | none =>
          rw [hnow] at hdue
          simp only [advanceTo, renamed, hnow, hdue, Option.map_none]
          exact .some ⟨rfl, rfl, h⟩
      | some found =>
          obtain ⟨u, others⟩ := found
          rw [hnow] at hdue
          have hmoved : { c.renamed k m with
              timers := others.map (·.shift k)
              now := max (c.renamed k m).now (u.shift k).deadline } =
              { c with timers := others, now := max c.now u.deadline }.renamed k m := rfl
          have htimers : takeDue instant (c.renamed k m).timers =
              some (u.shift k, others.map (·.shift k)) := hdue
          simp only [advanceTo, hnow, htimers, hmoved]
          generalize { c with timers := others, now := max c.now u.deadline } = moved
          rw [show (u.shift k).listener = u.listener.shift k from rfl, isRegistered_renamed]
          split
          · obtain ⟨hclock, hstate⟩ := tell_inStep sim (.timer u.token) u.listener moved h
            rw [show (u.shift k).token = u.token from rfl, hclock]
            have hrest := ih (moved.tell hear (.timer u.token) u.listener s).1 hstate
            generalize advanceTo hear instant room _ _ = out at hrest ⊢
            generalize advanceTo hear' instant room _ _ = out' at hrest ⊢
            cases hrest with
            | none => exact .none
            | some hfired => exact .some ⟨congrArg (· + 1) hfired.1, hfired.2⟩
          · exact ih moved h

end Deliveries

end ManualClock

end ScreenPointer
