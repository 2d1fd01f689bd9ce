/-
# Orderly clocks

Each occurrence between a clock and its listeners does the same to every list that
the clock keeps: what the occurrence drops is left out, the rest keeps its place, and
what the occurrence adds comes last.  This is said here once for each list.  From it
an orderly clock is seen to stay one: nobody waits twice for a vsync, only a
registered listener waits for one or has a timer, and every registered listener has
been given its number.
-/

import Mathlib.Data.List.Basic
import ScreenPointer.Proofs.Clock.Conduct

namespace ScreenPointer

/-! ## What requests do -/

namespace ManualClock

theorem serve_register (c : ManualClock) :
    c.serve .register =
      if c.connected then
        (.registered ⟨c.lastId + 1⟩,
          { c with lastId := c.lastId + 1, listeners := c.listeners ++ [⟨c.lastId + 1⟩] })
      else
        (.refused (.unavailable "manual clock built without a display connection"), c) := by
  unfold serve register
  cases c.connected <;> rfl

theorem serve_tick (c : ManualClock) (id : ListenerId) :
    c.serve (.tick id) =
      if id ∈ c.listeners then
        (.accepted, { c with
          requestTotal := c.requestTotal + 1
          requests := c.requests ++ if id ∈ c.requests then [] else [id] })
      else (.refused (.unknownListener id), c) := by
  by_cases hid : id ∈ c.listeners
  · by_cases hwaits : id ∈ c.requests <;> simp [serve, requestTick, isRegistered, hid, hwaits]
  · simp [serve, requestTick, isRegistered, hid]

theorem serve_schedule (c : ManualClock) (id : ListenerId) (token : TimerToken) (delay : Nanos) :
    c.serve (.schedule id token delay) =
      if id ∈ c.listeners then
        (.accepted, { c with timers := c.timers ++ [⟨id, token, .after c.now delay⟩] })
      else (.refused (.unknownListener id), c) := by
  by_cases hid : id ∈ c.listeners <;> simp [serve, schedule, isRegistered, hid]

end ManualClock

namespace Occurrence

def drops (id : ListenerId) : Occurrence → Bool
  | asked (.unregister other) _ => other = id
  | answered other .deregister => other = id
  | _ => false

def discards (t : Timer) : Occurrence → Bool
  | asked (.cancel id token) _ => t.listener = id ∧ t.token = token
  | o => o.drops t.listener

def registers : Occurrence → List ListenerId
  | asked .register (.registered id) => [id]
  | _ => []

/-- Whose request for a vsync is accepted. -/
def requests : Occurrence → List ListenerId
  | asked (.tick id) .accepted => [id]
  | _ => []

def schedules (now : Nanos) : Occurrence → List Timer
  | asked (.schedule id token delay) .accepted => [⟨id, token, .after now delay⟩]
  | _ => []

end Occurrence

/-- The lists of a clock after an occurrence.  Each of them loses what the occurrence drops and
keeps the rest in order; what is added comes last. -/
structure Happens.Effect (c : ManualClock) (o : Occurrence) (c' : ManualClock) : Prop where
  now : c'.now = c.now
  lastId : c'.lastId = c.lastId + o.registers.length
  registers : ∀ id ∈ o.registers, id.number = c.lastId + 1
  listeners : c'.listeners = (c.listeners.filter fun id => !o.drops id) ++ o.registers
  requests : c'.requests =
    (c.requests.filter fun id => !o.drops id) ++ o.requests.filter (· ∉ c.requests)
  requesters : ∀ id ∈ o.requests, id ∈ c.listeners
  timers : c'.timers = (c.timers.filter fun t => !o.discards t) ++ o.schedules c.now
  schedulers : ∀ t ∈ o.schedules c.now, t.listener ∈ c.listeners

namespace Happens

variable {c c' : ManualClock} {o : Occurrence}

/-- What drops nothing and adds nothing leaves the clock as it is. -/
theorem Effect.still (hdrops : ∀ id, o.drops id = false) (hdiscards : ∀ t, o.discards t = false)
    (hregisters : o.registers = []) (hrequests : o.requests = [])
    (hschedules : o.schedules c.now = []) : Effect c o c := by
  constructor <;> simp [List.filter_true, hdrops, hdiscards, hregisters, hrequests, hschedules]

theorem Effect.refused (request : ClockRequest) (error : ClockError)
    (hrequest : ∀ id, request ≠ .unregister id) (hcancel : ∀ id token, request ≠ .cancel id token) :
    Effect c (.asked request (.refused error)) c := by
  cases request with
  | unregister id => exact absurd rfl (hrequest id)
  | cancel id token => exact absurd rfl (hcancel id token)
  | register => exact .still (fun _ => rfl) (fun _ => rfl) rfl rfl rfl
  | tick id => exact .still (fun _ => rfl) (fun _ => rfl) rfl rfl rfl
  | schedule id token delay => exact .still (fun _ => rfl) (fun _ => rfl) rfl rfl rfl

/-- To forget a listener is to drop it and its timers. -/
theorem Effect.forget (id : ListenerId) (hdrops : ∀ other, o.drops other = decide (id = other))
    (hdiscards : ∀ t, o.discards t = decide (id = t.listener))
    (hregisters : o.registers = []) (hrequests : o.requests = [])
    (hschedules : o.schedules c.now = []) : Effect c o (c.forget id) := by
  constructor <;>
    simp [ManualClock.forget, hdrops, hdiscards, hregisters, hrequests, hschedules, eq_comm]

theorem Effect.asked (c : ManualClock) (request : ClockRequest) :
    Effect c (.asked request (c.serve request).1) (c.serve request).2 := by
  cases request with
  | register =>
      rw [ManualClock.serve_register]
      split
      · constructor <;>
          simp [List.filter_true, Occurrence.drops, Occurrence.discards, Occurrence.registers,
            Occurrence.requests, Occurrence.schedules]
      · exact .refused _ _ (by simp) (by simp)
  | unregister id =>
      exact .forget id (fun _ => rfl) (fun _ => rfl) rfl rfl rfl
  | tick id =>
      rw [ManualClock.serve_tick]
      split
      · rename_i hregistered
        by_cases hwaits : id ∈ c.requests <;> constructor <;>
          simp [List.filter_true, Occurrence.drops, Occurrence.discards, Occurrence.registers,
            Occurrence.requests, Occurrence.schedules, hregistered, hwaits]
      · exact .refused _ _ (by simp) (by simp)
  | schedule id token delay =>
      rw [ManualClock.serve_schedule]
      split
      · rename_i hregistered
        constructor <;>
          simp [List.filter_true, Occurrence.drops, Occurrence.discards, Occurrence.registers,
            Occurrence.requests, Occurrence.schedules, hregistered]
      · exact .refused _ _ (by simp) (by simp)
  | cancel id token =>
      constructor <;>
        simp [List.filter_true, ManualClock.serve, ManualClock.cancel, Occurrence.drops,
          Occurrence.discards, Occurrence.registers, Occurrence.requests, Occurrence.schedules]

theorem effect (h : Happens c o c') : Effect c o c' := by
  cases h with
  | told id notice => exact .still (fun _ => rfl) (fun _ => rfl) rfl rfl rfl
  | asked request => exact .asked c request
  | answered id status =>
      cases status with
      | keep => exact .still (fun _ => rfl) (fun _ => rfl) rfl rfl rfl
      | deregister => exact .forget id (fun _ => rfl) (fun _ => rfl) rfl rfl rfl

end Happens

namespace Occurrence

variable {o : Occurrence}

theorem eq_of_mem_requests {id : ListenerId} (h : id ∈ o.requests) :
    o = .asked (.tick id) .accepted := by
  unfold requests at h
  split at h
  · rw [List.mem_singleton.mp h]
  · cases h

theorem eq_of_mem_schedules {t : Timer} {now : Nanos} (h : t ∈ o.schedules now) :
    ∃ delay, o = .asked (.schedule t.listener t.token delay) .accepted ∧
      t.deadline = .after now delay := by
  unfold schedules at h
  split at h
  · rename_i delay
    rw [List.mem_singleton.mp h]
    exact ⟨delay, rfl, rfl⟩
  · cases h

theorem requests_pairwise (o : Occurrence) {R : ListenerId → ListenerId → Prop} :
    o.requests.Pairwise R := by
  unfold requests
  split <;> simp

/-- A listener that has to go takes its timers along. -/
theorem discards_of_drops {t : Timer} (h : o.drops t.listener = true) : o.discards t = true := by
  unfold discards
  split
  · cases h
  · exact h

end Occurrence

/-! ## Order -/

/-- Nobody waits twice for a vsync, and only registered listeners wait for one or have
timers. -/
structure ManualClock.Orderly (c : ManualClock) : Prop where
  waiting_nodup : c.requests.Nodup
  waiting_registered : ∀ id ∈ c.requests, id ∈ c.listeners
  timers_registered : ∀ t ∈ c.timers, t.listener ∈ c.listeners

namespace ManualClock.Orderly

variable {c c' : ManualClock}

/-- A clock that was just made. -/
theorem fresh (connected : Bool) : ({ connected } : ManualClock).Orderly :=
  ⟨.nil, fun _ h => (List.not_mem_nil h).elim, fun _ h => (List.not_mem_nil h).elim⟩

/-- Time and the loss of timers do not matter. -/
theorem move (h : c.Orderly) {timers : List Timer} (hsub : timers.Sublist c.timers)
    (now : Nanos) : { c with timers, now }.Orderly :=
  ⟨h.waiting_nodup, h.waiting_registered, fun t ht => h.timers_registered t (hsub.subset ht)⟩

theorem clear (h : c.Orderly) (now : Nanos) : { c with now, requests := [] }.Orderly :=
  ⟨.nil, fun _ hid => (List.not_mem_nil hid).elim, h.timers_registered⟩

theorem after {o : Occurrence} (h : c.Orderly) (effect : Happens.Effect c o c') : c'.Orderly := by
  refine ⟨?_, ?_, ?_⟩
  · rw [effect.requests]
    refine List.nodup_append.mpr
      ⟨h.waiting_nodup.filter _, o.requests_pairwise.filter _, ?_⟩
    rintro id hid other hother rfl
    exact of_decide_eq_true (List.mem_filter.mp hother).2 (List.mem_filter.mp hid).1
  · intro id hid
    rw [effect.requests] at hid
    rw [effect.listeners]
    refine List.mem_append_left _ (List.mem_filter.mpr ?_)
    rcases List.mem_append.mp hid with hkept | hnew
    · exact ⟨h.waiting_registered id (List.mem_filter.mp hkept).1, (List.mem_filter.mp hkept).2⟩
    · have hasked := (List.mem_filter.mp hnew).1
      exact ⟨effect.requesters id hasked, by rw [Occurrence.eq_of_mem_requests hasked]; rfl⟩
  · intro t ht
    rw [effect.timers] at ht
    rw [effect.listeners]
    refine List.mem_append_left _ (List.mem_filter.mpr ?_)
    rcases List.mem_append.mp ht with hkept | hnew
    · obtain ⟨hmem, hstays⟩ := List.mem_filter.mp hkept
      refine ⟨h.timers_registered t hmem, ?_⟩
      by_contra hdrops
      rw [Occurrence.discards_of_drops (by simpa using hdrops)] at hstays
      cases hstays
    · obtain ⟨delay, heq, -⟩ := Occurrence.eq_of_mem_schedules hnew
      exact ⟨effect.schedulers t hnew, by rw [heq]; rfl⟩

end ManualClock.Orderly

namespace Course

variable {c c' : ManualClock} {news : Diary}

/-- What every occurrence keeps holds at every entry of a course and at its end. -/
theorem keeps {P : ManualClock → Prop}
    (step : ∀ {c o c'}, Happens.Effect c o c' → P c → P c') (course : Course c news c')
    (h : P c) : P c' ∧ ∀ e ∈ news, P e.clock := by
  induction course with
  | nil _ => exact ⟨h, fun _ he => by cases he⟩
  | cons happens _ ih =>
      have hnext := step happens.effect h
      obtain ⟨hend, hrest⟩ := ih hnext
      exact ⟨hend, List.forall_mem_cons.mpr ⟨hnext, hrest⟩⟩

/-- Listeners do not move the clock. -/
theorem now (course : Course c news c') : c'.now = c.now ∧ ∀ e ∈ news, e.clock.now = c.now :=
  course.keeps (P := fun c₁ => c₁.now = c.now) (fun effect h => effect.now.trans h) rfl

end Course

/-! ## What stands -/

namespace Diary

/-- Something that an entry brings about and no later entry takes away. -/
def Stands (gains loses : DiaryEntry → Prop) (d : Diary) : Prop :=
  ∃ before e after, d = before ++ e :: after ∧ gains e ∧ ∀ later ∈ after, ¬loses later

theorem stands_cons {gains loses : DiaryEntry → Prop} {e : DiaryEntry} {d : Diary} :
    Stands gains loses (e :: d) ↔
      Stands gains loses d ∨ (gains e ∧ ∀ later ∈ d, ¬loses later) := by
  constructor
  · rintro ⟨before, found, after, heq, hgains, hstays⟩
    cases before with
    | nil =>
        obtain ⟨rfl, rfl⟩ := List.cons.inj heq
        exact .inr ⟨hgains, hstays⟩
    | cons first before =>
        obtain ⟨rfl, rfl⟩ := List.cons.inj heq
        exact .inl ⟨before, found, after, rfl, hgains, hstays⟩
  · rintro (⟨before, found, after, rfl, hgains, hstays⟩ | ⟨hgains, hstays⟩)
    · exact ⟨e :: before, found, after, rfl, hgains, hstays⟩
    · exact ⟨[], e, d, rfl, hgains, hstays⟩

/-- A request for a vsync that was accepted, of a listener that has not gone since. -/
def Requested (id : ListenerId) : Diary → Prop :=
  Stands (fun e => id ∈ e.occurrence.requests) fun e => e.occurrence.drops id = true

/-- A timer that was accepted and neither cancelled nor dropped with its listener
since. -/
def Scheduled (t : Timer) : Diary → Prop :=
  Stands (fun e => t ∈ e.occurrence.schedules e.clock.now) fun e => e.occurrence.discards t = true

end Diary

namespace Course

variable {c c' : ManualClock} {news : Diary}

/-- Membership in a list of the clock, told from the diary. -/
theorem mem_iff {α : Type} {view : ManualClock → List α} {x : α}
    {gains loses : DiaryEntry → Prop}
    (step : ∀ {c o c'}, Happens.Effect c o c' →
      (x ∈ view c' ↔ gains ⟨o, c'⟩ ∨ (x ∈ view c ∧ ¬loses ⟨o, c'⟩)))
    (course : Course c news c') :
    x ∈ view c' ↔ Diary.Stands gains loses news ∨ (x ∈ view c ∧ ∀ e ∈ news, ¬loses e) := by
  induction course with
  | nil _ => simp [Diary.Stands]
  | cons happens _ ih =>
      rw [ih, step happens.effect, Diary.stands_cons, List.forall_mem_cons]
      tauto

/-- Who waits for a vsync: who asked for one and has not gone since, and who waited
before and has not gone. -/
theorem mem_requests_iff (course : Course c news c') (id : ListenerId) :
    id ∈ c'.requests ↔ Diary.Requested id news ∨
      (id ∈ c.requests ∧ ∀ e ∈ news, ¬e.occurrence.drops id = true) := by
  refine course.mem_iff fun {c o c'} effect => ?_
  rw [effect.requests, List.mem_append, List.mem_filter, List.mem_filter]
  by_cases hasked : id ∈ o.requests
  · have hstays : o.drops id = false := by rw [Occurrence.eq_of_mem_requests hasked]; rfl
    by_cases hwaits : id ∈ c.requests <;> simp [hasked, hwaits, hstays]
  · simp [hasked]

/-- Which timers are pending: those accepted and those pending before, neither
cancelled nor dropped since. -/
theorem mem_timers_iff (course : Course c news c') (t : Timer) :
    t ∈ c'.timers ↔ Diary.Scheduled t news ∨
      (t ∈ c.timers ∧ ∀ e ∈ news, ¬e.occurrence.discards t = true) := by
  refine course.mem_iff fun {c o c'} effect => ?_
  rw [effect.timers, List.mem_append, List.mem_filter, effect.now]
  simp [or_comm]

end Course

end ScreenPointer
