/-
# Advancing a clock

What an advance makes of its timers when listeners keep to requests.  Timers fire in
the order of their deadlines, of equal deadlines in the order in which they were
scheduled, at or after their deadlines, and only while they are pending.  Advancing
twice is advancing once by both distances together.

All of it is by induction on the turns.  A turn fires the earliest timer, and what is
scheduled from then on is due no earlier, because listeners do not move the clock.
-/

import ScreenPointer.Proofs.Clock.Orderly
import ScreenPointer.Proofs.Clock.Turns

namespace ScreenPointer

def Timer.call (t : Timer) : ListenerId × Notice := (t.listener, .timer t.token)

/-- The delay of a timer that is accepted. -/
def Occurrence.delay? : Occurrence → Option Nanos
  | asked (.schedule _ _ delay) .accepted => some delay
  | _ => none

namespace Diary

/-- Every timer that was accepted, in order. -/
def scheduled (d : Diary) : List Timer := d.flatMap fun e => e.occurrence.schedules e.clock.now

/-- Every delay that was accepted leads to an instant that can be written. -/
def Fits (d : Diary) : Prop :=
  ∀ e ∈ d, ∀ delay ∈ e.occurrence.delay?, Nanos.Fits (e.clock.now + max delay 0)

instance (d : Diary) : Decidable d.Fits :=
  inferInstanceAs (Decidable (∀ e ∈ d, ∀ delay ∈ e.occurrence.delay?, _))

/-- Of the timers there were and of those accepted since, one that was neither
cancelled nor dropped with its listener. -/
def Pending (timers : List Timer) (d : Diary) (t : Timer) : Prop :=
  Scheduled t d ∨ (t ∈ timers ∧ ∀ e ∈ d, ¬e.occurrence.discards t = true)

@[simp]
theorem scheduled_cons (e : DiaryEntry) (d : Diary) :
    scheduled (e :: d) = e.occurrence.schedules e.clock.now ++ scheduled d := List.flatMap_cons

@[simp]
theorem scheduled_append (first second : Diary) :
    scheduled (first ++ second) = scheduled first ++ scheduled second := List.flatMap_append

theorem Stands.append_left {gains loses : DiaryEntry → Prop} {first second : Diary}
    (h : Stands gains loses first) (hstays : ∀ e ∈ second, ¬loses e) :
    Stands gains loses (first ++ second) := by
  obtain ⟨before, e, after, rfl, hgains, hafter⟩ := h
  refine ⟨before, e, after ++ second, by simp, hgains, ?_⟩
  exact List.forall_mem_append.mpr ⟨hafter, hstays⟩

theorem Stands.append_right {gains loses : DiaryEntry → Prop} (first : Diary) {second : Diary}
    (h : Stands gains loses second) : Stands gains loses (first ++ second) := by
  obtain ⟨before, e, after, rfl, hgains, hafter⟩ := h
  exact ⟨first ++ before, e, after, by simp, hgains, hafter⟩

theorem Pending.trans {timers timers' : List Timer} {first second : Diary} {t : Timer}
    (h : Pending timers' second t) (hfirst : t ∈ timers' → Pending timers first t) :
    Pending timers (first ++ second) t := by
  rcases h with hscheduled | ⟨hmem, hstays⟩
  · exact .inl (hscheduled.append_right first)
  · rcases hfirst hmem with hscheduled | ⟨hold, hstayed⟩
    · exact .inl (hscheduled.append_left hstays)
    · exact .inr ⟨hold, List.forall_mem_append.mpr ⟨hstayed, hstays⟩⟩

end Diary

namespace Course

variable {c c' : ManualClock} {news : Diary}

/-- Timers keep the order in which they were scheduled. -/
theorem timers_sublist (course : Course c news c') :
    c'.timers.Sublist (c.timers ++ Diary.scheduled news) := by
  induction course with
  | nil c => simp [Diary.scheduled]
  | cons happens _ ih =>
      refine ih.trans ?_
      rw [Diary.scheduled_cons, ← List.append_assoc, happens.effect.timers, happens.effect.now]
      exact (List.filter_sublist.append_right _).append_right _

end Course

/-- No timer is accepted for a time that has passed. -/
theorem Diary.le_deadline_of_mem_scheduled {instant : Nanos} {d : Diary} {t : Timer}
    (hfits : d.Fits) (hlater : ∀ e ∈ d, instant ≤ e.clock.now) (ht : t ∈ Diary.scheduled d) :
    instant ≤ t.deadline := by
  obtain ⟨e, he, hmem⟩ := List.mem_flatMap.mp ht
  obtain ⟨delay, hasked, hdeadline⟩ := Occurrence.eq_of_mem_schedules hmem
  have hfit := hfits e he delay (by rw [hasked]; rfl)
  rw [hdeadline, Nanos.after, Nanos.wrap_of_fits hfit]
  exact Int.le_trans (hlater e he) (Int.le_add_of_nonneg_right (Int.le_max_right _ _))

/-- The firings of an advance to an instant, from the clock before it and from what
the diary says about it. -/
structure FiresInOrder (c : ManualClock) (instant : Nanos) (news : Diary) (fired : List Timer) :
    Prop where
  /-- Nobody is told anything but that a timer fires. -/
  calls : news.calls = fired.map Timer.call
  due : ∀ t ∈ fired, t.deadline ≤ instant
  sorted : fired.Pairwise fun t u => t.deadline ≤ u.deadline
  /-- Of each deadline, timers fire in the order in which they were scheduled. -/
  stable : ∀ deadline, (fired.filter (·.deadline = deadline)).Sublist
    ((c.timers ++ Diary.scheduled news).filter (·.deadline = deadline))
  /-- A timer fires at its deadline or, if that has passed, at once; it is pending
  right before. -/
  pending : ∀ earlier t later, fired = earlier ++ t :: later →
    ∃ before clock after,
      news = before ++ ⟨.told t.listener (.timer t.token), clock⟩ :: after ∧
      before.calls = earlier.map Timer.call ∧ clock.now = max c.now t.deadline ∧
      t.listener ∈ clock.listeners ∧ Diary.Pending c.timers before t
  /-- The clock does not go back. -/
  onward : ∀ e ∈ news, c.now ≤ e.clock.now

namespace FiresInOrder

variable {c : ManualClock} {instant : Nanos} {news : Diary} {fired : List Timer}

theorem none (c : ManualClock) (instant : Nanos) : FiresInOrder c instant [] [] where
  calls := rfl
  due _ h := (List.not_mem_nil h).elim
  sorted := .nil
  stable _ := List.nil_sublist _
  pending earlier t later h := by cases earlier <;> cases h
  onward _ h := (List.not_mem_nil h).elim

theorem mem (h : FiresInOrder c instant news fired) {t : Timer} (ht : t ∈ fired) :
    t ∈ c.timers ∨ t ∈ Diary.scheduled news := by
  have hfiltered : t ∈ fired.filter (·.deadline = t.deadline) := by simp [ht]
  have hmem := (List.mem_filter.mp ((h.stable t.deadline).subset hfiltered)).1
  exact List.mem_append.mp hmem

/-- When nothing was due before an instant, nothing fires that was due before. -/
theorem floor (h : FiresInOrder c instant news fired) (hfits : news.Fits) {start : Nanos}
    (hnow : start ≤ c.now) (htimers : ∀ t ∈ c.timers, start ≤ t.deadline) {t : Timer} (ht : t ∈ fired) :
    start ≤ t.deadline := by
  rcases h.mem ht with hold | hnew
  · exact htimers t hold
  · exact Int.le_trans hnow (Diary.le_deadline_of_mem_scheduled hfits h.onward hnew)

/-- A turn whose timer has lost its listener fires nothing. -/
theorem skip {t : Timer} {others : List Timer}
    (htakes : ManualClock.Takes instant c.timers t others) (hfits : news.Fits)
    (h : FiresInOrder { c with timers := others, now := max c.now t.deadline } instant news fired) :
    FiresInOrder c instant news fired where
  calls := h.calls
  due := h.due
  sorted := h.sorted
  stable deadline := by
    refine (h.stable deadline).trans ?_
    rw [List.filter_append, List.filter_append, htakes.stable]
    exact ((List.sublist_cons_self t others).filter _).append_right _
  pending earlier u later heq := by
    obtain ⟨before, clock, after, hnews, hcalls, hnow, hthere, hpending⟩ :=
      h.pending earlier u later heq
    refine ⟨before, clock, after, hnews, hcalls, ?_, hthere, ?_⟩
    · have hfloor : t.deadline ≤ u.deadline :=
        h.floor hfits (Int.le_max_right _ _) htakes.earliest (heq ▸ by simp)
      rw [hnow]
      show max (max c.now t.deadline) u.deadline = _
      rw [Int.max_assoc, Int.max_eq_right hfloor]
    · exact hpending.imp_right fun hold => ⟨(htakes.mem_iff u).mpr (.inr hold.1), hold.2⟩
  onward e he := Int.le_trans (Int.le_max_left _ _) (h.onward e he)

section Turn

variable {t : Timer} {others : List Timer} {c' : ManualClock} {first : Diary}
  (htakes : ManualClock.Takes instant c.timers t others)
  (course : Course { c with timers := others, now := max c.now t.deadline } first c')
  (h : FiresInOrder c' instant news fired)
include htakes course h

/-- Nothing fires after a timer that was due before it. -/
theorem turn_floor (hfits : Diary.Fits (first ++ news)) :
    ∀ u ∈ fired, t.deadline ≤ u.deadline := by
  obtain ⟨hfirst, hnews⟩ := List.forall_mem_append.mp hfits
  have hscheduled : ∀ u ∈ Diary.scheduled first, t.deadline ≤ u.deadline := fun u hu =>
    Diary.le_deadline_of_mem_scheduled hfirst
      (fun e he => course.now.2 e he ▸ Int.le_max_right _ _) hu
  have htimers : ∀ u ∈ c'.timers, t.deadline ≤ u.deadline := fun u hu =>
    (List.mem_append.mp (course.timers_sublist.subset hu)).elim (htakes.earliest u) (hscheduled u)
  exact fun u hu => h.floor hnews (course.now.1 ▸ Int.le_max_right _ _) htimers hu

theorem turn_stable (deadline : Nanos) :
    ((t :: fired).filter (·.deadline = deadline)).Sublist
      ((c.timers ++ Diary.scheduled (first ++ news)).filter (·.deadline = deadline)) := by
  have hrest : (fired.filter (·.deadline = deadline)).Sublist
      ((others ++ Diary.scheduled first ++ Diary.scheduled news).filter
        (·.deadline = deadline)) :=
    (h.stable deadline).trans ((course.timers_sublist.append_right _).filter _)
  rw [Diary.scheduled_append, ← List.append_assoc, List.filter_append, List.filter_append,
    htakes.stable, ← List.filter_append, ← List.filter_append, List.cons_append,
    List.cons_append, List.filter_cons, List.filter_cons]
  split
  · exact hrest.cons_cons t
  · exact hrest

/-- A timer that fires in a later turn was pending all the while, or was scheduled in
this turn. -/
theorem turn_pending (hfits : Diary.Fits (first ++ news)) (hcalls : first.calls = [t.call])
    {earlier later : List Timer} {u : Timer} (heq : fired = earlier ++ u :: later) :
    ∃ before clock after,
      first ++ news = before ++ ⟨.told u.listener (.timer u.token), clock⟩ :: after ∧
      before.calls = (t :: earlier).map Timer.call ∧ clock.now = max c.now u.deadline ∧
      u.listener ∈ clock.listeners ∧ Diary.Pending c.timers before u := by
  obtain ⟨before, clock, after, hnews, hbefore, hclock, hthere, hpending⟩ :=
    h.pending earlier u later heq
  have hfloor : t.deadline ≤ u.deadline := turn_floor htakes course h hfits u (heq ▸ by simp)
  refine ⟨first ++ before, clock, after, by rw [hnews, List.append_assoc], ?_, ?_, hthere,
    hpending.trans fun hmem => ?_⟩
  · rw [Diary.calls_append, hcalls, hbefore]
    rfl
  · rw [hclock, course.now.1]
    show max (max c.now t.deadline) u.deadline = _
    rw [Int.max_assoc, Int.max_eq_right hfloor]
  · exact ((course.mem_timers_iff u).mp hmem).imp_right fun hold =>
      ⟨(htakes.mem_iff u).mpr (.inr hold.1), hold.2⟩

/-- A turn fires its timer, and then what is left and what has been added meanwhile. -/
theorem turn (hfits : Diary.Fits (first ++ news)) (hlistener : t.listener ∈ c.listeners)
    (hfirst : first.head? = some ⟨.told t.listener (.timer t.token),
      { c with timers := others, now := max c.now t.deadline }⟩)
    (hcalls : first.calls = [t.call]) :
    FiresInOrder c instant (first ++ news) (t :: fired) where
  calls := by
    rw [Diary.calls_append, hcalls, h.calls]
    rfl
  due := List.forall_mem_cons.mpr ⟨htakes.due, h.due⟩
  sorted := List.pairwise_cons.mpr ⟨turn_floor htakes course h hfits, h.sorted⟩
  stable := turn_stable htakes course h
  pending earlier u later heq := by
    cases earlier with
    | nil =>
        obtain ⟨rfl, rfl⟩ := List.cons.inj heq
        obtain ⟨rest, hrest⟩ := List.head?_eq_some_iff.mp hfirst
        exact ⟨[], { c with timers := others, now := max c.now t.deadline }, rest ++ news,
          by rw [hrest]; rfl, rfl, rfl, hlistener,
          .inr ⟨(htakes.mem_iff t).mpr (.inl rfl), fun _ he => (List.not_mem_nil he).elim⟩⟩
    | cons first' earlier =>
        obtain ⟨rfl, rfl⟩ := List.cons.inj heq
        exact turn_pending htakes course h hfits hcalls rfl
  onward := by
    have hforth : c.now ≤ c'.now := course.now.1 ▸ Int.le_max_left _ _
    refine List.forall_mem_append.mpr ⟨fun e he => ?_, fun e he => ?_⟩
    · rw [course.now.2 e he]
      exact Int.le_max_left _ _
    · exact Int.le_trans hforth (h.onward e he)

end Turn

end FiresInOrder

namespace ManualClock

variable {σ : Type}

/-- An advance that ends has told of each timer that it has fired, leaves nothing that is
due, and stands still at the instant.  If no delay was lost it has fired in order. -/
theorem Advances.fires {conduct : Conducts σ} {instant : Nanos} {count : Nat}
    {c : ManualClock} {p : σ × Diary} {out : ManualClock × σ × Diary}
    (h : Advances conduct.hear instant c p count out) :
    ∃ fired news, out.2.2 = p.2 ++ news ∧ count = fired.length ∧
      news.calls = fired.map Timer.call ∧ (news.Fits → FiresInOrder c instant news fired) ∧
      (∀ t ∈ out.1.timers, instant < t.deadline) ∧ out.1.now = instant := by
  induction h with
  | stand hdue =>
      exact ⟨[], [], (List.append_nil _).symm, rfl, rfl, fun _ => .none _ instant,
        takeDue_eq_none_iff.mp hdue, rfl⟩
  | @turn c p t others count out hdue _ ih =>
      have htakes := takeDue_takes hdue
      by_cases hlistener : t.listener ∈ c.listeners
      · obtain ⟨c', s', first, htell, hcourse, hcalls, hhead⟩ :=
          tell_course conduct (.timer t.token) t.listener
            { c with timers := others, now := max c.now t.deadline } p.1 p.2
        rw [fire_of_mem others hlistener, htell] at ih
        obtain ⟨fired, news, hnews, hcount, hrest, hfires, hleft, hnow⟩ := ih
        refine ⟨t :: fired, first ++ news, ?_, ?_, ?_, fun hfits => ?_, hleft, hnow⟩
        · rw [hnews, List.append_assoc]
        · rw [if_pos hlistener, hcount]
          rfl
        · rw [Diary.calls_append, hcalls, hrest]
          rfl
        · exact .turn htakes hcourse (hfires (List.forall_mem_append.mp hfits).2) hfits hlistener
            hhead hcalls
      · rw [fire_of_not_mem others hlistener] at ih
        obtain ⟨fired, news, hnews, hcount, hrest, hfires, hleft, hnow⟩ := ih
        exact ⟨fired, news, hnews, by rw [if_neg hlistener, hcount], hrest,
          fun hfits => (hfires hfits).skip htakes hfits, hleft, hnow⟩

/-! ## Two advances -/

theorem fire_now (conduct : Conducts σ) (t : Timer) (others : List Timer) (c : ManualClock)
    (p : σ × Diary) : (c.fire conduct.hear t others p).1.now = max c.now t.deadline := by
  by_cases hlistener : t.listener ∈ c.listeners
  · obtain ⟨c', s', news, htell, hcourse, -⟩ := tell_course conduct (.timer t.token) t.listener
      { c with timers := others, now := max c.now t.deadline } p.1 p.2
    rw [fire_of_mem others hlistener, htell]
    exact hcourse.now.1
  · rw [fire_of_not_mem others hlistener]

/-- Where nothing is due, an advance may as well start later. -/
theorem advances_resume {hear : Listeners σ} {middle instant : Nanos} {c : ManualClock} {s : σ}
    {count : Nat} {out : ManualClock × σ} (hnone : takeDue middle c.timers = none)
    (hnow : c.now ≤ middle) :
    Advances hear instant { c with now := middle } s count out ↔
      Advances hear instant c s count out := by
  have hfire {t : Timer} {others : List Timer} (hdue : takeDue instant c.timers = some (t, others)) :
      fire hear t others { c with now := middle } s = c.fire hear t others s := by
    have hahead : middle < t.deadline := takeDue_eq_none_iff.mp hnone t
      (((takeDue_takes hdue).mem_iff t).mpr (.inl rfl))
    unfold fire
    dsimp only
    rw [Int.max_eq_right (Int.le_of_lt hahead),
      Int.max_eq_right (Int.le_trans hnow (Int.le_of_lt hahead))]
  constructor
  · intro h
    cases h with
    | stand hdue => exact .stand (c := c) hdue
    | turn hdue hrest => exact .turn hdue (hfire hdue ▸ hrest)
  · intro h
    cases h with
    | stand hdue => exact .stand (c := { c with now := middle }) hdue
    | turn hdue hrest =>
        exact .turn (c := { c with now := middle }) hdue ((hfire hdue).symm ▸ hrest)

section Two

variable {conduct : Conducts σ} {middle instant : Nanos} {c : ManualClock} {p : σ × Diary}
  {out : ManualClock × σ × Diary}

theorem fire_now_le {t : Timer} {others : List Timer} (hnow : c.now ≤ middle)
    (hdue : takeDue middle c.timers = some (t, others)) :
    (c.fire conduct.hear t others p).1.now ≤ middle := by
  rw [fire_now]
  exact Int.max_le.mpr ⟨hnow, (takeDue_takes hdue).due⟩

/-- An advance can stop on its way. -/
theorem Advances.split {count : Nat} (h : Advances conduct.hear instant c p count out)
    (hle : middle ≤ instant) (hnow : c.now ≤ middle) :
    ∃ first second via, Advances conduct.hear middle c p first via ∧
      Advances conduct.hear instant via.1 via.2 second out ∧ count = first + second := by
  induction h with
  | @stand c p hdue =>
      have hmiddle : takeDue middle c.timers = none := takeDue_eq_none_iff.mpr fun t ht =>
        Int.lt_of_le_of_lt hle (takeDue_eq_none_iff.mp hdue t ht)
      exact ⟨0, 0, _, .stand hmiddle, (advances_resume hmiddle hnow).mpr (.stand hdue), rfl⟩
  | @turn c p t others count out hdue hrest ih =>
      cases hmiddle : takeDue middle c.timers with
      | none =>
          exact ⟨0, _, _, .stand hmiddle, (advances_resume hmiddle hnow).mpr (.turn hdue hrest),
            (Nat.zero_add _).symm⟩
      | some taken =>
          obtain rfl : taken = (t, others) :=
            Option.some.inj ((takeDue_mono hle hmiddle).symm.trans hdue)
          obtain ⟨first, second, via, hfirst, hsecond, rfl⟩ := ih (fire_now_le hnow hmiddle)
          refine ⟨_, second, via, .turn hmiddle hfirst, hsecond, ?_⟩
          split <;> omega

/-- Two advances, one after the other, are one. -/
theorem Advances.join {first second : Nat} {via : ManualClock × σ × Diary}
    (hfirst : Advances conduct.hear middle c p first via)
    (hsecond : Advances conduct.hear instant via.1 via.2 second out)
    (hle : middle ≤ instant) (hnow : c.now ≤ middle) :
    Advances conduct.hear instant c p (first + second) out := by
  induction hfirst with
  | stand hmiddle =>
      rw [Nat.zero_add]
      exact (advances_resume hmiddle hnow).mp hsecond
  | @turn c p t others first via hmiddle _ ih =>
      have hcount : (if t.listener ∈ c.listeners then first + 1 else first) + second =
          if t.listener ∈ c.listeners then first + second + 1 else first + second := by
        split <;> omega
      rw [hcount]
      exact .turn (takeDue_mono hle hmiddle) (ih hsecond (fire_now_le hnow hmiddle))

end Two

variable (conduct : Conducts σ)

/-- Whatever listeners that keep to requests do while they are told, an advance that
returns fires due timers by deadline and of equal deadlines as they were scheduled,
each at its turn still pending, as long as every delay that they ask for leads to an
instant that can be written; it leaves nothing that is due and stands at its end.  Two
advances return exactly when the one over both distances does, and make of clock,
listeners and diary the same, with as many firings. -/
theorem advance_in_order_and_additive (c : ManualClock) (s : σ) (d : Diary) {a b : Nanos}
    (ha : 0 ≤ a) (hb : 0 ≤ b) :
    (∀ room count out, c.advance conduct.hear room a (s, d) = some (count, out) →
      ∃ fired news, out.2.2 = d ++ news ∧ count = fired.length ∧
        (news.Fits → FiresInOrder c (c.now + a) news fired) ∧
        (∀ t ∈ out.1.timers, c.now + a < t.deadline) ∧ out.1.now = c.now + a) ∧
    ∀ count out,
      (∃ room, c.advance conduct.hear room (a + b) (s, d) = some (count, out)) ↔
        ∃ first second via, (∃ room, c.advance conduct.hear room a (s, d) = some (first, via)) ∧
          (∃ room, via.1.advance conduct.hear room b via.2 = some (second, out)) ∧
          count = first + second := by
  have hnow : c.now ≤ c.now + a := Int.le_add_of_nonneg_right ha
  have hle : c.now + a ≤ c.now + a + b := Int.le_add_of_nonneg_right hb
  refine ⟨fun room count out hout => ?_, fun count out => ?_⟩
  · obtain ⟨fired, news, hnews, hcount, -, hfires, hleft, hstands⟩ :=
      (advances_of_advanceTo hout).fires
    exact ⟨fired, news, hnews, hcount, hfires, hleft, hstands⟩
  unfold advance
  rw [← Int.add_assoc]
  simp only [← advances_iff]
  constructor
  · intro hboth
    obtain ⟨first, second, via, hfirst, hsecond, hcount⟩ := hboth.split hle hnow
    obtain ⟨-, -, -, -, -, -, -, hvia⟩ := hfirst.fires
    exact ⟨first, second, via, hfirst, by rwa [hvia], hcount⟩
  · rintro ⟨first, second, via, hfirst, hsecond, rfl⟩
    obtain ⟨-, -, -, -, -, -, -, hvia⟩ := hfirst.fires
    rw [hvia] at hsecond
    exact hfirst.join hsecond hle hnow

/-- A listener that, told of its first timer, cancels the second one and schedules a
third one without delay. -/
def relay : Conducts Unit := fun id notice _ =>
  if notice = .timer ⟨1⟩ then
    .ask (.cancel id ⟨2⟩) fun _ => .ask (.schedule id ⟨3⟩ 0) fun _ => .answer .keep ()
  else .answer .keep ()

/-- A clock with four timers of one listener, the last one of them overdue. -/
def relayClock : ManualClock where
  now := 5
  lastId := 1
  listeners := [⟨1⟩]
  timers := [⟨⟨1⟩, ⟨1⟩, 10⟩, ⟨⟨1⟩, ⟨2⟩, 10⟩, ⟨⟨1⟩, ⟨4⟩, 20⟩, ⟨⟨1⟩, ⟨0⟩, 3⟩]

/-- The overdue timer fires first.  The first one has the second one cancelled and the
third one fire right after it; the fourth one is left to the second advance. -/
theorem advance_in_order_of_relay :
    (0 : Nanos) ≤ 5 ∧ (0 : Nanos) ≤ 10 ∧
    (∃ out, relayClock.advance relay.hear 3 5 ((), []) = some (3, out) ∧
      out.2.2.calls.map (·.2) = [.timer ⟨0⟩, .timer ⟨1⟩, .timer ⟨3⟩] ∧
      ∃ fired news, out.2.2 = [] ++ news ∧ 3 = fired.length ∧
        FiresInOrder relayClock (relayClock.now + 5) news fired ∧
        (∀ t ∈ out.1.timers, relayClock.now + 5 < t.deadline) ∧
        out.1.now = relayClock.now + 5) ∧
    ∃ out, relayClock.advance relay.hear 4 (5 + 10) ((), []) = some (4, out) ∧
      ∃ first second via,
        (∃ room, relayClock.advance relay.hear room 5 ((), []) = some (first, via)) ∧
        (∃ room, via.1.advance relay.hear room 10 via.2 = some (second, out)) ∧
        4 = first + second := by
  have h := advance_in_order_and_additive relay relayClock () [] (a := 5) (b := 10)
    (by decide) (by decide)
  obtain ⟨out, hout, hcalls, hfits⟩ :
      ∃ out, relayClock.advance relay.hear 3 5 ((), []) = some (3, out) ∧
        out.2.2.calls.map (·.2) = [.timer ⟨0⟩, .timer ⟨1⟩, .timer ⟨3⟩] ∧ out.2.2.Fits :=
    ⟨_, rfl, rfl, by decide⟩
  obtain ⟨fired, news, hnews, hcount, hfires, hleft, hnow⟩ := h.1 3 3 out hout
  rw [hnews, List.nil_append] at hfits
  obtain ⟨out', hout'⟩ :
      ∃ out, relayClock.advance relay.hear 4 (5 + 10) ((), []) = some (4, out) := ⟨_, rfl⟩
  exact ⟨by decide, by decide,
    ⟨out, hout, hcalls, fired, news, hnews, hcount, hfires hfits, hleft, hnow⟩,
    out', hout', (h.2 4 out').mp ⟨4, hout'⟩⟩

end ManualClock

end ScreenPointer
