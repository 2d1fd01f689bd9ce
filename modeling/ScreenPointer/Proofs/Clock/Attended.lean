/-
# Attended clocks

A manual clock, those who listen to it and the diary of what has happened, moved on
by the owner of the clock.  Listeners may make any request of the clock while they
are being told something, so order has to hold at every entry of the diary and not
only between the moves of the owner.

An advance need not end.  As a move it takes a number of turns, so every clock that
can be seen during an advance, ending or not, is one that some moves lead to.
-/

import Mathlib.Data.List.Nodup
import ScreenPointer.Proofs.Clock.Advance

namespace ScreenPointer

/-! ## How long a listener has waited, and who was ever registered -/

namespace Diary

/-- How many of the last entries have the listener waiting for a vsync.  Whoever asked
first, and has waited since, has waited for longest. -/
def waited (id : ListenerId) (d : Diary) : Nat :=
  (d.reverse.takeWhile fun e => id ∈ e.clock.requests).length

def handedOut (d : Diary) : List ListenerId := d.flatMap (·.occurrence.registers)

variable {id : ListenerId} {d : Diary} {e : DiaryEntry}

theorem waited_concat_of_mem (h : id ∈ e.clock.requests) :
    waited id (d ++ [e]) = waited id d + 1 := by
  simp [waited, h]

theorem waited_concat_of_not_mem (h : id ∉ e.clock.requests) : waited id (d ++ [e]) = 0 := by
  simp [waited, h]

theorem handedOut_concat : handedOut (d ++ [e]) = handedOut d ++ e.occurrence.registers := by
  simp [handedOut]

end Diary

/-- A clock that goes with its diary. -/
structure ManualClock.Recorded (c : ManualClock) (d : Diary) : Prop where
  orderly : c.Orderly
  always : ∀ e ∈ d, e.clock.Orderly
  handedOut : (Diary.handedOut d).map (·.number) = List.range' 1 c.lastId
  inTurn : c.requests.Pairwise fun first second => Diary.waited second d < Diary.waited first d
  behind : ∀ id ∈ c.requests, ∀ other, other ∉ c.requests →
    Diary.waited other d < Diary.waited id d

namespace ManualClock.Recorded

variable {c c' : ManualClock} {d news : Diary}

theorem fresh (connected : Bool) : ({ connected } : ManualClock).Recorded [] :=
  ⟨.fresh connected, fun _ h => (List.not_mem_nil h).elim, rfl, .nil,
    fun _ h => (List.not_mem_nil h).elim⟩

theorem move (h : c.Recorded d) {timers : List Timer} (hsub : timers.Sublist c.timers)
    (now : Nanos) : { c with timers, now }.Recorded d :=
  ⟨h.orderly.move hsub now, h.always, h.handedOut, h.inTurn, h.behind⟩

theorem clear (h : c.Recorded d) (now : Nanos) : { c with now, requests := [] }.Recorded d :=
  ⟨h.orderly.clear now, h.always, h.handedOut, .nil, fun _ hid => (List.not_mem_nil hid).elim⟩

/-- An occurrence adds at most one listener to those who wait, behind all others. -/
theorem after {o : Occurrence} (h : c.Recorded d) (effect : Happens.Effect c o c') :
    c'.Recorded (d ++ [⟨o, c'⟩]) := by
  have hwaits : ∀ id ∈ c'.requests, Diary.waited id (d ++ [⟨o, c'⟩]) = Diary.waited id d + 1 :=
    fun id hid => Diary.waited_concat_of_mem hid
  refine ⟨h.orderly.after effect, ?_, ?_, ?_, ?_⟩
  · intro e he
    rcases List.mem_append.mp he with hold | hnew
    · exact h.always e hold
    · rw [List.mem_singleton.mp hnew]
      exact h.orderly.after effect
  · rw [Diary.handedOut_concat, List.map_append, h.handedOut, effect.lastId]
    cases hregisters : o.registers with
    | nil => simp
    | cons id rest =>
        have hone : rest = [] := by
          unfold Occurrence.registers at hregisters
          split at hregisters
          · exact (List.cons.inj hregisters).2.symm
          · cases hregisters
        have hnumber : id.number = c.lastId + 1 :=
          effect.registers id (hregisters ▸ List.mem_cons_self)
        simp [hone, hnumber, List.range'_1_concat, Nat.add_comm]
  · have hturn : c'.requests.Pairwise fun first second =>
        Diary.waited second d < Diary.waited first d := by
      rw [effect.requests]
      refine List.pairwise_append.mpr
        ⟨h.inTurn.filter _, o.requests_pairwise.filter _, fun id hid other hother => ?_⟩
      exact h.behind id (List.mem_filter.mp hid).1 other
        (of_decide_eq_true (List.mem_filter.mp hother).2)
    refine hturn.imp_of_mem fun hfirst hsecond hlt => ?_
    rw [hwaits _ hfirst, hwaits _ hsecond]
    exact Nat.succ_lt_succ hlt
  · intro id hid other hother
    rw [hwaits id hid, Diary.waited_concat_of_not_mem hother]
    exact Nat.succ_pos _

theorem course (h : c.Recorded d) (course : Course c news c') : c'.Recorded (d ++ news) := by
  induction course generalizing d with
  | nil _ => rwa [List.append_nil]
  | cons happens _ ih =>
      rw [List.append_cons]
      exact ih (h.after happens.effect)

end ManualClock.Recorded

/-! ## Moves -/

/-- A clock, the state of its listeners, and the diary of all that has happened between them. -/
structure Attended (σ : Type) where
  clock : ManualClock
  state : σ
  diary : Diary

/-- What the owner of a clock does with it: ask what a listener may ask, move it, and tell
listeners anything out of turn. -/
inductive OwnerMove
  | setNow (now : Nanos)
  | ask (request : ClockRequest)
  /-- Deliver vsyncs; a single one is a burst of one. -/
  | burst (timestamps : List Nanos)
  | broadcast (events : List DisplayEvent)
  | failConnection
  /-- Tell any listeners anything, in any order.  A clock that keeps its listeners in
  an order of its own broadcasts like this. -/
  | tell (ids : List ListenerId) (notice : Notice)
  /-- An advance, or the beginning of one. -/
  | advance (delta : Nanos) (turns : Nat)
  | frames (frame : Nanos) (limit : Nat)

namespace Attended

open ManualClock

variable {σ : Type} (conduct : Conducts σ)

def fresh (connected : Bool) (state : σ) : Attended σ := ⟨{ connected }, state, []⟩

def after (out : ManualClock × σ × Diary) : Attended σ := ⟨out.1, out.2.1, out.2.2⟩

def make (a : Attended σ) : OwnerMove → Attended σ
  | .setNow now => { a with clock := a.clock.setNow now }
  | .ask request =>
    let (answer, clock) := a.clock.serve request
    ⟨clock, a.state, a.diary ++ [⟨.asked request answer, clock⟩]⟩
  | .burst timestamps => after (a.clock.vsyncBurst conduct.hear timestamps (a.state, a.diary)).2
  | .broadcast events => after (a.clock.broadcast conduct.hear events (a.state, a.diary)).2
  | .failConnection => after (a.clock.failConnection conduct.hear (a.state, a.diary))
  | .tell ids notice => after (tellAll conduct.hear notice ids a.clock (a.state, a.diary))
  | .advance delta turns =>
    after (advanceWithin conduct.hear (a.clock.now + delta) turns a.clock (a.state, a.diary))
  | .frames frame limit => after (a.clock.runFrames conduct.hear frame limit (a.state, a.diary)).2

def run (a : Attended σ) (moves : List OwnerMove) : Attended σ := moves.foldl (make conduct) a

/-- A property of a clock, its listeners and their diary that telling a listener, asking the clock
and moving it keep. -/
structure Law (P : ManualClock × σ × Diary → Prop) : Prop where
  told : ∀ notice id c p, P (c, p) → P (c.tell conduct.hear notice id p)
  asked : ∀ c s d request, P (c, s, d) →
    P ((c.serve request).2, s, d ++ [⟨.asked request (c.serve request).1, (c.serve request).2⟩])
  moved : ∀ c p timers now, timers.Sublist c.timers → P (c, p) → P ({ c with timers, now }, p)
  cleared : ∀ c p now, P (c, p) → P ({ c with now, requests := [] }, p)

namespace Law

variable {conduct : Conducts σ} {P : ManualClock × σ × Diary → Prop} {c : ManualClock}
  {p : σ × Diary}

theorem fire (law : Law conduct P) {t : Timer} {others : List Timer}
    (hsub : others.Sublist c.timers) (h : P (c, p)) : P (c.fire conduct.hear t others p) := by
  have hmoved := law.moved c p others (max c.now t.deadline) hsub h
  by_cases hlistener : t.listener ∈ c.listeners
  · rw [fire_of_mem others hlistener]
    exact law.told _ _ _ _ hmoved
  · rw [fire_of_not_mem others hlistener]
    exact hmoved

theorem advanceWithin (law : Law conduct P) (instant : Nanos) (turns : Nat) (h : P (c, p)) :
    P (advanceWithin conduct.hear instant turns c p) := by
  induction turns generalizing c p with
  | zero => exact h
  | succ turns ih =>
      unfold ManualClock.advanceWithin
      split
      · exact law.moved c p c.timers instant (List.Sublist.refl _) h
      · rename_i hdue
        exact ih (law.fire (takeDue_sublist hdue) h)

theorem vsyncBurst (law : Law conduct P) (timestamps : List Nanos) (h : P (c, p)) :
    P (c.vsyncBurst conduct.hear timestamps p).2 :=
  vsyncBurst_keeps law.cleared (law.told _) h

theorem make (law : Law conduct P) (a : Attended σ) (move : OwnerMove)
    (h : P (a.clock, a.state, a.diary)) :
    P ((a.make conduct move).clock, (a.make conduct move).state, (a.make conduct move).diary) := by
  cases move with
  | setNow now => exact law.moved _ _ _ now (List.Sublist.refl _) h
  | ask request => exact law.asked _ _ _ request h
  | burst timestamps => exact law.vsyncBurst timestamps h
  | broadcast events => exact broadcast_keeps (law.told _) h
  | failConnection => exact failConnection_keeps (law.told _) h
  | tell ids notice => exact tellAll_keeps (law.told _) ids _ _ h
  | advance delta turns => exact law.advanceWithin _ turns h
  | frames frame limit =>
      exact runFrames_keeps (fun t _ _ hp => law.vsyncBurst [t] hp) limit _ _ h

/-- What telling, asking and moving keep, a whole run keeps. -/
theorem run (law : Law conduct P) (moves : List OwnerMove) (a : Attended σ)
    (h : P (a.clock, a.state, a.diary)) :
    P ((a.run conduct moves).clock, (a.run conduct moves).state, (a.run conduct moves).diary) := by
  induction moves generalizing a with
  | nil => exact h
  | cons move rest ih => exact ih _ (law.make a move h)

end Law

theorem recorded_law : Law conduct fun out => out.1.Recorded out.2.2 where
  told notice id c p h := by
    obtain ⟨c', s', news, htell, hcourse, -⟩ := tell_course conduct notice id c p.1 p.2
    rw [htell]
    exact h.course hcourse
  asked c _ _ request h := h.after (.asked c request)
  moved _ _ _ now hsub h := h.move hsub now
  cleared _ _ now h := h.clear now

theorem run_recorded (moves : List OwnerMove) (a : Attended σ) (h : a.clock.Recorded a.diary) :
    (a.run conduct moves).clock.Recorded (a.run conduct moves).diary :=
  (recorded_law conduct).run moves a h

/-! ## Vsyncs and advances -/

/-- What a vsync does, from the clock and the diary before it, for the news it makes and
the clock it leaves. -/
structure ServesWaiting (a : Attended σ) (timestamps : List Nanos) (count : Nat) (news : Diary)
    (left : ManualClock) : Prop where
  /-- Those are told who waited when it began, and in which order. -/
  calls : news.calls = a.clock.requests.map fun id => (id, .events (burstEvents timestamps))
  count : count = a.clock.requests.length
  /-- Each of them once. -/
  once : a.clock.requests.Nodup
  /-- Whoever asked first comes first. -/
  inTurn : a.clock.requests.Pairwise fun first second =>
    Diary.waited second a.diary < Diary.waited first a.diary
  /-- Those wait from now on who asked meanwhile and have not gone since. -/
  waiting : ∀ id, id ∈ left.requests ↔ Diary.Requested id news

theorem servesWaiting (a : Attended σ) (h : a.clock.Recorded a.diary) {timestamps : List Nanos}
    (hsome : timestamps ≠ []) :
    ∃ count left s news,
      a.clock.vsyncBurst conduct.hear timestamps (a.state, a.diary) =
        (count, left, s, a.diary ++ news) ∧
      a.ServesWaiting timestamps count news left := by
  have htargets : a.clock.requests.filter a.clock.isRegistered = a.clock.requests :=
    List.filter_eq_self.mpr fun id hid => by
      simpa [isRegistered] using h.orderly.waiting_registered id hid
  obtain ⟨left, s, news, htold, hcourse, hcalls⟩ := tellAll_course conduct
    (.events (burstEvents timestamps)) a.clock.requests
    { a.clock with now := max a.clock.now (timestamps.getLast hsome), requests := [] }
    a.state a.diary
  refine ⟨a.clock.requests.length, left, s, news, ?_, hcalls, rfl, h.orderly.waiting_nodup,
    h.inTurn, fun id => ?_⟩
  · unfold vsyncBurst
    rw [List.getLast?_eq_some_getLast hsome]
    dsimp only
    rw [htargets, htold]
  · rw [hcourse.mem_requests_iff]
    simp

/-- On an orderly clock an advance tells a listener of every timer that it takes. -/
theorem fire_of_orderly {c : ManualClock} (h : c.Orderly) {instant : Nanos} {t : Timer}
    {others : List Timer} (hdue : takeDue instant c.timers = some (t, others))
    (hear : Listeners σ) (s : σ) :
    c.fire hear t others s =
      { c with timers := others, now := max c.now t.deadline }.tell hear (.timer t.token)
        t.listener s := by
  have hmem := ((takeDue_takes hdue).mem_iff t).mpr (.inl rfl)
  exact fire_of_mem others (h.timers_registered t hmem)

/-- Whatever the owner of a clock does with it, from its making on, and whatever requests
its listeners make while they are told something: the clock is orderly after every move
and at every entry of the diary, so whenever anyone might look at it, and no listener is
given a number that was given before.  Hence a vsync calls those who waited when it
began, each once, in the order in which they first asked, and leaves waiting who asked
meanwhile, unless gone; and an advance calls a listener for every timer it takes. -/
theorem orderly_under_reentrancy (connected : Bool) (state : σ) (moves : List OwnerMove) :
    let a := (fresh connected state).run conduct moves
    (a.clock.Orderly ∧ ∀ e ∈ a.diary, e.clock.Orderly) ∧
    (Diary.handedOut a.diary).Nodup ∧
    (∀ timestamps, timestamps ≠ [] →
      ∃ count left s news,
        a.clock.vsyncBurst conduct.hear timestamps (a.state, a.diary) =
          (count, left, s, a.diary ++ news) ∧
        a.ServesWaiting timestamps count news left) ∧
    (∀ instant t others, takeDue instant a.clock.timers = some (t, others) →
      a.clock.fire conduct.hear t others (a.state, a.diary) =
        { a.clock with timers := others, now := max a.clock.now t.deadline }.tell conduct.hear
          (.timer t.token) t.listener (a.state, a.diary)) ∧
    ∀ room delta count out,
      a.clock.advance conduct.hear room delta (a.state, a.diary) = some (count, out) →
      a.make conduct (.advance delta (room + 1)) = after out ∧
      ∃ news, out.2.2 = a.diary ++ news ∧ count = news.calls.length := by
  intro a
  have h : a.clock.Recorded a.diary := run_recorded conduct moves _ (.fresh connected)
  refine ⟨⟨h.orderly, h.always⟩, ?_, fun timestamps hsome => servesWaiting conduct a h hsome,
    fun instant t others hdue => fire_of_orderly h.orderly hdue _ _,
    fun room delta count out hadvance => ⟨?_, ?_⟩⟩
  · exact List.Nodup.of_map (·.number) (h.handedOut ▸ List.nodup_range')
  · exact congrArg after (advanceWithin_of_advanceTo hadvance)
  · obtain ⟨fired, news, hnews, hcount, hcalls, -⟩ := (advances_of_advanceTo hadvance).fires
    exact ⟨news, hnews, by rw [hcalls, List.length_map, hcount]⟩

/-- Listeners that, told of a vsync, ask for another one, have the second listener
unregistered, and register one more, for which they also ask. -/
def bustle : Conducts Unit := fun id notice _ =>
  match notice with
  | .events _ =>
    .ask (.tick id) fun _ => .ask (.unregister ⟨2⟩) fun _ => .ask .register fun
      | .registered new => .ask (.tick new) fun _ => .answer .keep ()
      | _ => .answer .keep ()
  | _ => .answer .deregister ()

/-- Three listeners wait for a vsync, the second one first, and the first one has a
timer. -/
def bustleMoves : List OwnerMove :=
  [.ask .register, .ask .register, .ask .register, .ask (.tick ⟨2⟩), .ask (.tick ⟨1⟩),
    .ask (.tick ⟨3⟩), .ask (.tick ⟨2⟩), .ask (.schedule ⟨1⟩ ⟨7⟩ 50)]

/-- All three are told once.  Afterwards the second one, gone since the first call, does
not wait although it asked, and the new ones do, each behind whoever registered it. -/
theorem orderly_under_reentrancy_of_bustle :
    let a := (fresh true ()).run bustle bustleMoves
    a.clock.requests = [⟨2⟩, ⟨1⟩, ⟨3⟩] ∧
    ([5] : List Nanos) ≠ [] ∧
    (∃ count left s news,
      a.clock.vsyncBurst bustle.hear [5] (a.state, a.diary) = (count, left, s, a.diary ++ news) ∧
      a.ServesWaiting [5] count news left) ∧
    (a.clock.vsyncBurst bustle.hear [5] (a.state, a.diary)).2.1.requests =
      [⟨4⟩, ⟨1⟩, ⟨5⟩, ⟨3⟩, ⟨6⟩] ∧
    takeDue 60 a.clock.timers = some (⟨⟨1⟩, ⟨7⟩, 50⟩, []) ∧
    a.clock.fire bustle.hear ⟨⟨1⟩, ⟨7⟩, 50⟩ [] (a.state, a.diary) =
      { a.clock with timers := [], now := max a.clock.now 50 }.tell bustle.hear
        (.timer ⟨7⟩) ⟨1⟩ (a.state, a.diary) ∧
    ∃ out, a.clock.advance bustle.hear 1 60 (a.state, a.diary) = some (1, out) ∧
      a.make bustle (.advance 60 2) = after out ∧
      ∃ news, out.2.2 = a.diary ++ news ∧ 1 = news.calls.length := by
  obtain ⟨-, -, hvsync, hfire, hadvance⟩ := orderly_under_reentrancy bustle true () bustleMoves
  intro a
  obtain ⟨out, hout⟩ :
      ∃ out, a.clock.advance bustle.hear 1 60 (a.state, a.diary) = some (1, out) := ⟨_, rfl⟩
  exact ⟨rfl, by decide, hvsync [5] (by decide), rfl, rfl, hfire 60 _ _ rfl,
    out, hout, hadvance 1 60 1 out hout⟩

end Attended

end ScreenPointer
