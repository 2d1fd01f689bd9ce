/-
# The turns of an advance

An advance takes turns.  In each it takes the first of the earliest timers off the
clock, if one is due, and fires it; when none is due it stands still.  This module
says so in equations, says which timer a turn takes, and gives the beginning of an
advance, which there is also when the advance has no end.

An advance ends if whoever schedules further timers while it hears of one has to pay for them.
-/

import Mathlib.Data.List.Basic
import ScreenPointer.Proofs.Delivery

namespace ScreenPointer

namespace ManualClock

variable {σ : Type} {hear : Listeners σ} {instant : Nanos} {c : ManualClock} {s : σ}
  {t : Timer} {timers others : List Timer}

/-! ## Which timer is taken -/

/-- Nothing is taken exactly when every deadline lies ahead. -/
theorem takeDue_eq_none_iff :
    takeDue instant timers = none ↔ ∀ t ∈ timers, instant < t.deadline := by
  induction timers with
  | nil => simp [takeDue]
  | cons first rest ih =>
      rw [List.forall_mem_cons, ← ih]
      simp only [takeDue]
      cases hrest : takeDue instant rest with
      | none => simp
      | some taken =>
          dsimp only
          split <;> simp

/-- The first of the earliest timers: those before it are due later, and those after it
no earlier. -/
structure FirstDue (before : List Timer) (t : Timer) (after : List Timer) : Prop where
  strict : ∀ x ∈ before, t.deadline < x.deadline
  weak : ∀ x ∈ after, t.deadline ≤ x.deadline

theorem exists_firstDue (h : takeDue instant timers = some (t, others)) :
    t.deadline ≤ instant ∧ ∃ before after, timers = before ++ t :: after ∧
      others = before ++ after ∧ FirstDue before t after := by
  induction timers generalizing t others with
  | nil => cases h
  | cons first rest ih =>
      simp only [takeDue] at h
      split at h
      · rename_i hnone
        split at h
        · rename_i hdue
          cases h
          exact ⟨hdue, [], rest, rfl, rfl, ⟨fun _ hx => (List.not_mem_nil hx).elim, fun x hx =>
            Int.le_trans hdue (Int.le_of_lt (takeDue_eq_none_iff.mp hnone x hx))⟩⟩
        · cases h
      · rename_i u others' hrest
        obtain ⟨hdue, before, after, rfl, rfl, hfirst⟩ := ih hrest
        split at h
        · rename_i hbefore
          cases h
          refine ⟨hbefore.1, [], _, rfl, rfl, fun _ hx => (List.not_mem_nil hx).elim,
            List.forall_mem_append.mpr ⟨fun x hx => ?_, List.forall_mem_cons.mpr
              ⟨hbefore.2, fun x hx => ?_⟩⟩⟩
          · exact Int.le_trans hbefore.2 (Int.le_of_lt (hfirst.strict x hx))
          · exact Int.le_trans hbefore.2 (hfirst.weak x hx)
        · rename_i hnot
          cases h
          have hlt : t.deadline < first.deadline := Int.not_le.mp fun hle =>
            hnot ⟨Int.le_trans hle hdue, hle⟩
          exact ⟨hdue, first :: before, after, rfl, rfl,
            List.forall_mem_cons.mpr ⟨hlt, hfirst.strict⟩, hfirst.weak⟩

theorem FirstDue.takeDue_eq {before after : List Timer} (h : FirstDue before t after)
    (hdue : t.deadline ≤ instant) :
    takeDue instant (before ++ t :: after) = some (t, before ++ after) := by
  induction before with
  | nil =>
      simp only [List.nil_append, takeDue]
      cases hafter : takeDue instant after with
      | none => exact if_pos hdue
      | some taken =>
          obtain ⟨-, ahead, behind, rfl, -⟩ := exists_firstDue hafter
          exact if_pos ⟨hdue, h.weak taken.1 (by simp)⟩
  | cons first before ih =>
      have hrest := ih ⟨fun x hx => h.strict x (List.mem_cons_of_mem _ hx), h.weak⟩
      have hlater := h.strict first List.mem_cons_self
      simp only [List.cons_append, takeDue, hrest]
      exact if_neg fun hnot => Int.not_le.mpr hlater hnot.2

/-- What is taken by an instant is taken by every later one. -/
theorem takeDue_mono {later : Nanos} (hle : instant ≤ later)
    (h : takeDue instant timers = some (t, others)) : takeDue later timers = some (t, others) := by
  obtain ⟨hdue, before, after, rfl, rfl, hfirst⟩ := exists_firstDue h
  exact hfirst.takeDue_eq (Int.le_trans hdue hle)

/-- A timer that is taken is due, no other one is earlier, and to take it is to take it
out: of each deadline the timers that were there are it, if it has this deadline, and
the others, in order. -/
structure Takes (instant : Nanos) (timers : List Timer) (t : Timer) (others : List Timer) :
    Prop where
  due : t.deadline ≤ instant
  earliest : ∀ other ∈ others, t.deadline ≤ other.deadline
  stable : ∀ deadline, timers.filter (·.deadline = deadline) =
    (t :: others).filter (·.deadline = deadline)

theorem takeDue_takes (h : takeDue instant timers = some (t, others)) :
    Takes instant timers t others := by
  obtain ⟨hdue, before, after, rfl, rfl, hfirst⟩ := exists_firstDue h
  refine ⟨hdue, List.forall_mem_append.mpr
    ⟨fun x hx => Int.le_of_lt (hfirst.strict x hx), hfirst.weak⟩, fun deadline => ?_⟩
  by_cases hmine : t.deadline = deadline
  · -- None of the timers before it has its deadline.
    have hnone : before.filter (·.deadline = deadline) = [] := List.filter_eq_nil_iff.mpr
      fun x hx => by simpa using Int.ne_of_gt (hmine ▸ hfirst.strict x hx)
    simp [hmine, hnone]
  · simp [hmine]

theorem takeDue_length (h : takeDue instant timers = some (t, others)) :
    timers.length = others.length + 1 := by
  obtain ⟨-, before, after, rfl, rfl, -⟩ := exists_firstDue h
  rw [List.length_append, List.length_append, List.length_cons, Nat.add_assoc]

theorem Takes.mem_iff (h : Takes instant timers t others) (x : Timer) :
    x ∈ timers ↔ x = t ∨ x ∈ others := by
  have hsame : x ∈ timers.filter (·.deadline = x.deadline) ↔
      x ∈ (t :: others).filter (·.deadline = x.deadline) := by rw [h.stable]
  simpa using hsame

/-! ## Firing -/

/-- A timer that is fired while its listener is there tells it so. -/
theorem fire_of_mem (others : List Timer) (h : t.listener ∈ c.listeners) :
    c.fire hear t others s =
      { c with timers := others, now := max c.now t.deadline }.tell hear (.timer t.token)
        t.listener s := by
  simp [fire, isRegistered, h]

/-- Otherwise it just goes, and time with it. -/
theorem fire_of_not_mem (others : List Timer) (h : t.listener ∉ c.listeners) :
    c.fire hear t others s =
      ({ c with timers := others, now := max c.now t.deadline }, s) := by
  simp [fire, isRegistered, h]

/-! ## The turns -/

theorem advanceTo_of_none (room : Nat) (h : takeDue instant c.timers = none) :
    advanceTo hear instant room c s = some (0, { c with now := instant }, s) := by
  cases room <;> simp [advanceTo, h]

theorem advanceTo_zero (h : takeDue instant c.timers = some (t, others)) :
    advanceTo hear instant 0 c s = none := by
  simp [advanceTo, h]

/-- A turn that takes a timer counts if the timer's listener is still there. -/
theorem advanceTo_of_some (room : Nat) (h : takeDue instant c.timers = some (t, others)) :
    advanceTo hear instant (room + 1) c s =
      (advanceTo hear instant room (c.fire hear t others s).1 (c.fire hear t others s).2).map
        fun (count, out) => (if t.listener ∈ c.listeners then count + 1 else count, out) := by
  simp only [advanceTo, h, fire, isRegistered, List.contains_eq_mem, decide_eq_true_eq]
  split
  · rfl
  · simp

/-- For whatever timers a listener schedules when it hears a timer, it pays from a purse. -/
def Paying (hear : Listeners σ) (purse : σ → Nat) : Prop :=
  ∀ (token : TimerToken) (id : ListenerId) (c : ManualClock) (s : σ),
    (c.tell hear (.timer token) id s).1.timers.length +
      purse (c.tell hear (.timer token) id s).2 ≤ c.timers.length + purse s

theorem Paying.fire_lt {purse : σ → Nat} (h : Paying hear purse)
    (hdue : takeDue instant c.timers = some (t, others)) :
    (c.fire hear t others s).1.timers.length + purse (c.fire hear t others s).2 <
      c.timers.length + purse s := by
  rw [takeDue_length hdue, Nat.add_right_comm, Nat.lt_succ_iff]
  unfold fire
  dsimp only
  split
  · exact h t.token t.listener _ s
  · exact Nat.le_refl _

/-- Each turn leaves less of timers and purse together, so an advance ends if there is room for
both. -/
theorem Paying.advanceTo_isSome {purse : σ → Nat} (h : Paying hear purse) {room : Nat}
    (hroom : c.timers.length + purse s ≤ room) :
    (advanceTo hear instant room c s).isSome = true := by
  induction room generalizing c s with
  | zero =>
      have hnone : c.timers = [] := List.eq_nil_of_length_eq_zero (by omega)
      rw [advanceTo_of_none 0 (by rw [hnone]; rfl)]
      rfl
  | succ room ih =>
      cases hdue : takeDue instant c.timers with
      | none =>
          rw [advanceTo_of_none _ hdue]
          rfl
      | some taken =>
          rw [advanceTo_of_some room hdue, Option.isSome_map]
          exact ih (Nat.le_of_lt_succ (Nat.lt_of_lt_of_le (h.fire_lt hdue) hroom))

/-- An advance that returns had nothing to do or the room for a turn. -/
theorem advanceTo_eq_some {room count : Nat} {out : ManualClock × σ}
    (h : advanceTo hear instant room c s = some (count, out)) :
    (takeDue instant c.timers = none ∧ count = 0 ∧ out = ({ c with now := instant }, s)) ∨
      ∃ rest t others count', room = rest + 1 ∧
        takeDue instant c.timers = some (t, others) ∧
        advanceTo hear instant rest (c.fire hear t others s).1 (c.fire hear t others s).2 =
          some (count', out) ∧
        count = if t.listener ∈ c.listeners then count' + 1 else count' := by
  cases hdue : takeDue instant c.timers with
  | none =>
      rw [advanceTo_of_none room hdue] at h
      cases h
      exact .inl ⟨rfl, rfl, rfl⟩
  | some taken =>
      cases room with
      | zero => rw [advanceTo_zero hdue] at h; cases h
      | succ rest =>
          rw [advanceTo_of_some rest hdue] at h
          obtain ⟨⟨count', out'⟩, hrest, heq⟩ := Option.map_eq_some_iff.mp h
          cases heq
          exact .inr ⟨rest, _, _, count', rfl, rfl, hrest, rfl⟩

/-- What an advance that ends comes to, with no view to the room it has.  It takes turns as long as
something is due, and stands still at the instant then. -/
inductive Advances (hear : Listeners σ) (instant : Nanos) :
    ManualClock → σ → Nat → ManualClock × σ → Prop
  | stand {c : ManualClock} {s : σ} :
      takeDue instant c.timers = none →
      Advances hear instant c s 0 ({ c with now := instant }, s)
  | turn {c : ManualClock} {s : σ} {t : Timer} {others : List Timer} {count : Nat}
      {out : ManualClock × σ} :
      takeDue instant c.timers = some (t, others) →
      Advances hear instant (c.fire hear t others s).1 (c.fire hear t others s).2 count out →
      Advances hear instant c s (if t.listener ∈ c.listeners then count + 1 else count) out

theorem advances_of_advanceTo {room count : Nat} {out : ManualClock × σ}
    (h : advanceTo hear instant room c s = some (count, out)) :
    Advances hear instant c s count out := by
  induction room generalizing c s count with
  | zero =>
      obtain ⟨hdue, rfl, rfl⟩ | ⟨_, _, _, _, hroom, -⟩ := advanceTo_eq_some h
      · exact .stand hdue
      · cases hroom
  | succ room ih =>
      obtain ⟨hdue, rfl, rfl⟩ | ⟨_, t, others, count', hroom, hdue, hrest, rfl⟩ :=
        advanceTo_eq_some h
      · exact .stand hdue
      · cases hroom
        exact .turn hdue (ih hrest)

theorem Advances.exists_room {count : Nat} {out : ManualClock × σ}
    (h : Advances hear instant c s count out) :
    ∃ room, advanceTo hear instant room c s = some (count, out) := by
  induction h with
  | stand hdue => exact ⟨0, advanceTo_of_none 0 hdue⟩
  | turn hdue _ ih =>
      obtain ⟨room, hrest⟩ := ih
      exact ⟨room + 1, by rw [advanceTo_of_some room hdue, hrest]; rfl⟩

/-- An advance ends exactly when some room is enough for it. -/
theorem advances_iff {count : Nat} {out : ManualClock × σ} :
    Advances hear instant c s count out ↔
      ∃ room, advanceTo hear instant room c s = some (count, out) :=
  ⟨Advances.exists_room, fun ⟨_, h⟩ => advances_of_advanceTo h⟩

/-- So many turns of an advance. -/
def advanceWithin (hear : Listeners σ) (instant : Nanos) :
    Nat → ManualClock → σ → ManualClock × σ
  | 0, c, s => (c, s)
  | turns + 1, c, s =>
    match takeDue instant c.timers with
    | none => ({ c with now := instant }, s)
    | some (t, others) =>
      let (c, s) := c.fire hear t others s
      advanceWithin hear instant turns c s

/-- An advance that returns has taken all the turns there were. -/
theorem advanceWithin_of_advanceTo {room count : Nat} {out : ManualClock × σ}
    (h : advanceTo hear instant room c s = some (count, out)) :
    advanceWithin hear instant (room + 1) c s = out := by
  induction room generalizing c s count with
  | zero =>
      obtain ⟨hdue, -, rfl⟩ | ⟨_, _, _, _, hroom, -⟩ := advanceTo_eq_some h
      · simp only [advanceWithin, hdue]
      · cases hroom
  | succ room ih =>
      obtain ⟨hdue, -, rfl⟩ | ⟨_, t, others, count', hroom, hdue, hrest, -⟩ :=
        advanceTo_eq_some h
      · simp only [advanceWithin, hdue]
      · cases hroom
        rw [advanceWithin, hdue]
        exact ih hrest

end ManualClock

end ScreenPointer
