/-
# Rehearsals end

A script may schedule timers that are due at once, whenever it hears of one.  Each request
costs it one of its budget, so no advance goes on for ever: it takes no more turns than there
are timers and requests left.
-/

import Mathlib.Algebra.GroupWithZero.Nat
import ScreenPointer.Clock.Script
import ScreenPointer.Proofs.Clock.Orderly
import ScreenPointer.Proofs.Clock.Turns

namespace ScreenPointer

theorem ManualClock.serve_timers_length_le (c : ManualClock) (request : ClockRequest) :
    (c.serve request).2.timers.length ≤ c.timers.length + 1 := by
  cases request with
  | register =>
      rw [serve_register]
      split <;> exact Nat.le_succ _
  | unregister id => exact Nat.le_succ_of_le (List.length_filter_le _ _)
  | tick id =>
      rw [serve_tick]
      split <;> exact Nat.le_succ _
  | schedule id token delay =>
      rw [serve_schedule]
      split
      · exact Nat.le_of_eq List.length_append
      · exact Nat.le_succ _
  | cancel id token => exact Nat.le_succ_of_le (List.length_filter_le _ _)

namespace Rehearsal

theorem budget_eq_sum (r : Rehearsal) : r.budget = (r.parts.map (·.2.budget)).sum := by
  rw [List.sum_eq_foldl, List.foldl_map]
  rfl

/-- A listener that is given another part leaves the budgets of the others. -/
theorem budget_join {r : Rehearsal} {id : ListenerId} {part : Part}
    (hpart : Keyed.find? id r.parts = some part) (part' : Part) :
    (r.join id part').budget + part.budget = r.budget + part'.budget := by
  rw [budget_eq_sum, budget_eq_sum, join]
  dsimp only
  generalize r.parts = parts at hpart
  induction parts with
  | nil => cases hpart
  | cons pair rest ih =>
      unfold Keyed.find? at hpart
      unfold Keyed.insert
      split at hpart
      · rename_i hown
        cases hpart
        simp only [if_pos hown, List.map_cons, List.sum_cons]
        omega
      · rename_i hown
        have hrest := ih hpart
        simp only [if_neg hown, List.map_cons, List.sum_cons]
        omega

theorem perform_parts (id : ListenerId) (actions : List ScriptAction) (budget : Nat)
    (c : ManualClock) (r : Rehearsal) : (perform id actions budget c r).2.2.parts = r.parts := by
  induction actions generalizing budget c r with
  | nil => rfl
  | cons action rest ih =>
      cases budget with
      | zero => rfl
      | succ budget => exact ih budget _ _

/-- A request may schedule a timer, and costs one. -/
theorem perform_pays (id : ListenerId) (actions : List ScriptAction) (budget : Nat)
    (c : ManualClock) (r : Rehearsal) :
    (perform id actions budget c r).2.1.timers.length + (perform id actions budget c r).1 ≤
      c.timers.length + budget := by
  induction actions generalizing budget c r with
  | nil => exact Nat.le_refl _
  | cons action rest ih =>
      cases budget with
      | zero => exact Nat.le_refl _
      | succ budget =>
          have hserved := c.serve_timers_length_le (action.toRequest id)
          calc (perform id (action :: rest) (budget + 1) c r).2.1.timers.length +
                (perform id (action :: rest) (budget + 1) c r).1
              ≤ (c.serve (action.toRequest id)).2.timers.length + budget := ih budget _ _
            _ ≤ c.timers.length + 1 + budget := Nat.add_le_add_right hserved budget
            _ = c.timers.length + (budget + 1) := Nat.add_right_comm _ 1 budget

theorem hear_pays (id : ListenerId) (notice : Notice) (c : ManualClock) (r : Rehearsal) :
    (hear id notice c r).2.1.timers.length + (hear id notice c r).2.2.budget ≤
      c.timers.length + r.budget := by
  unfold hear
  split
  · exact Nat.le_refl _
  · rename_i part hpart
    split
    · exact Nat.le_refl _
    · rename_i reaction _
      dsimp only
      split
      · have hpays := perform_pays id reaction.actions part.budget c (r.note id (.heard notice))
        have hparts := perform_parts id reaction.actions part.budget c (r.note id (.heard notice))
        generalize perform id reaction.actions part.budget c (r.note id (.heard notice)) = out at *
        obtain ⟨budget, c', r'⟩ := out
        have hpart' : Keyed.find? id r'.parts = some part := by
          rw [hparts]
          exact hpart
        have hjoin := budget_join hpart' { part with budget }
        have hsame : r'.budget = r.budget := by
          rw [budget_eq_sum, hparts, budget_eq_sum]
          rfl
        dsimp only at *
        omega
      · exact Nat.le_refl _

/-- Every advance of a clock with scripted listeners ends. -/
theorem advance_isSome (c : ManualClock) (delta : Nanos) (r : Rehearsal) :
    (c.advance hear (c.timers.length + r.budget) delta r).isSome = true := by
  have hpaying : ManualClock.Paying hear budget := by
    intro token id c r
    apply ManualClock.tell_keeps
      (P := fun d : ManualClock × Rehearsal =>
        d.1.timers.length + d.2.budget ≤ c.timers.length + r.budget)
    · exact hear_pays id (.timer token) c r
    · intro c' r' hle
      exact Nat.le_trans (Nat.add_le_add_right (List.length_filter_le _ _) _) hle
  exact hpaying.advanceTo_isSome (Nat.le_refl _)

end Rehearsal

end ScreenPointer
