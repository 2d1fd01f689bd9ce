/-
# Fading

A fade moves an opacity towards nothing or towards full by the share of its
duration that has elapsed, and ends exactly at its target.
-/

import ScreenPointer.Binary.Basic
import ScreenPointer.Time

namespace ScreenPointer

inductive FadeDirection
  | out
  | idle
  | into
  deriving DecidableEq, Repr

namespace FadeDirection

def sign : FadeDirection → Int
  | out => -1
  | idle => 0
  | into => 1

end FadeDirection

/-- An opacity and where it is going: out to nothing, into full opacity, or nowhere. -/
structure Fade where
  alpha : Single
  direction : FadeDirection
  deriving DecidableEq

/-- The share of a duration that an elapsed time is.  A duration below one
nanosecond counts as one. -/
def elapsedShare (elapsed duration : Nanos) : Single :=
  Binary.ofInt elapsed / Binary.ofInt (max duration 1)

namespace Fade

def isRunning (f : Fade) : Bool := f.direction ≠ .idle

/-- One step of a fade, and whether the fade goes on.  At or past the target the opacity is
the target itself and the fade is over. -/
def advance (elapsed duration : Nanos) (f : Fade) : Fade × Bool :=
  let share := elapsedShare elapsed duration
  match f.direction with
  | .idle => (f, false)
  | .out =>
    let alpha := f.alpha - share
    if alpha.atMost 0 then (⟨0, .idle⟩, false) else (⟨alpha, .out⟩, true)
  | .into =>
    let alpha := f.alpha + share
    if (1 : Single).atMost alpha then (⟨1, .idle⟩, false) else (⟨alpha, .into⟩, true)

/-- The fade after one step. -/
def step (elapsed duration : Nanos) (f : Fade) : Fade := (f.advance elapsed duration).1

theorem step_eq (elapsed duration : Nanos) (f : Fade) :
    f.step elapsed duration =
      match f.direction with
      | .idle => f
      | .out =>
        if (f.alpha - elapsedShare elapsed duration).atMost 0 then ⟨0, .idle⟩
        else ⟨f.alpha - elapsedShare elapsed duration, .out⟩
      | .into =>
        if (1 : Single).atMost (f.alpha + elapsedShare elapsed duration) then ⟨1, .idle⟩
        else ⟨f.alpha + elapsedShare elapsed duration, .into⟩ := by
  unfold step advance
  cases f.direction with
  | idle => rfl
  | out => exact apply_ite Prod.fst _ _ _
  | into => exact apply_ite Prod.fst _ _ _

/-- A fade goes on exactly as long as it has a direction. -/
theorem advance_eq (elapsed duration : Nanos) (f : Fade) :
    f.advance elapsed duration =
      (f.step elapsed duration, (f.step elapsed duration).isRunning) := by
  rw [step_eq]
  unfold advance
  cases hdirection : f.direction with
  | idle => simp [isRunning, hdirection]
  | out => dsimp only; split <;> rfl
  | into => dsimp only; split <;> rfl

/-- One step per elapsed time, each from where the one before ended. -/
def run (duration : Nanos) (f : Fade) (elapsed : List Nanos) : Fade :=
  elapsed.foldl (fun f e => f.step e duration) f

end Fade

end ScreenPointer
