/-
# Time

Instants and durations are whole nanoseconds.  What fits 64 bits with a sign can be
written; the longest duration is `Nanos.longest`.

Conversions stop at the longest duration.  Sums and differences do not: `Nanos.wrap`
says what is left of one, and as long as it fits that is the whole of it.
-/

namespace ScreenPointer

/-- An instant on the clock's time base, or a duration. -/
abbrev Nanos := Int

namespace Nanos

def perMilli : Nanos := 1000000

def perSecond : Nanos := 1000000000

def longest : Nanos := 0x7FFFFFFFFFFFFFFF

/-- A count of milliseconds as a duration; what is too long is the longest. -/
def ofMillis (ms : Nat) : Nanos := min (min (ms : Int) longest * perMilli) longest

/-- Can it be written? -/
def Fits (n : Int) : Prop := -0x8000000000000000 ≤ n ∧ n < 0x8000000000000000

instance (n : Int) : Decidable (Fits n) := inferInstanceAs (Decidable (_ ∧ _))

/-- What is left of a sum or a difference.  One step after the longest duration comes
the least that can be written, so what does not fit is off by the whole range. -/
def wrap (n : Int) : Nanos := n.bmod 0x10000000000000000

/-- The instant that a delay leads to; a negative delay counts as none. -/
def after (now delay : Nanos) : Nanos := wrap (now + max delay 0)

def since (start instant : Nanos) : Nanos := wrap (instant - start)

theorem wrap_of_fits {n : Int} (h : Fits n) : wrap n = n := by
  unfold Fits at h
  exact Int.bmod_eq_of_le (by omega) (by omega)

end Nanos

end ScreenPointer
