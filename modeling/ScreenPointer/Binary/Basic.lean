/-
# Binary floating-point numbers

A number of a format is not-a-number, an infinity, or a signed magnitude that the
format holds.  Every operation computes its exact result as a ratio of naturals
and rounds once, to nearest with ties to even; what rounds to the ceiling or
beyond is an infinity.  There is one not-a-number: payloads are not kept.

Structural equality of values tells `0` from `-0` and makes not-a-number equal
to itself; `same`, `less` and `atMost` are the numerical comparisons.
-/

import ScreenPointer.Binary.Format

namespace ScreenPointer

/-- A number of format `f`. -/
inductive Binary (f : Format) where
  | nan
  | infinite (negative : Bool)
  | finite (negative : Bool) (magnitude : Nat) (holds : f.Holds magnitude)
  deriving DecidableEq

/-- The four-byte format, in which all geometry and blending is computed. -/
abbrev Single := Binary .single

/-- The eight-byte format, in which decimal texts are read and written. -/
abbrev Double := Binary .double

namespace Binary

variable {f : Format}

/-- A zero of the given sign. -/
def zero (negative : Bool) : Binary f :=
  .finite negative 0 ⟨Nat.dvd_zero _, Nat.two_pow_pos _⟩

/-- The number nearest to `num / den` units, of the given sign.  A result that
rounds to zero keeps the sign; one that rounds past the range is infinite. -/
def ofRatio (negative : Bool) (num den : Nat) : Binary f :=
  if h : f.nearest num den < 2 ^ f.ceiling then
    .finite negative (f.nearest num den) ⟨f.spacing_dvd_nearest num den, h⟩
  else
    .infinite negative

/-- The number nearest to an integer; `0` is the positive zero. -/
def ofInt (i : Int) : Binary f := ofRatio (decide (i < 0)) (i.natAbs * 2 ^ f.fraction) 1

instance (n : Nat) : OfNat (Binary f) n := ⟨ofInt n⟩

def half : Binary f := ofRatio false (2 ^ f.fraction) 2

/-- The same value in another format, rounded if that format is coarser. -/
def convert (g : Format) : Binary f → Binary g
  | nan => nan
  | infinite negative => infinite negative
  | finite negative m _ => ofRatio negative (m * 2 ^ g.fraction) (2 ^ f.fraction)

/-- The signed count of units. -/
def signed (negative : Bool) (m : Nat) : Int := if negative then -m else m

/-- The place of a number on the line, in units; an infinity stands at the
ceiling, beyond every finite number, and not-a-number has no place. -/
def position : Binary f → Option Int
  | nan => none
  | infinite negative => some (signed negative (2 ^ f.ceiling))
  | finite negative m _ => some (signed negative m)

/-- Numerical order, false as soon as one side is not a number. -/
def less (x y : Binary f) : Bool :=
  match x.position, y.position with
  | some a, some b => decide (a < b)
  | _, _ => false

def atMost (x y : Binary f) : Bool :=
  match x.position, y.position with
  | some a, some b => decide (a ≤ b)
  | _, _ => false

/-- Numerical equality: both zeros are the same, not-a-number is nothing's equal. -/
def same (x y : Binary f) : Bool :=
  match x.position, y.position with
  | some a, some b => decide (a = b)
  | _, _ => false

def isFinite : Binary f → Bool
  | finite .. => true
  | _ => false

def neg : Binary f → Binary f
  | nan => nan
  | infinite negative => infinite (!negative)
  | finite negative m h => finite (!negative) m h

/-- Exact sum, rounded once.  An exact zero is negative only when both terms are
negative. -/
def add : Binary f → Binary f → Binary f
  | nan, _ => nan
  | _, nan => nan
  | infinite s, infinite t => if s = t then infinite s else nan
  | infinite s, finite .. => infinite s
  | finite .., infinite t => infinite t
  | finite s m _, finite t n _ =>
    let sum := signed s m + signed t n
    if sum = 0 then zero (s && t) else ofRatio (decide (sum < 0)) sum.natAbs 1

/-- Exact difference, rounded once. -/
def sub (x y : Binary f) : Binary f := add x (neg y)

/-- Exact product, rounded once; nothing times infinity is not a number. -/
def mul : Binary f → Binary f → Binary f
  | nan, _ => nan
  | _, nan => nan
  | infinite s, infinite t => infinite (s != t)
  | infinite s, finite t n _ => if n = 0 then nan else infinite (s != t)
  | finite s m _, infinite t => if m = 0 then nan else infinite (s != t)
  | finite s m _, finite t n _ => ofRatio (s != t) (m * n) (2 ^ f.fraction)

/-- Exact quotient, rounded once.  A nonzero number over zero is infinite. -/
def div : Binary f → Binary f → Binary f
  | nan, _ => nan
  | _, nan => nan
  | infinite _, infinite _ => nan
  | infinite s, finite t _ _ => infinite (s != t)
  | finite s _ _, infinite t => zero (s != t)
  | finite s m _, finite t n _ =>
    if n = 0 then
      if m = 0 then nan else infinite (s != t)
    else
      ofRatio (s != t) (m * 2 ^ f.fraction) n

instance : Neg (Binary f) := ⟨neg⟩
instance : Add (Binary f) := ⟨add⟩
instance : Sub (Binary f) := ⟨sub⟩
instance : Mul (Binary f) := ⟨mul⟩
instance : Div (Binary f) := ⟨div⟩

/-- The larger number; a number wins over not-a-number. -/
def maxNum (x y : Binary f) : Binary f :=
  if x.position.isNone then y else if x.less y then y else x

def minNum (x y : Binary f) : Binary f :=
  if x.position.isNone then y else if y.less x then y else x

end Binary

end ScreenPointer
