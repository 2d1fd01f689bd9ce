/-
# Interchange encoding

The standard bit pattern of a number: a sign digit, a biased exponent, and the
significand without its leading digit.  Consecutive magnitudes have consecutive
codes, so the code of a magnitude is its number of lost digits, counted in whole
binades, plus what remains of the significand.

Every not-a-number pattern decodes to the one not-a-number.
-/

import ScreenPointer.Binary.Basic

namespace ScreenPointer

namespace Format

variable (f : Format)

/-- Codes in one binade. -/
def binade : Nat := 2 ^ (f.precision - 1)

/-- The place of a magnitude among the representable ones. -/
def code (m : Nat) : Nat := f.shift m * f.binade + m / f.spacing m

/-- The code of the infinity, one past the largest finite code. -/
def infinityCode : Nat := (f.ceiling - f.precision + 2) * f.binade

def signWeight : Nat := (f.ceiling - f.precision + 3) * f.binade

def magnitudeOfCode (c : Nat) : Nat :=
  let exponent := c / f.binade
  let rest := c % f.binade
  if exponent = 0 then rest else (f.binade + rest) * 2 ^ (exponent - 1)

end Format

namespace Binary

variable {f : Format}

/-- The bit pattern; `none` for not-a-number, which has many. -/
def bits? : Binary f → Option Nat
  | nan => none
  | infinite negative => some (sign negative + f.infinityCode)
  | finite negative m _ => some (sign negative + f.code m)
where
  sign (negative : Bool) : Nat := if negative then f.signWeight else 0

/-- The number with a given bit pattern; digits above the sign are ignored. -/
def ofBits (f : Format) (bits : Nat) : Binary f :=
  let negative := decide (bits / f.signWeight % 2 = 1)
  let c := bits % f.signWeight
  if c < f.infinityCode then ofRatio negative (f.magnitudeOfCode c) 1
  else if c = f.infinityCode then infinite negative
  else nan

end Binary

end ScreenPointer
