/-
# Decimal texts of binary numbers

Three rules live here.  A decimal literal is read as the nearest number of the
format.  A number is written with the fewest decimal digits that read back as it:
of the two neighbours of its value on a decimal grid the first grid with a hit
wins, of two hits the nearer one, and of two equally near ones the upper.  A
number is also written with a fixed count of places, rounded half to even.

Texts are positional throughout: no exponent is ever written.
-/

import ScreenPointer.Binary.Basic

namespace ScreenPointer

/-- An unsigned decimal: `digits * 10 ^ exponent`. -/
structure Decimal where
  digits : Nat
  exponent : Int
  deriving DecidableEq, Repr

namespace Decimal

/-- Numerator and denominator of the exact value. -/
def ratio (d : Decimal) : Nat × Nat :=
  if d.exponent < 0 then (d.digits, 10 ^ d.exponent.natAbs)
  else (d.digits * 10 ^ d.exponent.natAbs, 1)

/-- Digits of the whole part, at least one, and the digits after the point. -/
def parts (d : Decimal) : String × String :=
  if d.exponent < 0 then
    let places := d.exponent.natAbs
    let text := toString d.digits
    let padded := "".pushn '0' (places + 1 - text.length) ++ text
    let whole := padded.length - places
    (String.ofList (padded.toList.take whole), String.ofList (padded.toList.drop whole))
  else
    (toString d.digits ++ "".pushn '0' d.exponent.natAbs, "")

def ofDigits (digits : List Char) : Nat :=
  digits.foldl (fun n c => n * 10 + (c.toNat - '0'.toNat)) 0

/-- A sign in front, if there is one: is it a minus, and what follows? -/
def splitSign : List Char → Bool × List Char
  | '-' :: rest => (true, rest)
  | '+' :: rest => (false, rest)
  | rest => (false, rest)

/-- A literal as a sign and a decimal: digits, perhaps a point and more digits,
perhaps an exponent.  Anything else is no literal. -/
def ofLiteral? (text : List Char) : Option (Bool × Decimal) :=
  let (negative, rest) := splitSign text
  let whole := rest.takeWhile Char.isDigit
  let (places, rest) := match rest.dropWhile Char.isDigit with
    | '.' :: rest => (rest.takeWhile Char.isDigit, rest.dropWhile Char.isDigit)
    | rest => ([], rest)
  let digits := ofDigits (whole ++ places)
  let shift : Int := places.length
  let known := !(whole ++ places).isEmpty
  match rest with
  | [] => if known then some (negative, ⟨digits, -shift⟩) else none
  | mark :: rest =>
    let (down, exponent) := splitSign rest
    if known && (mark == 'e' || mark == 'E') && !exponent.isEmpty && exponent.all Char.isDigit then
      let size : Int := ofDigits exponent
      some (negative, ⟨digits, (if down then -size else size) - shift⟩)
    else none

/-- Positional text; the point appears only before digits. -/
def text (d : Decimal) : String :=
  match d.parts with
  | (whole, "") => whole
  | (whole, places) => whole ++ "." ++ places

end Decimal

/-- How many decimal digits a natural number has; zero has one. -/
def decimalLength (n : Nat) : Nat := (Nat.toDigits 10 n).length

/-- The exponent of the leading decimal digit of a positive ratio. -/
def leadingExponent (num den : Nat) : Int :=
  if den ≤ num then (decimalLength (num / den) : Int) - 1
  else -(decimalLength ((den - 1) / num) : Int)

/-- The ratios that round to one magnitude: from `low / 4` to `high / 4` units,
the ends included when halfway cases go to this magnitude. -/
structure RoundingInterval where
  low : Nat
  high : Nat
  closed : Bool

namespace Format

/-- Half the gap to either neighbour.  Below a power of two the gap is half as
wide as above it. -/
def roundingInterval (f : Format) (m : Nat) : RoundingInterval :=
  let step := f.spacing m
  let below := if step ≠ 1 ∧ m = f.spacing m * 2 ^ (f.precision - 1) then step else 2 * step
  { low := 4 * m - below, high := 4 * m + 2 * step, closed := m / step % 2 = 0 }

/-- Does `digits * 10 ^ exponent` round to the magnitude of this interval? -/
def reads (f : Format) (range : RoundingInterval) (d : Decimal) : Bool :=
  let (num, den) := d.ratio
  let value := num * 2 ^ f.fraction * 4
  if range.closed then range.low * den ≤ value && value ≤ range.high * den
  else range.low * den < value && value < range.high * den

/-- The better neighbour of a magnitude on the decimal grid `10 ^ exponent`, if
one of them reads back. -/
def onGrid? (f : Format) (m : Nat) (exponent : Int) : Option Decimal :=
  let range := f.roundingInterval m
  let (num, den) :=
    if exponent < 0 then (m * 10 ^ exponent.natAbs, 2 ^ f.fraction)
    else (m, 2 ^ f.fraction * 10 ^ exponent.natAbs)
  let low : Decimal := ⟨num / den, exponent⟩
  let high : Decimal := ⟨num / den + 1, exponent⟩
  match f.reads range low, f.reads range high with
  | true, true => some (if 2 * (num % den) < den then low else high)
  | true, false => some low
  | false, true => some high
  | false, false => none

/-- The first grid with a hit, from the given one to finer ones. -/
def firstGrid? (f : Format) (m : Nat) (exponent : Int) : Nat → Option Decimal
  | 0 => none
  | grids + 1 =>
    match f.onGrid? m exponent with
    | some d => some d
    | none => f.firstGrid? m (exponent - 1) grids

/-- The shortest decimal that reads back as a magnitude.  No magnitude needs more
decimal digits than its format has binary ones, so that many grids are tried.  The
upper neighbour of a nine may be ten, which is one digit on the next grid. -/
def shortest (f : Format) (m : Nat) : Decimal :=
  if m = 0 then ⟨0, 0⟩
  else
    let lead := leadingExponent m (2 ^ f.fraction)
    match f.firstGrid? m lead f.precision with
    | none => ⟨0, 0⟩
    | some d => if d.digits = 10 then ⟨1, d.exponent + 1⟩ else d

end Format

namespace Binary

variable {f : Format}

/-- The number nearest to a signed decimal.  Exponents far out of range are
answered without building the power of ten. -/
def ofDecimal (negative : Bool) (d : Decimal) : Binary f :=
  if d.digits = 0 then zero negative
  else
    let size : Int := d.digits.log2 + 3 * d.exponent
    if 0 ≤ d.exponent ∧ (f.ceiling : Int) ≤ size then infinite negative
    else if d.exponent < 0 ∧ size + 2 < -(f.fraction : Int) then zero negative
    else
      let (num, den) := d.ratio
      ofRatio negative (num * 2 ^ f.fraction) den

def ofLiteral? (text : List Char) : Option (Binary f) :=
  (Decimal.ofLiteral? text).map fun (negative, d) => ofDecimal negative d

def withSign (negative : Bool) (text : String) : String :=
  if negative then "-" ++ text else text

/-- Shortest text; a whole number has no point. -/
def shortestText : Binary f → String
  | nan => "NaN"
  | infinite negative => withSign negative "inf"
  | finite negative m _ => withSign negative (f.shortest m).text

/-- Text with one decimal place, an exact half going to the even digit. -/
def onePlaceText : Binary f → String
  | nan => "NaN"
  | infinite negative => withSign negative "inf"
  | finite negative m _ =>
    let tenths := nearestEven (m * 10) (2 ^ f.fraction)
    withSign negative (toString (tenths / 10) ++ "." ++ toString (tenths % 10))

end Binary

end ScreenPointer
