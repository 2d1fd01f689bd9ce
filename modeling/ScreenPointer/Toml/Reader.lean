/-
# Readers

A reader takes what it recognises off the front of a text, or fails and takes
nothing.  This module has the readers that do not depend on each other: blanks,
line ends, comments, quoted strings, numbers, dates and times.

Characters below the space are refused wherever text may stand, the tabulator
excepted, and so is the delete character.
-/

import ScreenPointer.Binary.Decimal
import ScreenPointer.Toml.Value

namespace ScreenPointer.Toml

abbrev Reader (α : Type) := StateT (List Char) Option α

namespace Reader

/-- One character of a class. -/
def one (p : Char → Bool) : Reader Char := fun
  | c :: rest => if p c then some (c, rest) else none
  | [] => none

def char (c : Char) : Reader Unit := fun
  | d :: rest => if c = d then some ((), rest) else none
  | [] => none

def text : List Char → Reader Unit
  | [] => pure ()
  | c :: rest => do
    char c
    text rest

/-- As many characters of a class as there are. -/
def span (p : Char → Bool) : Reader (List Char) := fun cs =>
  some (cs.takeWhile p, cs.dropWhile p)

def span1 (p : Char → Bool) : Reader (List Char) := do
  let found ← span p
  if found.isEmpty then failure else pure found

def atEnd : Reader Unit := fun
  | [] => some ((), [])
  | _ :: _ => none

/-- Look ahead for one character of a class without taking it. -/
def peek (p : Char → Bool) : Reader Unit := fun
  | c :: rest => if p c then some ((), c :: rest) else none
  | [] => none

def optional {α : Type} (r : Reader α) : Reader (Option α) :=
  (some <$> r) <|> pure none

/-- The same thing up to a number of times, as long as it is there. -/
def upTo {α : Type} (r : Reader α) : Nat → Reader (List α)
  | 0 => pure []
  | n + 1 =>
    (do
      let first ← r
      let others ← upTo r n
      pure (first :: others))
    <|> pure []

/-- The same thing as long as it is there.  What takes no character is not tried
more often than there are characters. -/
def many {α : Type} (r : Reader α) : Reader (List α) := fun cs => upTo r cs.length cs

def exactly (p : Char → Bool) : Nat → Reader (List Char)
  | 0 => pure []
  | n + 1 => do
    let c ← one p
    let others ← exactly p n
    pure (c :: others)

end Reader

open Reader

/-! ## Blanks, line ends and comments -/

def isBlank (c : Char) : Bool := c = ' ' || c = '\t'

/-- What may stand in a comment. -/
def isText (c : Char) : Bool := c = '\t' || (' ' ≤ c && c ≠ '\x7f')

def blanks : Reader Unit := do
  let _ ← span isBlank

def newline : Reader Unit := char '\n' <|> text ['\r', '\n']

def comment : Reader Unit := do
  char '#'
  let _ ← span isText

/-- Blanks, perhaps a comment, and the end of the line or of the text. -/
def lineEnd : Reader Unit := do
  blanks
  let _ ← Reader.optional comment
  newline <|> atEnd

/-- Blanks, line ends and comments, as they may stand between array elements. -/
def gaps : Reader Unit := do
  let _ ← many ((do let _ ← span1 isBlank) <|> newline <|> comment)

/-! ## Quoted strings -/

def isHexDigit (c : Char) : Bool :=
  c.isDigit || ('a' ≤ c && c ≤ 'f') || ('A' ≤ c && c ≤ 'F')

def digitValue (c : Char) : Nat :=
  if c.isDigit then c.toNat - '0'.toNat
  else if 'a' ≤ c then c.toNat - 'a'.toNat + 10
  else c.toNat - 'A'.toNat + 10

def ofDigits (base : Nat) (digits : List Char) : Nat :=
  digits.foldl (fun n c => n * base + digitValue c) 0

/-- A character given by its number; the halves of surrogate pairs are none. -/
def scalarEscape (width : Nat) : Reader Char := do
  let n := ofDigits 16 (← exactly isHexDigit width)
  if h : n.isValidChar then pure (Char.ofNatAux n h) else failure

def escape : Reader Char := do
  char '\\'
  match ← one fun _ => true with
  | 'b' => pure '\x08'
  | 't' => pure '\t'
  | 'n' => pure '\n'
  | 'f' => pure '\x0c'
  | 'r' => pure '\r'
  | '"' => pure '"'
  | '\\' => pure '\\'
  | 'u' => scalarEscape 4
  | 'U' => scalarEscape 8
  | _ => failure

/-- What stands for itself between double quotes. -/
def isBasic (c : Char) : Bool := isText c && c ≠ '"' && c ≠ '\\'

def isLiteral (c : Char) : Bool := isText c && c ≠ '\''

def basicString : Reader String := do
  char '"'
  let body ← many (span1 isBasic <|> (do pure [← escape]))
  char '"'
  pure (String.ofList body.flatten)

def literalString : Reader String := do
  char '\''
  let body ← span isLiteral
  char '\''
  pure (String.ofList body)

/-- A backslash at the end of a line: it and all blanks and line ends after it are
left out. -/
def continuation : Reader (List Char) := do
  char '\\'
  blanks
  newline
  let _ ← many ((do let _ ← span1 isBlank) <|> newline)
  pure []

/-- One or two quotes that do not end a string in threefold quotes. -/
def innerQuotes (quote : Char) : Reader (List Char) :=
  (do
    text [quote, quote]
    peek (· ≠ quote)
    pure [quote, quote])
  <|> (do
    char quote
    peek (· ≠ quote)
    pure [quote])

/-- The end of a string in threefold quotes; up to two quotes before it belong to
the string. -/
def closingQuotes (quote : Char) : Reader (List Char) :=
  (do text [quote, quote, quote, quote, quote]; pure [quote, quote])
  <|> (do text [quote, quote, quote, quote]; pure [quote])
  <|> (do text [quote, quote, quote]; pure [])

/-- A string in threefold quotes made of given pieces.  A line end right after the
opening quotes is left out. -/
def longString (quote : Char) (piece : Reader (List Char)) : Reader String := do
  text [quote, quote, quote]
  let _ ← Reader.optional newline
  let body ← many (piece <|> innerQuotes quote)
  let tail ← closingQuotes quote
  pure (String.ofList (body.flatten ++ tail))

def longBasicString : Reader String :=
  longString '"'
    (span1 isBasic <|> (do newline; pure ['\n']) <|> continuation <|> (do pure [← escape]))

def longLiteralString : Reader String :=
  longString '\'' (span1 isLiteral <|> (do newline; pure ['\n']))

def string : Reader String :=
  longBasicString <|> basicString <|> longLiteralString <|> literalString

/-! ## Numbers -/

/-- Digits, with single underscores between them, which are left out. -/
def digits (p : Char → Bool) : Reader (List Char) := do
  let first ← one p
  let others ← many (one p <|> (do char '_'; one p))
  pure (first :: others)

def sign : Reader (List Char) := do
  match ← Reader.optional (one fun c => c = '+' || c = '-') with
  | some c => pure [c]
  | none => pure []

/-- A whole decimal number: a zero alone, or digits that do not start with one. -/
def decimalDigits : Reader (List Char) :=
  (do peek (· ≠ '0'); digits Char.isDigit) <|> (do char '0'; pure ['0'])

/-- The integers that documents may hold. -/
def inRange (i : Int) : Bool := -0x8000000000000000 ≤ i && i < 0x8000000000000000

/-- An integer of another base, which has no sign. -/
def prefixed (mark : Char) (base : Nat) (p : Char → Bool) : Reader Int := do
  text ['0', mark]
  let n : Int := ofDigits base (← digits p)
  if inRange n then pure n else failure

def decimalInteger : Reader Int := do
  let s ← sign
  let n : Int := ofDigits 10 (← decimalDigits)
  let i := if s = ['-'] then -n else n
  if inRange i then pure i else failure

def integer : Reader Int :=
  prefixed 'x' 16 isHexDigit
  <|> prefixed 'o' 8 (fun c => '0' ≤ c && c ≤ '7')
  <|> prefixed 'b' 2 (fun c => c = '0' || c = '1')
  <|> decimalInteger

def places : Reader (List Char) := do
  char '.'
  pure ('.' :: (← digits Char.isDigit))

def exponent : Reader (List Char) := do
  let mark ← one fun c => c = 'e' || c = 'E'
  let s ← sign
  pure (mark :: s ++ (← digits Char.isDigit))

/-- A number with a point or an exponent.  One that is too large is refused, unless
it is negative. -/
def decimalFloat : Reader Double := do
  let s ← sign
  let whole ← decimalDigits
  let rest ← exponent <|> (do
    let p ← places
    let e ← Reader.optional exponent
    pure (p ++ e.getD []))
  match Binary.ofLiteral? (f := .double) (s ++ whole ++ rest) with
  | some x => if x = .infinite false then failure else pure x
  | none => failure

/-- The names of infinity and of not-a-number, with a sign. -/
def specialFloat : Reader Double := do
  let s ← sign
  (do text ['i', 'n', 'f']; pure (.infinite (s = ['-'])))
    <|> (do text ['n', 'a', 'n']; pure .nan)

def float : Reader Double := decimalFloat <|> specialFloat

/-! ## Dates and times -/

/-- A number of exactly so many digits, within bounds. -/
def field (width low high : Nat) : Reader Nat := do
  let n := ofDigits 10 (← exactly Char.isDigit width)
  if low ≤ n && n ≤ high then pure n else failure

def daysIn (year month : Nat) : Nat :=
  let leap := year % 4 = 0 && (year % 100 ≠ 0 || year % 400 = 0)
  match month with
  | 2 => if leap then 29 else 28
  | 4 | 6 | 9 | 11 => 30
  | _ => 31

def date : Reader Unit := do
  let year ← field 4 0 9999
  char '-'
  let month ← field 2 1 12
  char '-'
  let _ ← field 2 1 (daysIn year month)

/-- A time of day; a minute may have a leap second. -/
def time : Reader Unit := do
  let _ ← field 2 0 23
  char ':'
  let _ ← field 2 0 59
  char ':'
  let _ ← field 2 0 60
  let _ ← Reader.optional (do
    char '.'
    let _ ← span1 Char.isDigit)

def offset : Reader Unit :=
  (do let _ ← one fun c => c = 'Z' || c = 'z')
  <|> (do
    let _ ← one fun c => c = '+' || c = '-'
    let _ ← field 2 0 23
    char ':'
    let _ ← field 2 0 59)

/-- A date, a time, or both, with an offset only after both. -/
def moment : Reader String := do
  let before ← get
  (do
    date
    let _ ← Reader.optional (do
      let _ ← one fun c => c = 'T' || c = 't' || c = ' '
      time
      let _ ← Reader.optional offset))
    <|> time
  let after ← get
  pure (String.ofList (before.take (before.length - after.length)))

end ScreenPointer.Toml
