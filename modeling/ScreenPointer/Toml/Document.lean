/-
# Documents

A document is a sequence of statements, one to a line: headers, doubled headers,
and assignments of values to keys.  Reading gives the statements; carrying them
out one after another gives the table of the document.  Either step may fail, and
then the text is no document.

Arrays and braced tables nest to a limited depth, and a dotted key has a limited
number of parts.
-/

import ScreenPointer.Toml.Reader

namespace ScreenPointer.Toml

open Reader

/-- Arrays and braced tables within each other, at most. -/
def nestingLimit : Nat := 79

/-- Parts of a dotted key, at most. -/
def keyLimit : Nat := 79

def isBare (c : Char) : Bool := c.isAlphanum || c = '-' || c = '_'

def keyPart : Reader String :=
  basicString <|> literalString <|> (do pure (String.ofList (← span1 isBare)))

/-- A key: the parts before the last dot, and the part after it. -/
def key : Reader (List String × String) := do
  let padded : Reader String := do
    blanks
    let part ← keyPart
    blanks
    pure part
  let first ← padded
  let others ← many (do char '.'; padded)
  let parts := first :: others
  if parts.length ≤ keyLimit then pure (parts.dropLast, parts.getLastD first) else failure

def scalar : Reader Value :=
  (Value.string <$> string)
  <|> (Value.moment <$> moment)
  <|> (Value.float <$> float)
  <|> (Value.integer <$> integer)
  <|> (do text ['t', 'r', 'u', 'e']; pure (.boolean true))
  <|> (do text ['f', 'a', 'l', 's', 'e']; pure (.boolean false))

/-- An array of given elements: separated by commas, perhaps with one more comma at
the end, on any number of lines. -/
def arrayOf (element : Reader Value) : Reader Value := do
  char '['
  let padded : Reader Value := do
    gaps
    let v ← element
    gaps
    pure v
  let items ← Reader.optional (do
    let first ← padded
    let others ← many (do char ','; padded)
    let _ ← Reader.optional (char ',')
    pure (first :: others))
  gaps
  char ']'
  pure (.array (items.getD []))

def pair (element : Reader Value) : Reader ((List String × String) × Value) := do
  let k ← key
  char '='
  blanks
  let v ← element
  blanks
  pure (k, v)

/-- A braced table of given values: separated by commas, on one line. -/
def bracedOf (element : Reader Value) : Reader Value := do
  char '{'
  let pairs ← Reader.optional (do
    let first ← pair element
    let others ← many (do char ','; pair element)
    pure (first :: others))
  blanks
  char '}'
  let filled := (pairs.getD []).foldlM (fun (t : Table) p => t.assign p.1.1 p.1.2 p.2) .empty
  match filled with
  | some t => pure (.table .braced t.entries)
  | none => failure

/-- A value with at most so many levels of values inside. -/
def value : Nat → Reader Value
  | 0 => scalar
  | depth + 1 => scalar <|> arrayOf (value depth) <|> bracedOf (value depth)

inductive Statement where
  /-- A header: what follows belongs to its table. -/
  | table (path : List String) (key : String)
  /-- A doubled header: what follows belongs to one more table of its name. -/
  | element (path : List String) (key : String)
  | assign (path : List String) (key : String) (v : Value)

namespace Statement

def header : Reader Statement := do
  char '['
  let (path, k) ← key
  char ']'
  lineEnd
  pure (.table path k)

def doubledHeader : Reader Statement := do
  text ['[', '[']
  let (path, k) ← key
  text [']', ']']
  lineEnd
  pure (.element path k)

def assignment : Reader Statement := do
  let (path, k) ← key
  char '='
  blanks
  let v ← value nestingLimit
  lineEnd
  pure (.assign path k v)

end Statement

/-- One line: a statement, or nothing but blanks and a comment. -/
def line : Reader (Option Statement) := do
  blanks
  (some <$> (Statement.doubledHeader <|> Statement.header <|> Statement.assignment))
    <|> (do newline; pure none)
    <|> (do comment; newline <|> atEnd; pure none)

/-- All lines of a text; a byte order mark may stand in front. -/
def statements : Reader (List Statement) := do
  let _ ← Reader.optional (char '\ufeff')
  let lines ← many line
  blanks
  atEnd
  pure (lines.filterMap id)

/-- A table and the header whose table is growing. -/
structure Draft where
  table : Table := .empty
  header : List String := []

namespace Draft

def add (d : Draft) : Statement → Option Draft
  | .table path key => do
    let table ← d.table.openTable path key
    pure ⟨table, path ++ [key]⟩
  | .element path key => do
    let table ← d.table.openElement path key
    pure ⟨table, path ++ [key]⟩
  | .assign path key v => do
    let table ← d.table.assignUnder d.header path key v
    pure { d with table }

end Draft

def document? (text : String) : Option Entries := do
  let (found, _) ← statements.run text.toList
  let draft ← found.foldlM Draft.add {}
  pure draft.table.entries

end ScreenPointer.Toml
