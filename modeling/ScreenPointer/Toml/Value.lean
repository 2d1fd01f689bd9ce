/-
# Document values

The values of a configuration document, and how tables grow.  A table remembers
how it came about, because that decides what may still be added to it: a table
written in braces is complete, one under a header of its own takes no dotted
keys from elsewhere, one that only appeared on the way of a header may still get
its header, and one made by dotted keys grows by dotted keys alone.

Growing a table either succeeds or fails; which rule was broken is not told.
-/

import ScreenPointer.Binary.Basic
import ScreenPointer.Keyed

namespace ScreenPointer.Toml

inductive TableOrigin
  /-- Written in braces. -/
  | braced
  /-- Under a header, or the document itself. -/
  | headed
  /-- On the way of a header. -/
  | implied
  /-- On the way of a dotted key. -/
  | dotted
  deriving DecidableEq, Repr

inductive Value where
  | string (s : String)
  | integer (i : Int)
  | float (x : Double)
  | boolean (b : Bool)
  | moment (text : String)
  | array (items : List Value)
  | table (origin : TableOrigin) (entries : List (String × Value))
  /-- Tables under headers of one name, the last one still growing. -/
  | tables (elements : List (List (String × Value)))

/-- The entries of a table, in order of first appearance. -/
abbrev Entries := Keyed String Value

/-- A table that grows. -/
structure Table where
  origin : TableOrigin
  entries : Entries

namespace Table

def empty : Table := ⟨.headed, []⟩

/-- Set an entry, new or not. -/
def put (t : Table) (key : String) (v : Value) : Table :=
  { t with entries := t.entries.insert key v }

/-- Change the table at the end of a path.  Missing tables on the way are made;
`byDots` says whether the path is that of a dotted key or that of a header.  A
dotted key does not pass through a table that has a header of its own. -/
def within (byDots : Bool) (change : Table → Option Table) : List String → Table → Option Table
  | [], t => change t
  | key :: path, t =>
    match Keyed.find? key t.entries with
    | none =>
      (within byDots change path ⟨if byDots then .dotted else .implied, []⟩).map
        fun child => t.put key (.table child.origin child.entries)
    | some (.table origin entries) =>
      if origin = .braced ∨ (byDots ∧ origin = .headed) then none
      else
        (within byDots change path ⟨origin, entries⟩).map
          fun child => t.put key (.table child.origin child.entries)
    | some (.tables elements) =>
      match elements.getLast? with
      | none => none
      | some entries =>
        (within byDots change path ⟨.headed, entries⟩).map
          fun child => t.put key (.tables (elements.dropLast ++ [child.entries]))
    | some _ => none

/-- Give a key a value, once.  The last table on the way of a dotted key must be
one that dotted keys made. -/
def assign (t : Table) (path : List String) (key : String) (v : Value) : Option Table :=
  t.within true
    (fun t =>
      if !path.isEmpty && t.origin ≠ .dotted then none
      else if (Keyed.find? key t.entries).isSome then none
      else some (t.put key v))
    path

/-- Begin the table of a header.  A table that only appeared on the way of another
header keeps its entries. -/
def openTable (t : Table) (path : List String) (key : String) : Option Table :=
  t.within false
    (fun t =>
      match Keyed.find? key t.entries with
      | none => some (t.put key (.table .headed []))
      | some (.table .implied entries) => some (t.put key (.table .headed entries))
      | some _ => none)
    path

/-- Begin one more table under a doubled header. -/
def openElement (t : Table) (path : List String) (key : String) : Option Table :=
  t.within false
    (fun t =>
      match Keyed.find? key t.entries with
      | none => some (t.put key (.tables [[]]))
      | some (.tables elements) => some (t.put key (.tables (elements ++ [[]])))
      | some _ => none)
    path

/-- Give a key of the table under the last header a value. -/
def assignUnder (t : Table) (header : List String) (path : List String) (key : String)
    (v : Value) : Option Table :=
  t.within false (fun t => t.assign path key v) header

end Table

end ScreenPointer.Toml
