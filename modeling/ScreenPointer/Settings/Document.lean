/-
# Settings documents

Settings are kept in a document of three sections.  What a document leaves out
has its default, what it adds is ignored.  A section may also be written as an
array, which gives its settings in order.

Writing gives every setting.  The scale is written as the shortest decimal of its
value in double precision, so nothing is lost by reading it back.
-/

import ScreenPointer.Settings
import ScreenPointer.Toml.Document

namespace ScreenPointer

inductive SettingsError
  | unreadable (path reason : String)
  | malformed
  | unwritable
  | invalid (fault : SettingsFault)
  deriving DecidableEq

namespace SettingsError

def message? : SettingsError → Option String
  | unreadable path reason => some ("Failed to read " ++ path ++ ": " ++ reason)
  | malformed | unwritable => none
  | invalid fault => some ("Invalid config: " ++ fault.message)

end SettingsError

namespace Toml.Value

/-- The setting of a section that has a given name and place.  A date has no
settings; other values that are no sections are refused. -/
def setting? (group : Value) (name : String) (place : Nat) : Option (Option Value) :=
  match group with
  | .table _ entries => some (Keyed.find? name entries)
  | .array items => some items[place]?
  | .tables elements => some (elements[place]?.map (.table .headed))
  | .moment _ => some none
  | _ => none

def natural? : Value → Option Nat
  | .integer i => if 0 ≤ i then some i.toNat else none
  | _ => none

/-- A number in single precision; an integer is rounded directly. -/
def single? : Value → Option Single
  | .integer i => some (.ofInt i)
  | .float x => some (x.convert .single)
  | _ => none

end Toml.Value

namespace Settings

open Toml (Value Entries)

/-- A setting of a section, or its default. -/
def setting {α : Type} (group : Option Value) (name : String) (place : Nat)
    (read : Value → Option α) (default : α) : Option α :=
  match group with
  | none => some default
  | some v =>
    match v.setting? name place with
    | none => none
    | some none => some default
    | some (some w) => read w

/-- The settings in the entries of a document, if they have the right shape. -/
def ofEntries? (entries : Entries) : Option Settings := do
  let fade := Keyed.find? "fade" entries
  let inactivity := Keyed.find? "inactivity" entries
  let spots := Keyed.find? "spots" entries
  let pointerMs ← setting fade "pointer_ms" 0 Value.natural? 500
  let spotMs ← setting fade "spot_ms" 1 Value.natural? 200
  let normalMs ← setting inactivity "normal_ms" 0 Value.natural? 15000
  let shortMs ← setting inactivity "short_ms" 1 Value.natural? 3000
  let maxSpots ← setting spots "max_spots" 0 Value.natural? 12
  let maxRecycled ← setting spots "max_recycled_sprites" 1 Value.natural? 12
  let scale ← setting spots "scale" 2 Value.single? 1
  pure ⟨⟨pointerMs, spotMs⟩, ⟨normalMs, shortMs⟩, ⟨maxSpots, maxRecycled, scale⟩⟩

def ofText (text : String) : Except SettingsError Settings :=
  match (Toml.document? text).bind ofEntries? with
  | none => .error .malformed
  | some s =>
    match s.check with
    | .ok s => .ok s
    | .error fault => .error (.invalid fault)

inductive FileContent
  | bytes (content : ByteArray)
  | failed (reason : String)

def ofFile (path : String) : FileContent → Except SettingsError Settings
  | .failed reason => .error (.unreadable path reason)
  | .bytes content =>
    match String.fromUTF8? content with
    | none => .error (.unreadable path "stream did not contain valid UTF-8")
    | some text => ofText text

/-- A number in a document: always with a point. -/
def floatText : Double → String
  | .nan => "nan"
  | .infinite negative => Binary.withSign negative "inf"
  | .finite negative m _ =>
    let (whole, places) := (Format.double.shortest m).parts
    Binary.withSign negative (whole ++ "." ++ if places.isEmpty then "0" else places)

/-- The largest natural number that can be written. -/
def largestNatural : Nat := 0x7FFFFFFFFFFFFFFF

def naturals (s : Settings) : List Nat :=
  [s.fade.pointerMs, s.fade.spotMs, s.inactivity.normalMs, s.inactivity.shortMs,
    s.spots.maxSpots, s.spots.maxRecycled]

def naturalLine (name : String) (n : Nat) : String := name ++ " = " ++ toString n ++ "\n"

def documentText (s : Settings) : String :=
  "[fade]\n"
    ++ naturalLine "pointer_ms" s.fade.pointerMs
    ++ naturalLine "spot_ms" s.fade.spotMs
    ++ "\n[inactivity]\n"
    ++ naturalLine "normal_ms" s.inactivity.normalMs
    ++ naturalLine "short_ms" s.inactivity.shortMs
    ++ "\n[spots]\n"
    ++ naturalLine "max_spots" s.spots.maxSpots
    ++ naturalLine "max_recycled_sprites" s.spots.maxRecycled
    ++ "scale = " ++ floatText (s.spots.scale.convert .double) ++ "\n"

def toText (s : Settings) : Except SettingsError String :=
  if s.naturals.all (· ≤ largestNatural) then .ok s.documentText else .error .unwritable

end Settings

end ScreenPointer
