/-
# Settings survive writing

Settings can be written exactly when their natural numbers are integers that
documents may hold.  What is written is read as the same settings, the scale to
its last bit, if the settings would be accepted at all.  And whatever document
settings were read from, they can be written again.
-/

import ScreenPointer.Binary.Interchange
import ScreenPointer.Proofs.Binary.Order
import ScreenPointer.Proofs.Toml.Bounds
import ScreenPointer.Proofs.Toml.Lines
import ScreenPointer.Settings.Document

namespace ScreenPointer

namespace Settings

open Toml (Value Entries Bare BoundedEntries)
open Toml.Reader (Stops Repeats)

/-! ## Accepted settings -/

theorem fault?_of_check {s t : Settings} (h : s.check = .ok t) : s.fault? = none ∧ t = s := by
  unfold check at h
  split at h
  · rename_i hnone
    cases h
    exact ⟨hnone, rfl⟩
  · cases h

/-- An accepted scale is finite and positive. -/
theorem exists_scale_of_check {s t : Settings} (h : s.check = .ok t) :
    ∃ m holds, m ≠ 0 ∧ s.spots.scale = .finite false m holds := by
  have hfault := (fault?_of_check h).1
  have hscale : (s.spots.scale.isFinite && (0 : Single).less s.spots.scale) = true := by
    grind [fault?]
  obtain ⟨hfinite, hpositive⟩ := Bool.and_eq_true_iff.mp hscale
  cases hcase : s.spots.scale with
  | nan =>
      rw [hcase] at hfinite
      cases hfinite
  | infinite negative =>
      rw [hcase] at hfinite
      cases hfinite
  | finite negative m holds =>
      rw [hcase, Binary.less_iff position_zero rfl] at hpositive
      obtain ⟨rfl, hm⟩ := Binary.signed_pos hpositive
      exact ⟨m, holds, Nat.ne_of_gt hm, rfl⟩

/-! ## Lines -/

/-- The text of a positive number is read as the number. -/
theorem exists_floatText {m : Nat} (holds : Format.double.Holds m) (hzero : m ≠ 0) :
    ∃ whole places, Decimal.IsWhole whole ∧ Decimal.Digits places ∧ places ≠ [] ∧
      (floatText (.finite false m holds)).toList = whole ++ '.' :: places ∧
      Binary.ofLiteral? (whole ++ '.' :: places) = some (Binary.finite false m holds) := by
  have hp : 2 ≤ Format.double.precision := by decide
  obtain ⟨whole, places, hwritten, htext⟩ :=
    Decimal.exists_written (Binary.shortest_digits_ne_zero hp holds hzero)
  exact ⟨whole, places, hwritten.isWhole, hwritten.digits, hwritten.filled, htext,
    Binary.ofLiteral?_of_written hp holds hwritten⟩

theorem toList_naturalLine (name : String) (n : Nat) (rest : List Char) :
    (naturalLine name n).toList ++ rest = Toml.settingLine name (Nat.toDigits 10 n) rest := by
  have hnatural : (toString n).toList = Nat.toDigits 10 n := Nat.toList_repr
  have hmark : " = ".toList = [' ', '=', ' '] := by decide
  have hend : "\n".toList = ['\n'] := by decide
  simp only [naturalLine, Toml.settingLine, String.toList_append, hnatural, hmark, hend,
    List.append_assoc, List.cons_append, List.nil_append]

theorem toList_documentText (s : Settings) (rest : List Char) :
    s.documentText.toList ++ rest =
      Toml.headerLine "fade"
        (Toml.settingLine "pointer_ms" (Nat.toDigits 10 s.fade.pointerMs)
        (Toml.settingLine "spot_ms" (Nat.toDigits 10 s.fade.spotMs)
      ('\n' :: Toml.headerLine "inactivity"
        (Toml.settingLine "normal_ms" (Nat.toDigits 10 s.inactivity.normalMs)
        (Toml.settingLine "short_ms" (Nat.toDigits 10 s.inactivity.shortMs)
      ('\n' :: Toml.headerLine "spots"
        (Toml.settingLine "max_spots" (Nat.toDigits 10 s.spots.maxSpots)
        (Toml.settingLine "max_recycled_sprites" (Nat.toDigits 10 s.spots.maxRecycled)
        (Toml.settingLine "scale" (floatText (s.spots.scale.convert .double)).toList
      rest))))))))) := by
  have hfade (lines : List Char) : "[fade]\n".toList ++ lines = Toml.headerLine "fade" lines := by
    simp [Toml.headerLine]
  have hinactivity (lines : List Char) :
      "\n[inactivity]\n".toList ++ lines = '\n' :: Toml.headerLine "inactivity" lines := by
    simp [Toml.headerLine]
  have hspots (lines : List Char) :
      "\n[spots]\n".toList ++ lines = '\n' :: Toml.headerLine "spots" lines := by
    simp [Toml.headerLine]
  have hscale (text lines : List Char) :
      "scale = ".toList ++ (text ++ ("\n".toList ++ lines)) =
        Toml.settingLine "scale" text lines := by
    simp [Toml.settingLine]
  unfold documentText
  simp only [String.toList_append, List.append_assoc]
  rw [hfade, toList_naturalLine, toList_naturalLine, hinactivity, toList_naturalLine,
    toList_naturalLine, hspots, toList_naturalLine, toList_naturalLine, hscale]

def statements (s : Settings) (x : Double) : List Toml.Statement :=
  [.table [] "fade",
    .assign [] "pointer_ms" (.integer s.fade.pointerMs),
    .assign [] "spot_ms" (.integer s.fade.spotMs),
    .table [] "inactivity",
    .assign [] "normal_ms" (.integer s.inactivity.normalMs),
    .assign [] "short_ms" (.integer s.inactivity.shortMs),
    .table [] "spots",
    .assign [] "max_spots" (.integer s.spots.maxSpots),
    .assign [] "max_recycled_sprites" (.integer s.spots.maxRecycled),
    .assign [] "scale" (.float x)]

def entries (s : Settings) (x : Double) : Entries :=
  [("fade", .table .headed
      [("pointer_ms", .integer s.fade.pointerMs), ("spot_ms", .integer s.fade.spotMs)]),
    ("inactivity", .table .headed
      [("normal_ms", .integer s.inactivity.normalMs), ("short_ms", .integer s.inactivity.shortMs)]),
    ("spots", .table .headed
      [("max_spots", .integer s.spots.maxSpots),
        ("max_recycled_sprites", .integer s.spots.maxRecycled), ("scale", .float x)])]

theorem foldlM_statements (s : Settings) (x : Double) :
    (s.statements x).foldlM Toml.Draft.add {} = some ⟨⟨.headed, s.entries x⟩, ["spots"]⟩ := by
  rfl

theorem ofEntries?_entries (s : Settings) :
    ofEntries? (s.entries (s.spots.scale.convert .double)) = some s := by
  have hnatural (n : Nat) : (Value.integer n).natural? = some n := rfl
  have hscale : (Value.float (s.spots.scale.convert .double)).single? = some s.spots.scale :=
    congrArg some (Binary.convert_convert Format.double_refines_single s.spots.scale)
  simp [ofEntries?, entries, Keyed.find?, setting, Value.setting?, hnatural, hscale]

section Accepted

variable {s t : Settings} (hcheck : s.check = .ok t) {rest last : List Char}
  {found : List (Option Toml.Statement)}
include hcheck

/-- The line of an accepted scale is read as the scale, in the wider format of documents. -/
theorem repeats_scale (hrest : Repeats Toml.line rest found last) :
    Repeats Toml.line
      (Toml.settingLine "scale" (floatText (s.spots.scale.convert .double)).toList rest)
      (some (.assign [] "scale" (.float (s.spots.scale.convert .double))) :: found) last := by
  obtain ⟨m, holds, hzero, hscale⟩ := exists_scale_of_check hcheck
  have hx := Binary.convert_of_refines Format.double_refines_single false holds
  rw [← hscale] at hx
  obtain ⟨whole, places, hwhole, hplaces, hfilled, htext, hliteral⟩ :=
    exists_floatText (Format.double_refines_single.holds holds)
      (Nat.mul_ne_zero hzero (Nat.ne_of_gt (Nat.two_pow_pos _)))
  rw [← hx] at htext hliteral
  have hfinite : s.spots.scale.convert .double ≠ .infinite false := by
    rw [hx]
    intro h
    cases h
  have hread := Toml.scalar_of_literal hwhole hplaces hfilled hliteral hfinite rest
  rw [← List.cons_append, ← List.append_assoc, ← htext] at hread
  refine Toml.repeats_setting "scale" (by decide +kernel) ?_ hread hrest
  rw [htext, List.append_assoc]
  exact Toml.stops_isBlank_of_isWhole hwhole _

/-- The document is read line by line. -/
theorem repeats_documentText (hnaturals : ∀ n ∈ s.naturals, n ≤ largestNatural)
    (hrest : Repeats Toml.line rest found last) :
    ∃ all, Repeats Toml.line (s.documentText.toList ++ rest) all last ∧
      all.filterMap id = s.statements (s.spots.scale.convert .double) ++ found.filterMap id := by
  simp only [naturals, List.forall_mem_cons] at hnaturals
  obtain ⟨hpointer, hspot, hnormal, hshort, hmaxSpots, hmaxRecycled, -⟩ := hnaturals
  rw [toList_documentText]
  exact ⟨_,
    Toml.repeats_header "fade" (by decide +kernel) <|
    Toml.repeats_natural "pointer_ms" (by decide +kernel) hpointer <|
    Toml.repeats_natural "spot_ms" (by decide +kernel) hspot <|
    Toml.repeats_newline <|
    Toml.repeats_header "inactivity" (by decide +kernel) <|
    Toml.repeats_natural "normal_ms" (by decide +kernel) hnormal <|
    Toml.repeats_natural "short_ms" (by decide +kernel) hshort <|
    Toml.repeats_newline <|
    Toml.repeats_header "spots" (by decide +kernel) <|
    Toml.repeats_natural "max_spots" (by decide +kernel) hmaxSpots <|
    Toml.repeats_natural "max_recycled_sprites" (by decide +kernel) hmaxRecycled <|
    repeats_scale hcheck hrest, rfl⟩

/-- The document of accepted settings is read as its entries, also when empty lines follow. -/
theorem document?_documentText (hnaturals : ∀ n ∈ s.naturals, n ≤ largestNatural) (more : String)
    (hmore : Toml.SaysNothing more.toList) :
    Toml.document? (s.documentText ++ more) =
      some (s.entries (s.spots.scale.convert .double)) := by
  obtain ⟨blank, hblank, hnothing⟩ := hmore
  obtain ⟨all, hall, hstatements⟩ := repeats_documentText hcheck hnaturals hblank
  have hstops : Stops (· = '\ufeff') (s.documentText.toList ++ more.toList) := by
    rw [toList_documentText]
    exact Toml.Reader.stops_cons.mpr rfl
  have hread := Toml.statements_of_repeats hstops hall
  rw [hstatements, hnothing, List.append_nil, ← String.toList_append] at hread
  exact Toml.document?_of_statements hread (s.foldlM_statements _)

end Accepted

/-- Accepted settings that can be written are read back. -/
theorem ofText_documentText {s : Settings} (hcheck : s.check = .ok s)
    (hnaturals : ∀ n ∈ s.naturals, n ≤ largestNatural) (rest : String)
    (hrest : Toml.SaysNothing rest.toList) : ofText (s.documentText ++ rest) = .ok s := by
  unfold ofText
  rw [document?_documentText hcheck hnaturals rest hrest, Option.bind_some, ofEntries?_entries]
  dsimp only
  rw [hcheck]

/-! ## Read settings -/

theorem natural?_le {v : Value} (h : v.Bounded) {n : Nat} (hn : v.natural? = some n) :
    n ≤ largestNatural := by
  cases h with
  | integer hrange =>
      rename_i i
      simp only [Toml.inRange, Bool.and_eq_true, decide_eq_true_eq] at hrange
      unfold Value.natural? at hn
      dsimp only at hn
      split at hn
      · cases hn
        unfold largestNatural
        omega
      · cases hn
  | string | float | boolean | moment | array | table | tables => cases hn

theorem setting?_bounded {group v : Value} (h : group.Bounded) {name : String} {place : Nat}
    (hv : group.setting? name place = some (some v)) : v.Bounded := by
  cases h with
  | table hentries =>
      exact BoundedEntries.find hentries (Option.some.inj hv)
  | array hitems => exact hitems v (List.mem_of_getElem? (Option.some.inj hv))
  | tables helements =>
      obtain ⟨entries, hentries, rfl⟩ := Option.map_eq_some_iff.mp (Option.some.inj hv)
      exact .table (helements entries (List.mem_of_getElem? hentries))
  | moment => cases hv
  | string | float | boolean | integer => cases hv

/-- A natural number that was read can be written, and so can its default. -/
theorem setting_natural_le {entries : Entries} (h : BoundedEntries entries) {section' name : String}
    {place default n : Nat} (hdefault : default ≤ largestNatural)
    (hn : setting (Keyed.find? section' entries) name place Value.natural? default = some n) :
    n ≤ largestNatural := by
  unfold setting at hn
  split at hn
  · cases hn
    exact hdefault
  · rename_i group hgroup
    split at hn
    · cases hn
    · cases hn
      exact hdefault
    · rename_i v hv
      exact natural?_le (setting?_bounded (h.find hgroup) hv) hn

theorem naturals_le_of_ofEntries? {entries : Entries} (h : BoundedEntries entries) {s : Settings}
    (hs : ofEntries? entries = some s) : ∀ n ∈ s.naturals, n ≤ largestNatural := by
  unfold ofEntries? at hs
  simp only [Option.bind_eq_bind, Option.bind_eq_some_iff] at hs
  obtain ⟨pointerMs, hpointer, spotMs, hspot, normalMs, hnormal, shortMs, hshort, maxSpots,
    hmaxSpots, maxRecycled, hmaxRecycled, scale, -, hs⟩ := hs
  cases hs
  simp only [naturals, List.forall_mem_cons]
  exact ⟨setting_natural_le h (by decide) hpointer, setting_natural_le h (by decide) hspot,
    setting_natural_le h (by decide) hnormal, setting_natural_le h (by decide) hshort,
    setting_natural_le h (by decide) hmaxSpots, setting_natural_le h (by decide) hmaxRecycled,
    List.forall_mem_nil _⟩

/-- Settings that were read are accepted ones and can be written. -/
theorem of_ofText {text : String} {s : Settings} (h : ofText text = .ok s) :
    s.check = .ok s ∧ ∀ n ∈ s.naturals, n ≤ largestNatural := by
  unfold ofText at h
  split at h
  · cases h
  · rename_i read hread
    obtain ⟨entries, hentries, hread⟩ := Option.bind_eq_some_iff.mp hread
    split at h
    · rename_i checked hcheck
      cases h
      obtain ⟨-, rfl⟩ := fault?_of_check hcheck
      exact ⟨hcheck, naturals_le_of_ofEntries? (Toml.boundedEntries_of_document hentries) hread⟩
    · cases h

/-! ## Writing and reading -/

theorem toText_eq_ok_iff {s : Settings} {text : String} :
    s.toText = .ok text ↔ (∀ n ∈ s.naturals, n ≤ largestNatural) ∧ text = s.documentText := by
  unfold toText
  split
  · rename_i hall
    have hnaturals : ∀ n ∈ s.naturals, n ≤ largestNatural := by simpa using hall
    refine ⟨fun h => ?_, fun h => by rw [h.2]⟩
    cases h
    exact ⟨hnaturals, rfl⟩
  · rename_i hall
    refine ⟨fun h => ?_, fun h => absurd ?_ hall⟩
    · cases h
    · simpa using h.1

/-- The document of settings gives them back, with and without an empty line at its end. -/
def Survives (s : Settings) : Prop :=
  ∃ text, s.toText = .ok text ∧ ofText text = .ok s ∧ ofText (text ++ "\n") = .ok s

theorem survives_of_check {s : Settings} (hcheck : s.check = .ok s)
    (hnaturals : ∀ n ∈ s.naturals, n ≤ largestNatural) : s.Survives := by
  refine ⟨s.documentText, toText_eq_ok_iff.mpr ⟨hnaturals, rfl⟩, ?_, ?_⟩
  · have hread := ofText_documentText hcheck hnaturals "" Toml.saysNothing_nil
    rwa [String.append_empty] at hread
  · exact ofText_documentText hcheck hnaturals "\n" Toml.saysNothing_nil.newline

/-- Settings can be written exactly when their naturals fit.  Accepted settings come back from
their document, the scale to its last bit, and so do the settings read from any document. -/
theorem writing_is_lossless :
    (∀ s : Settings, (∃ text, s.toText = .ok text) ↔ ∀ n ∈ s.naturals, n ≤ largestNatural) ∧
    (∀ s : Settings, s.check = .ok s → (∀ n ∈ s.naturals, n ≤ largestNatural) → s.Survives) ∧
    (∀ (document : String) (s : Settings),
      ofText document = .ok s → s.check = .ok s ∧ s.Survives) := by
  refine ⟨fun s => ⟨?_, fun h => ⟨_, toText_eq_ok_iff.mpr ⟨h, rfl⟩⟩⟩, ?_, ?_⟩
  · rintro ⟨text, htext⟩
    exact (toText_eq_ok_iff.mp htext).1
  · exact fun s hcheck hnaturals => survives_of_check hcheck hnaturals
  · intro document s hread
    obtain ⟨hcheck, hnaturals⟩ := of_ofText hread
    exact ⟨hcheck, survives_of_check hcheck hnaturals⟩

/-- The longest fade, and spots as small as the format goes: a scale of one unit. -/
def least : Settings where
  fade := { pointerMs := largestNatural }
  spots := { scale := .ofBits .single 1 }

/-- Spots as large as the format goes: the number before the infinity. -/
def greatest : Settings where
  spots := { scale := .ofBits .single 0x7F7FFFFF }

/-- A section as an array, an integer in base sixteen, dotted keys, and a scale without a point. -/
def shorthand : String := "fade = [7, 0x20]\nspots.round = true\nspots.scale = 3 # wide\n"

theorem writing_is_lossless_at_extremes :
    (least.check = .ok least ∧ (∀ n ∈ least.naturals, n ≤ largestNatural) ∧ least.Survives) ∧
    (greatest.check = .ok greatest ∧ (∀ n ∈ greatest.naturals, n ≤ largestNatural) ∧
      greatest.Survives) ∧
    ∃ s, ofText shorthand = .ok s ∧ s.fade = ⟨7, 32⟩ ∧ s.spots.scale = 3 ∧ s.Survives := by
  obtain ⟨-, hwritten, hread⟩ := writing_is_lossless
  have hleast : least.check = .ok least := by decide +kernel
  have hgreatest : greatest.check = .ok greatest := by decide +kernel
  have hshort : ofText shorthand = .ok ⟨⟨7, 32⟩, {}, { scale := 3 }⟩ := by decide +kernel
  exact ⟨⟨hleast, by decide, hwritten least hleast (by decide)⟩,
    ⟨hgreatest, by decide, hwritten greatest hgreatest (by decide)⟩,
    ⟨_, hshort, rfl, rfl, (hread shorthand _ hshort).2⟩⟩

end Settings

end ScreenPointer
