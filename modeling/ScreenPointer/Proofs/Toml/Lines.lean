/-
# Reading lines

Headers and settings with bare names, one to a line, are read as they stand, and
so are empty lines between them.  A document made of such lines is the list of
their statements.
-/

import ScreenPointer.Proofs.Toml.Numbers

namespace ScreenPointer.Toml

open Reader

/-! ## Bare names -/

/-- A name that needs no quotes. -/
structure Bare (name : List Char) : Prop where
  chars : ∀ c ∈ name, isBare c = true
  ne_nil : name ≠ []

instance (name : List Char) : Decidable (Bare name) :=
  decidable_of_iff (name.all isBare = true ∧ name ≠ [])
    ⟨fun h => ⟨List.all_eq_true.mp h.1, h.2⟩, fun h => ⟨List.all_eq_true.mpr h.chars, h.ne_nil⟩⟩

theorem ne_of_isBare {c d : Char} (hc : isBare c = true) (hd : isBare d = false) : ¬ d = c := by
  rintro rfl
  rw [hc] at hd
  cases hd

theorem stops_isBlank_of_isBare {c : Char} (hc : isBare c = true) (rest : List Char) :
    Stops isBlank (c :: rest) := by
  have hspace := ne_of_isBare hc (d := ' ') rfl
  have htab := ne_of_isBare hc (d := '\t') rfl
  exact stops_cons.mpr (by simp [isBlank, Ne.symm hspace, Ne.symm htab])

theorem blanks_append (gap : List Char) {rest : List Char} (hgap : ∀ c ∈ gap, isBlank c = true)
    (hrest : Stops isBlank rest) : blanks (gap ++ rest) = some ((), rest) := by
  unfold blanks
  rw [bind_apply, span_append hgap hrest]
  rfl

theorem blanks_of_stops {rest : List Char} (h : Stops isBlank rest) :
    blanks rest = some ((), rest) :=
  blanks_append [] (fun _ hc => by cases hc) h

theorem keyPart_of_bare {name : List Char} (h : Bare name) {rest : List Char}
    (hrest : Stops isBare rest) : keyPart (name ++ rest) = some (String.ofList name, rest) := by
  have hspan := span1_append h.chars h.ne_nil hrest
  obtain ⟨c, others, rfl⟩ := List.exists_cons_of_ne_nil h.ne_nil
  have hc := h.chars c List.mem_cons_self
  have hquote := ne_of_isBare hc (d := '"') rfl
  have happostrophe := ne_of_isBare hc (d := '\'') rfl
  rw [List.cons_append] at hspan ⊢
  simp [keyPart, basicString, literalString, hquote, happostrophe, hspan]

/-- A bare key, perhaps with blanks after it. -/
theorem key_of_bare {name : List Char} (h : Bare name) (gap : List Char)
    (hgap : ∀ c ∈ gap, c = ' ') {c : Char}
    (hbare : isBare c = false) (hblank : isBlank c = false) (hdot : c ≠ '.') (rest : List Char) :
    key (name ++ (gap ++ c :: rest)) = some (([], String.ofList name), c :: rest) := by
  have hstart : blanks (name ++ (gap ++ c :: rest)) = some ((), name ++ (gap ++ c :: rest)) := by
    obtain ⟨d, others, rfl⟩ := List.exists_cons_of_ne_nil h.ne_nil
    exact blanks_of_stops (stops_isBlank_of_isBare (h.chars d List.mem_cons_self) _)
  have hpart : keyPart (name ++ (gap ++ c :: rest)) =
      some (String.ofList name, gap ++ c :: rest) := by
    apply keyPart_of_bare h
    cases gap with
    | nil => exact stops_cons.mpr hbare
    | cons d others =>
        rw [hgap d List.mem_cons_self]
        exact stops_cons.mpr rfl
  have hend : blanks (gap ++ c :: rest) = some ((), c :: rest) :=
    blanks_append gap (fun d hd => by rw [hgap d hd]; rfl) (stops_cons.mpr hblank)
  have hothers : many (do char '.'; blanks; let part ← keyPart; blanks; pure part) (c :: rest) =
      some ([], c :: rest) :=
    many_of_none (by simp [Ne.symm hdot])
  unfold key
  simp only [bind_apply, hstart, hpart, hend, pure_apply, Option.bind_some]
  rw [hothers]
  rfl

/-! ## Lines -/

theorem lineEnd_of_newline (rest : List Char) : lineEnd ('\n' :: rest) = some ((), rest) := by
  have hblanks : blanks ('\n' :: rest) = some ((), '\n' :: rest) :=
    blanks_of_stops (stops_cons.mpr rfl)
  simp [lineEnd, hblanks, comment, newline]

theorem header_of_bare {name : List Char} (h : Bare name) (rest : List Char) :
    Statement.header ('[' :: (name ++ ']' :: '\n' :: rest)) =
      some (.table [] (String.ofList name), rest) := by
  have hkey := key_of_bare h [] (fun _ hc => by cases hc) (c := ']') rfl rfl (by decide)
    ('\n' :: rest)
  rw [List.nil_append] at hkey
  simp [Statement.header, hkey, lineEnd_of_newline]

/-- A header on a line. -/
theorem line_of_header {name : List Char} (h : Bare name) (rest : List Char) :
    line ('[' :: (name ++ ']' :: '\n' :: rest)) =
      some (some (.table [] (String.ofList name)), rest) := by
  have hheader := header_of_bare h rest
  have hblanks : blanks ('[' :: (name ++ ']' :: '\n' :: rest)) = some ((), _) :=
    blanks_of_stops (stops_cons.mpr rfl)
  have hdouble : Statement.doubledHeader ('[' :: (name ++ ']' :: '\n' :: rest)) = none := by
    obtain ⟨c, others, rfl⟩ := List.exists_cons_of_ne_nil h.ne_nil
    have hc := ne_of_isBare (h.chars c List.mem_cons_self) (d := '[') rfl
    simp [Statement.doubledHeader, hc]
  simp [line, hblanks, hdouble, hheader]

theorem no_header {c : Char} (hc : '[' ≠ c) (rest : List Char) :
    Statement.doubledHeader (c :: rest) = none ∧ Statement.header (c :: rest) = none := by
  simp [Statement.doubledHeader, Statement.header, hc]

/-- A setting on a line. -/
theorem line_of_setting {name text : List Char} {v : Value} (h : Bare name) (rest : List Char)
    (htext : Stops isBlank (text ++ '\n' :: rest))
    (hvalue : scalar (text ++ '\n' :: rest) = some (v, '\n' :: rest)) :
    line (name ++ ' ' :: '=' :: ' ' :: (text ++ '\n' :: rest)) =
      some (some (.assign [] (String.ofList name) v), rest) := by
  have hkey := key_of_bare h [' '] (fun _ hc => List.mem_singleton.mp hc) (c := '=') rfl
    rfl (by decide) (' ' :: (text ++ '\n' :: rest))
  rw [List.singleton_append] at hkey
  have hgap : blanks (' ' :: (text ++ '\n' :: rest)) = some ((), text ++ '\n' :: rest) :=
    blanks_append [' '] (fun c hc => by rw [List.mem_singleton.mp hc]; rfl) htext
  have hassign : Statement.assignment (name ++ ' ' :: '=' :: ' ' :: (text ++ '\n' :: rest)) =
      some (.assign [] (String.ofList name) v, rest) := by
    simp [Statement.assignment, hkey, hgap, value_of_scalar hvalue, lineEnd_of_newline]
  obtain ⟨c, others, rfl⟩ := List.exists_cons_of_ne_nil h.ne_nil
  have hc := h.chars c List.mem_cons_self
  rw [List.cons_append] at hassign ⊢
  obtain ⟨hdouble, hheader⟩ := no_header (ne_of_isBare hc rfl)
    (others ++ ' ' :: '=' :: ' ' :: (text ++ '\n' :: rest))
  simp [line, blanks_of_stops (stops_isBlank_of_isBare hc _), hdouble, hheader, hassign]

/-- An empty line says nothing. -/
theorem line_of_newline (rest : List Char) : line ('\n' :: rest) = some (none, rest) := by
  have hblanks : blanks ('\n' :: rest) = some ((), '\n' :: rest) :=
    blanks_of_stops (stops_cons.mpr rfl)
  have hspan : span1 isBare ('\n' :: rest) = none := span1_of_stops (stops_cons.mpr rfl)
  have hassign : Statement.assignment ('\n' :: rest) = none := by
    simp [Statement.assignment, key, hblanks, keyPart, basicString, literalString, hspan]
  obtain ⟨hdouble, hheader⟩ := no_header (c := '\n') (by decide) rest
  simp [line, hblanks, hdouble, hheader, hassign, newline]

/-- After the last line there is none. -/
theorem line_nil : line [] = none := by
  rfl

theorem stops_isBlank_of_isWhole {whole : List Char} (h : Decimal.IsWhole whole)
    (rest : List Char) : Stops isBlank (whole ++ rest) := by
  obtain ⟨c, others, rfl, hc⟩ := h.exists_cons
  have hspace := ne_of_isDigit hc (d := ' ') rfl
  have htab := ne_of_isDigit hc (d := '\t') rfl
  exact stops_cons.mpr (by simp [isBlank, hspace, htab])

/-! ## Documents -/

/-- A header, its line end, and the lines after it. -/
def headerLine (name : String) (rest : List Char) : List Char :=
  '[' :: (name.toList ++ ']' :: '\n' :: rest)

def settingLine (name : String) (text rest : List Char) : List Char :=
  name.toList ++ ' ' :: '=' :: ' ' :: (text ++ '\n' :: rest)

section Documents

variable {rest last : List Char} {found : List (Option Statement)}

theorem repeats_header (name : String) (h : Bare name.toList)
    (hothers : Repeats line rest found last) :
    Repeats line (headerLine name rest) (some (.table [] name) :: found) last := by
  have hread := line_of_header h rest
  rw [String.ofList_toList] at hread
  refine .next hread ?_ hothers
  simp only [headerLine, List.length_cons, List.length_append]
  omega

theorem repeats_setting (name : String) (h : Bare name.toList) {text : List Char} {v : Value}
    (htext : Stops isBlank (text ++ '\n' :: rest))
    (hvalue : scalar (text ++ '\n' :: rest) = some (v, '\n' :: rest))
    (hothers : Repeats line rest found last) :
    Repeats line (settingLine name text rest) (some (.assign [] name v) :: found) last := by
  have hread := line_of_setting h rest htext hvalue
  rw [String.ofList_toList] at hread
  refine .next hread ?_ hothers
  simp only [settingLine, List.length_cons, List.length_append]
  omega

theorem repeats_newline (hothers : Repeats line rest found last) :
    Repeats line ('\n' :: rest) (none :: found) last :=
  .next (line_of_newline rest) (Nat.lt_succ_self _) hothers

/-- A natural number set on a line. -/
theorem repeats_natural (name : String) (h : Bare name.toList) {n : Nat}
    (hn : n ≤ 0x7FFFFFFFFFFFFFFF) (hothers : Repeats line rest found last) :
    Repeats line (settingLine name (Nat.toDigits 10 n) rest)
      (some (.assign [] name (.integer n)) :: found) last :=
  repeats_setting name h (stops_isBlank_of_isWhole (Decimal.isWhole_toDigits n) _)
    (scalar_of_natural hn rest) hothers

/-- A text that may follow a document and adds no statement. -/
def SaysNothing (rest : List Char) : Prop :=
  ∃ found, Repeats line rest found [] ∧ found.filterMap id = []

theorem saysNothing_nil : SaysNothing [] := ⟨[], .done line_nil, rfl⟩

theorem SaysNothing.newline (h : SaysNothing rest) : SaysNothing ('\n' :: rest) := by
  obtain ⟨found, hrepeats, hnone⟩ := h
  exact ⟨none :: found, repeats_newline hrepeats, hnone⟩

end Documents

/-- A text of lines is a document of their statements. -/
theorem statements_of_repeats {cs : List Char} {found : List (Option Statement)}
    (hmark : Stops (· = '\ufeff') cs) (h : Repeats line cs found []) :
    statements cs = some (found.filterMap id, []) := by
  have hnomark : char '\ufeff' cs = none := by
    cases cs with
    | nil => rfl
    | cons c rest =>
        have hc := stops_cons.mp hmark
        simp only [decide_eq_false_iff_not] at hc
        simp [Ne.symm hc]
  have hend : blanks [] = some ((), []) := rfl
  simp [statements, hnomark, many_of_repeats h, hend, atEnd]

/-- Statements that can be carried out make a document. -/
theorem document?_of_statements {text : String} {found : List Statement} {draft : Draft}
    (hread : statements text.toList = some (found, []))
    (hdraft : found.foldlM Draft.add {} = some draft) :
    document? text = some draft.table.entries := by
  unfold document?
  rw [StateT.run, hread]
  simp [hdraft]

end ScreenPointer.Toml
