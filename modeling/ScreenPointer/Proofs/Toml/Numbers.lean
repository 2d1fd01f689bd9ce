/-
# Reading numbers

A run of digits in a document is tried as a date and as a time, then as a number
with a point, and last as an integer.  Which of them it is depends on the
character after the first digits alone.
-/

import Mathlib.Data.List.Basic
import ScreenPointer.Proofs.Toml.Reading
import ScreenPointer.Toml.Document

namespace ScreenPointer.Toml

open Reader
open Decimal (Digits IsWhole Written)

/-! ## Digits -/

theorem ofDigits_ten {text : List Char} (h : Digits text) :
    ofDigits 10 text = Decimal.ofDigits text := by
  unfold ofDigits Decimal.ofDigits
  apply List.foldl_ext
  intro n c hc
  rw [digitValue, if_pos (h c hc)]

section Runs

variable {p : Char → Bool} {found : List Char} (hfound : ∀ c ∈ found, p c = true)
  {rest : List Char} (hrest : Stops p rest) (hmark : Stops (· = '_') rest)
include hfound hrest hmark

theorem repeats_digits : Repeats (one p <|> (do char '_'; one p)) (found ++ rest) found rest := by
  induction found with
  | nil =>
      apply Repeats.done
      cases rest with
      | nil => rfl
      | cons c rest =>
          have hc := stops_cons.mp hrest
          have hline := stops_cons.mp hmark
          simp only [decide_eq_false_iff_not] at hline
          simp [hc, Ne.symm hline]
  | cons c found ih =>
      have hnext : (one p <|> (do char '_'; one p)) (c :: found ++ rest) =
          some (c, found ++ rest) := by
        simp [hfound c List.mem_cons_self]
      exact .next hnext (Nat.lt_succ_self _) (ih fun d hd => hfound d (List.mem_cons_of_mem _ hd))

theorem digits_append (hne : found ≠ []) : digits p (found ++ rest) = some (found, rest) := by
  obtain ⟨first, others, rfl⟩ := List.exists_cons_of_ne_nil hne
  have hothers := repeats_digits (fun c hc => hfound c (List.mem_cons_of_mem _ hc)) hrest hmark
  unfold digits
  rw [List.cons_append, bind_apply, one_cons, if_pos (hfound first List.mem_cons_self),
    Option.bind_some, bind_apply, many_of_repeats hothers]
  rfl

end Runs

theorem sign_of_isDigit {c : Char} (hc : c.isDigit = true) (rest : List Char) :
    sign (c :: rest) = some ([], c :: rest) := by
  have hplus : c ≠ '+' := by rintro rfl; cases hc
  have hminus : c ≠ '-' := by rintro rfl; cases hc
  unfold sign
  simp [hplus, hminus]

theorem ne_of_isDigit {c d : Char} (hc : c.isDigit = true) (hd : d.isDigit = false) : c ≠ d := by
  rintro rfl
  rw [hc] at hd
  cases hd

/-- A whole part is taken as a whole. -/
theorem decimalDigits_append {whole : List Char} (h : IsWhole whole) {c : Char}
    (hc : c.isDigit = false) (hmark : c ≠ '_') (rest : List Char) :
    decimalDigits (whole ++ c :: rest) = some (whole, c :: rest) := by
  obtain ⟨hdigits, rfl | ⟨first, others, rfl, hfirst⟩⟩ := h
  · simp [decimalDigits]
  · have hstops : Stops Char.isDigit (c :: rest) := stops_cons.mpr hc
    have hread := digits_append hdigits hstops (stops_cons.mpr (by simp [hmark]))
      (List.cons_ne_nil _ _)
    unfold decimalDigits
    rw [orElse_apply, bind_apply, List.cons_append, peek_cons, if_pos (by simp [hfirst]),
      Option.bind_some, ← List.cons_append, hread]
    rfl

/-! ## Neither strings nor dates -/

theorem string_of_isDigit {c : Char} (hc : c.isDigit = true) (rest : List Char) :
    string (c :: rest) = none := by
  have hquote : ¬ '"' = c := (ne_of_isDigit hc rfl).symm
  have happostrophe : ¬ '\'' = c := (ne_of_isDigit hc rfl).symm
  simp [string, longBasicString, longLiteralString, longString, basicString, literalString, hquote,
    happostrophe]

/-- What is left after a number of a date or a time. -/
theorem field_rest {found rest : List Char} (hfound : Digits found)
    (hrest : Stops Char.isDigit rest) {width low high n : Nat} {left : List Char}
    (h : field width low high (found ++ rest) = some (n, left)) :
    left = found.drop width ++ rest := by
  unfold field at h
  rw [bind_apply, exactly_append hfound hrest] at h
  by_cases hwidth : width ≤ found.length
  · rw [if_pos hwidth, Option.bind_some] at h
    dsimp only at h
    split at h
    · cases h
      rfl
    · cases h
  · rw [if_neg hwidth] at h
    cases h

/-- Digits that do not go on with a hyphen or a colon are neither a date nor a time. -/
theorem moment_of_digits {found : List Char} (hfound : Digits found) {c : Char}
    (hc : c.isDigit = false) (hdate : c ≠ '-') (htime : c ≠ ':') (rest : List Char) :
    moment (found ++ c :: rest) = none := by
  -- The mark after the first field is missing, however many digits the field takes.
  have hmark (width low high : Nat) {mark : Char} (hmark : c ≠ mark)
      (hdigit : mark.isDigit = false) {α : Type} (next : Nat → Unit → Reader α) :
      (do let n ← field width low high; next n (← char mark)) (found ++ c :: rest) = none := by
    rw [bind_apply]
    cases hfield : field width low high (found ++ c :: rest) with
    | none => rfl
    | some result =>
        obtain ⟨n, left⟩ := result
        have hleft := field_rest hfound (stops_cons.mpr hc) hfield
        subst hleft
        rw [Option.bind_some, bind_apply]
        cases hdrop : found.drop width with
        | nil => simp [Ne.symm hmark]
        | cons d others =>
            have hd : d.isDigit = true :=
              hfound d (List.mem_of_mem_drop (hdrop ▸ List.mem_cons_self))
            simp [Ne.symm (ne_of_isDigit hd hdigit)]
  have hnodate : date (found ++ c :: rest) = none := hmark 4 0 9999 hdate rfl _
  have hnotime : time (found ++ c :: rest) = none := hmark 2 0 23 htime rfl _
  unfold moment
  simp [hnodate, hnotime]

/-! ## Integers and floats -/

/-- Digits that end with the line are no float. -/
theorem float_of_line {whole : List Char} (h : IsWhole whole) (rest : List Char) :
    float (whole ++ '\n' :: rest) = none := by
  have hwhole := decimalDigits_append h (c := '\n') rfl (by decide) rest
  obtain ⟨c, others, rfl, hc⟩ := h.exists_cons
  have hi : ¬ 'i' = c := (ne_of_isDigit hc rfl).symm
  have hn : ¬ 'n' = c := (ne_of_isDigit hc rfl).symm
  rw [List.cons_append] at hwhole ⊢
  simp [float, decimalFloat, specialFloat, sign_of_isDigit hc, hwhole, exponent, places, hi, hn]

/-- A prefix of another base needs a letter after its zero. -/
theorem prefixed_of_line {whole : List Char} (h : IsWhole whole) {mark : Char} (hmark : mark ≠ '\n')
    (base : Nat) (p : Char → Bool) (rest : List Char) :
    prefixed mark base p (whole ++ '\n' :: rest) = none := by
  obtain ⟨-, rfl | ⟨first, others, rfl, hfirst⟩⟩ := h
  · simp [prefixed, hmark]
  · simp [prefixed, Ne.symm hfirst]

/-- A natural number that documents may hold is read as an integer. -/
theorem integer_of_line {n : Nat} (hn : n ≤ 0x7FFFFFFFFFFFFFFF) (rest : List Char) :
    integer (Nat.toDigits 10 n ++ '\n' :: rest) = some ((n : Int), '\n' :: rest) := by
  have hwhole := Decimal.isWhole_toDigits n
  have hread := decimalDigits_append hwhole (c := '\n') rfl (by decide) rest
  have hvalue : ofDigits 10 (Nat.toDigits 10 n) = n := by
    rw [ofDigits_ten hwhole.digits, Decimal.ofDigits_toDigits]
  have hrange : inRange n = true := by
    simp only [inRange, Bool.and_eq_true, decide_eq_true_eq]
    omega
  unfold integer
  rw [orElse_apply, orElse_apply, orElse_apply, prefixed_of_line hwhole (by decide),
    prefixed_of_line hwhole (by decide), prefixed_of_line hwhole (by decide)]
  obtain ⟨c, others, htext, hc⟩ := hwhole.exists_cons
  rw [htext] at hread hvalue ⊢
  rw [List.cons_append] at hread ⊢
  unfold decimalInteger
  rw [bind_apply, sign_of_isDigit hc, Option.bind_some, bind_apply, hread, Option.bind_some]
  dsimp only
  rw [hvalue, if_neg (List.cons_ne_nil _ _).symm, if_pos hrange]
  rfl

/-- Digits, a point and digits are read as the number of the literal. -/
theorem float_of_literal {whole places : List Char} (hwhole : IsWhole whole)
    (hplaces : Digits places) (hne : places ≠ []) {x : Double}
    (hliteral : Binary.ofLiteral? (whole ++ '.' :: places) = some x) (hfinite : x ≠ .infinite false)
    (rest : List Char) :
    float (whole ++ '.' :: (places ++ '\n' :: rest)) = some (x, '\n' :: rest) := by
  have hread := decimalDigits_append hwhole (c := '.') rfl (by decide) (places ++ '\n' :: rest)
  have hstops : Stops Char.isDigit ('\n' :: rest) := stops_cons.mpr rfl
  have hafter := digits_append hplaces hstops (stops_cons.mpr rfl) hne
  obtain ⟨c, others, rfl, hc⟩ := hwhole.exists_cons
  rw [List.cons_append] at hread hliteral ⊢
  simp [float, decimalFloat, sign_of_isDigit hc, hread, exponent, Toml.places, hafter, hliteral,
    hfinite]

/-! ## Values -/

theorem value_of_scalar {cs rest : List Char} {v : Value} (h : scalar cs = some (v, rest))
    (depth : Nat) : value depth cs = some (v, rest) := by
  cases depth with
  | zero => exact h
  | succ depth =>
      unfold value
      rw [orElse_apply, orElse_apply, h]
      rfl

/-- A natural number on a line of its own. -/
theorem scalar_of_natural {n : Nat} (hn : n ≤ 0x7FFFFFFFFFFFFFFF) (rest : List Char) :
    scalar (Nat.toDigits 10 n ++ '\n' :: rest) = some (.integer n, '\n' :: rest) := by
  have hwhole := Decimal.isWhole_toDigits n
  have hmoment := moment_of_digits hwhole.digits (c := '\n') rfl (by decide) (by decide) rest
  have hfloat := float_of_line hwhole rest
  have hinteger := integer_of_line hn rest
  obtain ⟨c, others, htext, hc⟩ := hwhole.exists_cons
  rw [htext, List.cons_append] at hmoment hfloat hinteger ⊢
  simp [scalar, string_of_isDigit hc, hmoment, hfloat, hinteger]

/-- A number with a point on a line of its own. -/
theorem scalar_of_literal {whole places : List Char} (hwhole : IsWhole whole)
    (hplaces : Digits places) (hne : places ≠ []) {x : Double}
    (hliteral : Binary.ofLiteral? (whole ++ '.' :: places) = some x) (hfinite : x ≠ .infinite false)
    (rest : List Char) :
    scalar (whole ++ '.' :: (places ++ '\n' :: rest)) = some (.float x, '\n' :: rest) := by
  have hmoment := moment_of_digits hwhole.digits (c := '.') rfl (by decide) (by decide)
    (places ++ '\n' :: rest)
  have hfloat := float_of_literal hwhole hplaces hne hliteral hfinite rest
  obtain ⟨c, others, rfl, hc⟩ := hwhole.exists_cons
  rw [List.cons_append] at hmoment hfloat ⊢
  simp [scalar, string_of_isDigit hc, hmoment, hfloat]

end ScreenPointer.Toml
