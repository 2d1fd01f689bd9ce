/-
# Written decimals

The positional text of a decimal has a whole part without idle zeros and digits
after the point.  Read as a literal it is the decimal again, up to zeros at the
end, so the text of a number is read as that number.
-/

import Mathlib.Data.List.TakeWhile
import ScreenPointer.Proofs.Binary.Shortest

namespace ScreenPointer

namespace Decimal

/-! ## Runs of digits -/

def Digits (text : List Char) : Prop := ∀ c ∈ text, c.isDigit = true

theorem digits_append {first second : List Char} :
    Digits (first ++ second) ↔ Digits first ∧ Digits second := by
  simp only [Digits, List.forall_mem_append]

theorem digits_replicate (count : Nat) : Digits (List.replicate count '0') := by
  intro c hc
  rw [List.eq_of_mem_replicate hc]
  rfl

theorem digits_toDigits (n : Nat) : Digits (Nat.toDigits 10 n) := fun _ hc =>
  Nat.isDigit_of_mem_toDigits (by decide) (by decide) hc

/-- A run that does not start with a zero. -/
def StartsPlain (text : List Char) : Prop := ∃ c rest, text = c :: rest ∧ c ≠ '0'

theorem StartsPlain.append {first : List Char} (h : StartsPlain first) (second : List Char) :
    StartsPlain (first ++ second) := by
  obtain ⟨c, rest, rfl, hc⟩ := h
  exact ⟨c, rest ++ second, rfl, hc⟩

/-- The leading digit of a number is no zero. -/
theorem startsPlain_toDigits {n : Nat} (hn : n ≠ 0) : StartsPlain (Nat.toDigits 10 n) := by
  induction n using Nat.strongRecOn with
  | _ n ih =>
      rcases Nat.lt_or_ge n 10 with hlt | hge
      · rw [Nat.toDigits_of_lt_base hlt]
        have hdigit : ∀ k < 10, k ≠ 0 → k.digitChar ≠ '0' := by decide
        exact ⟨_, [], rfl, hdigit n hlt hn⟩
      · rw [Nat.toDigits_of_base_le (by decide) hge]
        exact (ih (n / 10) (by omega) (by omega)).append _

theorem ofDigits_eq (text : List Char) : ofDigits text = Nat.ofDigitChars 10 text 0 := by
  unfold ofDigits Nat.ofDigitChars
  simp only [Nat.mul_comm]

theorem ofDigits_toDigits (n : Nat) : ofDigits (Nat.toDigits 10 n) = n := by
  rw [ofDigits_eq]
  exact Nat.ofDigitChars_toDigits (by decide) (by decide)

/-- Zeros in front say nothing. -/
theorem ofDigits_zeros_append (count : Nat) (text : List Char) :
    ofDigits (List.replicate count '0' ++ text) = ofDigits text := by
  rw [ofDigits_eq, ofDigits_eq, Nat.ofDigitChars_append, Nat.ofDigitChars_replicate_zero,
    Nat.mul_zero]

/-- Zeros at the end are powers of ten. -/
theorem ofDigits_append_zeros (count : Nat) (text : List Char) :
    ofDigits (text ++ List.replicate count '0') = ofDigits text * 10 ^ count := by
  rw [ofDigits_eq, ofDigits_eq, Nat.ofDigitChars_append, Nat.ofDigitChars_replicate_zero,
    Nat.mul_comm]

/-! ## Whole part and places -/

/-- A whole part as documents have it: a zero alone, or digits that do not start with one. -/
structure IsWhole (text : List Char) : Prop where
  digits : Digits text
  plain : text = ['0'] ∨ StartsPlain text

theorem isWhole_zero : IsWhole ['0'] := ⟨digits_replicate 1, .inl rfl⟩

theorem isWhole_toDigits (n : Nat) : IsWhole (Nat.toDigits 10 n) := by
  by_cases hn : n = 0
  · subst hn
    exact isWhole_zero
  · exact ⟨digits_toDigits n, .inr (startsPlain_toDigits hn)⟩

/-- The digits `whole.places` say what a decimal says. -/
structure Written (d : Decimal) (whole places : List Char) : Prop where
  isWhole : IsWhole whole
  digits : Digits places
  filled : places ≠ []
  alike : Alike ⟨ofDigits (whole ++ places), -(places.length : Int)⟩ d

theorem toList_zeros (count : Nat) : ("".pushn '0' count).toList = List.replicate count '0' := by
  rw [String.pushn_eq_repeat_push]
  induction count with
  | zero => rfl
  | succ count ih => rw [Nat.repeat, String.toList_push, ih, List.replicate_succ']

/-- A whole number has a zero after the point. -/
theorem exists_written_of_whole {d : Decimal} (hdigits : d.digits ≠ 0) (hwhole : 0 ≤ d.exponent) :
    ∃ whole, d.parts = (String.ofList whole, "") ∧ d.Written whole ['0'] := by
  refine ⟨Nat.toDigits 10 d.digits ++ List.replicate d.exponent.natAbs '0', ?_, ?_, ?_, ?_, ?_⟩
  · unfold parts
    rw [if_neg (Int.not_lt.mpr hwhole)]
    congr 1
    rw [← String.toList_inj, String.toList_append, toList_zeros, String.toList_ofList]
    exact congrArg (· ++ _) Nat.toList_repr
  · exact ⟨digits_append.mpr ⟨digits_toDigits _, digits_replicate _⟩,
      .inr ((startsPlain_toDigits hdigits).append _)⟩
  · exact digits_replicate 1
  · exact List.cons_ne_nil _ _
  · have hvalue : ofDigits (Nat.toDigits 10 d.digits ++ List.replicate d.exponent.natAbs '0' ++
        List.replicate 1 '0') = d.digits * 10 ^ d.exponent.toNat * 10 := by
      rw [ofDigits_append_zeros, ofDigits_append_zeros, ofDigits_toDigits, Nat.pow_one,
        show d.exponent.natAbs = d.exponent.toNat by omega]
    change Alike ⟨ofDigits (_ ++ List.replicate 1 '0'), -1⟩ d
    rw [hvalue]
    simp only [Alike, ratio_eq]
    rw [show (-d.exponent).toNat = 0 by omega, show (-1 : Int).toNat = 0 from rfl,
      show (- -1 : Int).toNat = 1 from rfl, Nat.pow_zero, Nat.mul_one, Nat.mul_one, Nat.pow_one]

/-- The text of the digits, with zeros in front up to one digit before the point. -/
def padded (d : Decimal) : List Char :=
  List.replicate (d.exponent.natAbs + 1 - (Nat.toDigits 10 d.digits).length) '0' ++
    Nat.toDigits 10 d.digits

theorem parts_of_places {d : Decimal} (hplaces : d.exponent < 0) :
    d.parts =
      (String.ofList (d.padded.take (d.padded.length - d.exponent.natAbs)),
        String.ofList (d.padded.drop (d.padded.length - d.exponent.natAbs))) := by
  have hlength : (toString d.digits).length = (Nat.toDigits 10 d.digits).length := by
    rw [← String.length_toList]
    exact congrArg List.length Nat.toList_repr
  have hpadded : ("".pushn '0' (d.exponent.natAbs + 1 - (toString d.digits).length) ++
      toString d.digits).toList = d.padded := by
    rw [String.toList_append, toList_zeros, hlength]
    exact congrArg (_ ++ ·) Nat.toList_repr
  unfold parts
  rw [if_pos hplaces]
  dsimp only
  rw [← String.length_toList (s := _ ++ _), hpadded]

theorem digits_padded (d : Decimal) : Digits d.padded :=
  digits_append.mpr ⟨digits_replicate _, digits_toDigits _⟩

theorem length_padded (d : Decimal) :
    d.padded.length = max (d.exponent.natAbs + 1) (Nat.toDigits 10 d.digits).length := by
  rw [padded, List.length_append, List.length_replicate]
  omega

/-- Before the point the digits begin, or there is the one zero of the padding. -/
theorem isWhole_padded {d : Decimal} (hdigits : d.digits ≠ 0) :
    IsWhole (d.padded.take (d.padded.length - d.exponent.natAbs)) := by
  have hlength := d.length_padded
  refine ⟨fun c hc => d.digits_padded c (List.mem_of_mem_take hc), ?_⟩
  rcases Nat.lt_or_ge d.exponent.natAbs (Nat.toDigits 10 d.digits).length with hlong | hshort
  · obtain ⟨c, rest, htext, hc⟩ := startsPlain_toDigits hdigits
    have hpadded : d.padded = c :: rest := by
      rw [padded, Nat.sub_eq_zero_of_le hlong, List.replicate_zero, List.nil_append, htext]
    obtain ⟨count, hcount⟩ : ∃ count, d.padded.length - d.exponent.natAbs = count + 1 :=
      ⟨d.padded.length - d.exponent.natAbs - 1, by omega⟩
    rw [hcount, hpadded]
    exact .inr ⟨c, rest.take count, rfl, hc⟩
  · obtain ⟨zeros, hzeros⟩ :
        ∃ zeros, d.exponent.natAbs + 1 - (Nat.toDigits 10 d.digits).length = zeros + 1 :=
      ⟨d.exponent.natAbs - (Nat.toDigits 10 d.digits).length, by omega⟩
    have hcount : d.padded.length - d.exponent.natAbs = 1 := by omega
    rw [hcount, padded, hzeros]
    exact .inl rfl

/-- A number with digits after the point, zeros in front of them where they are missing. -/
theorem exists_written_of_places {d : Decimal} (hdigits : d.digits ≠ 0) (hplaces : d.exponent < 0) :
    ∃ whole places, d.parts = (String.ofList whole, String.ofList places) ∧
      d.Written whole places := by
  have hlength := d.length_padded
  have hcount : (d.padded.drop (d.padded.length - d.exponent.natAbs)).length =
      d.exponent.natAbs := by
    rw [List.length_drop]
    omega
  refine ⟨_, _, parts_of_places hplaces, isWhole_padded hdigits, ?_, ?_, ?_⟩
  · exact fun c hc => d.digits_padded c (List.mem_of_mem_drop hc)
  · exact List.ne_nil_of_length_pos (by omega)
  · rw [List.take_append_drop, hcount, padded, ofDigits_zeros_append, ofDigits_toDigits,
      show -(d.exponent.natAbs : Int) = d.exponent by omega]
    exact rfl

/-- The text of a decimal with at least one digit after the point. -/
theorem exists_written {d : Decimal} (hdigits : d.digits ≠ 0) :
    ∃ whole places, d.Written whole places ∧
      (d.parts.1 ++ "." ++ if d.parts.2.isEmpty then "0" else d.parts.2).toList =
        whole ++ '.' :: places := by
  rcases Int.lt_or_le d.exponent 0 with hplaces | hwhole
  · obtain ⟨whole, places, hparts, hwritten⟩ := exists_written_of_places hdigits hplaces
    have hfilled : (String.ofList places).isEmpty = false := by
      rw [String.isEmpty_eq_false_iff, ← String.ofList_nil, Ne, String.ofList_inj]
      exact hwritten.filled
    refine ⟨whole, places, hwritten, ?_⟩
    rw [hparts, hfilled]
    simp
  · obtain ⟨whole, hparts, hwritten⟩ := exists_written_of_whole hdigits hwhole
    refine ⟨whole, ['0'], hwritten, ?_⟩
    rw [hparts]
    simp

/-! ## Reading -/

theorem IsWhole.exists_cons {text : List Char} (h : IsWhole text) :
    ∃ c rest, text = c :: rest ∧ c.isDigit = true := by
  obtain ⟨hdigits, rfl | ⟨c, rest, rfl, -⟩⟩ := h
  · exact ⟨'0', [], rfl, rfl⟩
  · exact ⟨c, rest, rfl, hdigits c List.mem_cons_self⟩

theorem splitSign_of_isDigit {c : Char} (hc : c.isDigit = true) (rest : List Char) :
    splitSign (c :: rest) = (false, c :: rest) := by
  unfold splitSign
  split
  · rename_i heq
    cases heq
    cases hc
  · rename_i heq
    cases heq
    cases hc
  · rfl

/-- Digits, a point and digits are a literal. -/
theorem ofLiteral?_of_digits {whole places : List Char} (hwhole : IsWhole whole)
    (hplaces : Digits places) :
    ofLiteral? (whole ++ '.' :: places) =
      some (false, ⟨ofDigits (whole ++ places), -(places.length : Int)⟩) := by
  have hsign : splitSign (whole ++ '.' :: places) = (false, whole ++ '.' :: places) := by
    obtain ⟨c, rest, rfl, hc⟩ := hwhole.exists_cons
    exact splitSign_of_isDigit hc _
  have htake : (whole ++ '.' :: places).takeWhile Char.isDigit = whole := by
    rw [List.takeWhile_append_of_pos hwhole.digits]
    exact List.append_nil whole
  have hdrop : (whole ++ '.' :: places).dropWhile Char.isDigit = '.' :: places := by
    rw [List.dropWhile_append_of_pos hwhole.digits]
    rfl
  have hknown : (whole ++ places).isEmpty = false := by
    obtain ⟨c, rest, rfl, -⟩ := hwhole.exists_cons
    rfl
  unfold ofLiteral?
  rw [hsign]
  dsimp only
  rw [htake, hdrop]
  simp only
  rw [List.takeWhile_eq_self_iff.mpr hplaces, List.dropWhile_eq_nil_iff.mpr hplaces, hknown]
  rfl

end Decimal

namespace Binary

variable {f : Format}

/-- Only zero is written without a digit other than zero. -/
theorem shortest_digits_ne_zero (hp : 2 ≤ f.precision) {m : Nat} (holds : f.Holds m)
    (hzero : m ≠ 0) : (f.shortest m).digits ≠ 0 := by
  intro hnone
  have hread := ofDecimal_shortest hp false holds
  unfold ofDecimal at hread
  rw [if_pos hnone] at hread
  cases hread
  exact hzero rfl

/-- A literal with the digits of a number's shortest decimal is read as the number. -/
theorem ofLiteral?_of_written (hp : 2 ≤ f.precision) {m : Nat} (holds : f.Holds m)
    {whole places : List Char} (h : (f.shortest m).Written whole places) :
    ofLiteral? (whole ++ '.' :: places) = some (finite false m holds) := by
  unfold ofLiteral?
  rw [Decimal.ofLiteral?_of_digits h.isWhole h.digits]
  change some (ofDecimal false _) = _
  rw [ofDecimal_of_alike false h.alike, ofDecimal_shortest hp]

end Binary

end ScreenPointer
