/-
# What readers read

One equation for each way of combining readers, and what the readers of spans,
repetitions and numbers take off the front of a text.  A reader that takes as
much as it can needs to know how the text goes on: `Stops` says that it does not
go on with a character of the same class.
-/

import Mathlib.Data.List.TakeWhile
import ScreenPointer.Proofs.Binary.Literal
import ScreenPointer.Toml.Reader

namespace ScreenPointer.Toml

namespace Reader

variable {α β : Type}

/-! ## Combining -/

@[simp]
theorem pure_apply (a : α) (cs : List Char) : (pure a : Reader α) cs = some (a, cs) := rfl

@[simp]
theorem failure_apply (cs : List Char) : (failure : Reader α) cs = none := rfl

@[simp]
theorem get_apply (cs : List Char) : (get : Reader (List Char)) cs = some (cs, cs) := rfl

@[simp]
theorem bind_apply (r : Reader α) (next : α → Reader β) (cs : List Char) :
    (r >>= next) cs = (r cs).bind fun found => next found.1 found.2 := rfl

@[simp]
theorem map_apply (g : α → β) (r : Reader α) (cs : List Char) :
    (g <$> r) cs = (r cs).map fun found => (g found.1, found.2) := by
  change (r cs).bind _ = _
  cases r cs <;> rfl

@[simp]
theorem orElse_apply (first second : Reader α) (cs : List Char) :
    (first <|> second) cs = (first cs).or (second cs) := by
  change (first cs <|> second cs) = _
  cases first cs <;> rfl

@[simp]
theorem optional_apply (r : Reader α) (cs : List Char) :
    Reader.optional r cs =
      some (((r cs).map fun found => (some found.1, found.2)).getD (none, cs)) := by
  unfold Reader.optional
  rw [orElse_apply, map_apply]
  cases r cs <;> rfl

/-! ## Single characters -/

@[simp]
theorem one_cons (p : Char → Bool) (c : Char) (rest : List Char) :
    one p (c :: rest) = if p c then some (c, rest) else none := rfl

@[simp]
theorem char_cons (c d : Char) (rest : List Char) :
    char c (d :: rest) = if c = d then some ((), rest) else none := rfl

@[simp]
theorem text_nil (cs : List Char) : text [] cs = some ((), cs) := rfl

@[simp]
theorem text_cons (c d : Char) (cs rest : List Char) :
    text (c :: cs) (d :: rest) = if c = d then text cs rest else none := by
  change (char c (d :: rest)).bind _ = _
  rw [char_cons]
  split <;> rfl

@[simp]
theorem peek_cons (p : Char → Bool) (c : Char) (rest : List Char) :
    peek p (c :: rest) = if p c then some ((), c :: rest) else none := rfl

/-! ## Spans -/

/-- A text that does not start with a character of a class. -/
def Stops (p : Char → Bool) (rest : List Char) : Prop := ∀ c ∈ rest.head?, p c = false

theorem stops_cons {p : Char → Bool} {c : Char} {rest : List Char} :
    Stops p (c :: rest) ↔ p c = false := by
  simp [Stops]

theorem takeWhile_of_stops {p : Char → Bool} {rest : List Char} (h : Stops p rest) :
    rest.takeWhile p = [] ∧ rest.dropWhile p = rest := by
  cases rest with
  | nil => exact ⟨rfl, rfl⟩
  | cons c rest =>
      have hc := stops_cons.mp h
      simp [hc]

/-- Everything of a class is taken. -/
theorem span_append {p : Char → Bool} {found rest : List Char} (hfound : ∀ c ∈ found, p c = true)
    (hrest : Stops p rest) : span p (found ++ rest) = some (found, rest) := by
  obtain ⟨htake, hdrop⟩ := takeWhile_of_stops hrest
  rw [span, List.takeWhile_append_of_pos hfound, List.dropWhile_append_of_pos hfound, htake, hdrop,
    List.append_nil]

theorem span_of_stops {p : Char → Bool} {rest : List Char} (h : Stops p rest) :
    span p rest = some ([], rest) := by
  obtain ⟨htake, hdrop⟩ := takeWhile_of_stops h
  rw [span, htake, hdrop]

theorem span1_append {p : Char → Bool} {found rest : List Char} (hfound : ∀ c ∈ found, p c = true)
    (hne : found ≠ []) (hrest : Stops p rest) : span1 p (found ++ rest) = some (found, rest) := by
  unfold span1
  rw [bind_apply, span_append hfound hrest]
  cases found with
  | nil => exact absurd rfl hne
  | cons c found => rfl

theorem span1_of_stops {p : Char → Bool} {rest : List Char} (h : Stops p rest) :
    span1 p rest = none := by
  unfold span1
  rw [bind_apply, span_of_stops h]
  rfl

/-! ## Repetition -/

/-- A reader finds one thing after another until it fails, each time taking something. -/
inductive Repeats (r : Reader α) : List Char → List α → List Char → Prop
  | done {rest : List Char} (hfail : r rest = none) : Repeats r rest [] rest
  | next {cs middle rest : List Char} {a : α} {found : List α} (hread : r cs = some (a, middle))
      (hshorter : middle.length < cs.length) (hothers : Repeats r middle found rest) :
      Repeats r cs (a :: found) rest

theorem Repeats.upTo {r : Reader α} {cs rest : List Char} {found : List α}
    (h : Repeats r cs found rest) {count : Nat} (hcount : cs.length ≤ count) :
    upTo r count cs = some (found, rest) := by
  induction h generalizing count with
  | done hfail =>
      cases count with
      | zero => rfl
      | succ count =>
          rw [Reader.upTo, orElse_apply, bind_apply, hfail]
          rfl
  | next hread hshorter hothers ih =>
      cases count with
      | zero => omega
      | succ count =>
          rw [Reader.upTo, orElse_apply, bind_apply, hread, Option.bind_some, bind_apply,
            ih (by omega)]
          rfl

/-- The characters there are suffice as a bound. -/
theorem many_of_repeats {r : Reader α} {cs rest : List Char} {found : List α}
    (h : Repeats r cs found rest) : many r cs = some (found, rest) :=
  h.upTo (Nat.le_refl _)

theorem many_of_none {r : Reader α} {cs : List Char} (h : r cs = none) :
    many r cs = some ([], cs) :=
  many_of_repeats (.done h)

/-- A given count of a class, as long as there are so many. -/
theorem exactly_append {p : Char → Bool} {found rest : List Char}
    (hfound : ∀ c ∈ found, p c = true) (hrest : Stops p rest) (count : Nat) :
    exactly p count (found ++ rest) =
      if count ≤ found.length then some (found.take count, found.drop count ++ rest) else none := by
  induction count generalizing found with
  | zero => rfl
  | succ count ih =>
      rw [exactly, bind_apply]
      cases found with
      | nil =>
          cases rest with
          | nil => rfl
          | cons c rest => simp [stops_cons.mp hrest]
      | cons c found =>
          have hothers := ih fun d hd => hfound d (List.mem_cons_of_mem _ hd)
          rw [List.cons_append, one_cons, if_pos (hfound c List.mem_cons_self), Option.bind_some,
            bind_apply, hothers]
          by_cases hcount : count ≤ found.length
          · simp [hcount]
          · simp [hcount]

end Reader

end ScreenPointer.Toml
