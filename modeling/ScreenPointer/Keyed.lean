/-
# Keyed lists

A finite table as a list of pairs, in order of first insertion.  Inserting
replaces the value of a key in place or appends a new pair, so a table built by
insertion has one pair per key.
-/

namespace ScreenPointer

abbrev Keyed (α β : Type) := List (α × β)

namespace Keyed

variable {α β : Type} [DecidableEq α]

def find? (key : α) : Keyed α β → Option β
  | [] => none
  | (k, v) :: rest => if k = key then some v else find? key rest

def insert (key : α) (value : β) : Keyed α β → Keyed α β
  | [] => [(key, value)]
  | (k, v) :: rest => if k = key then (key, value) :: rest else (k, v) :: insert key value rest

def erase (key : α) (table : Keyed α β) : Keyed α β :=
  table.filter fun pair => pair.1 ≠ key

@[simp]
theorem find?_insert_self (key : α) (value : β) (table : Keyed α β) :
    find? key (insert key value table) = some value := by
  induction table with
  | nil => simp [insert, find?]
  | cons pair rest ih =>
    obtain ⟨k, v⟩ := pair
    by_cases h : k = key <;> simp [insert, find?, h, ih]

theorem find?_insert_of_ne {key other : α} (hne : other ≠ key) (value : β) (table : Keyed α β) :
    find? other (insert key value table) = find? other table := by
  induction table with
  | nil => simp [insert, find?, Ne.symm hne]
  | cons pair rest ih =>
    obtain ⟨k, v⟩ := pair
    by_cases h : k = key
    · subst h; simp [insert, find?, Ne.symm hne]
    · by_cases ho : k = other
      · subst ho; simp [insert, find?, h]
      · simp [insert, find?, h, ho, ih]

@[simp]
theorem find?_erase_self (key : α) (table : Keyed α β) :
    find? key (erase key table) = none := by
  induction table with
  | nil => rfl
  | cons pair rest ih =>
    obtain ⟨k, v⟩ := pair
    by_cases h : k = key
    · simpa [erase, h] using ih
    · simpa [erase, find?, h] using ih

theorem find?_erase_of_ne {key other : α} (hne : other ≠ key) (table : Keyed α β) :
    find? other (erase key table) = find? other table := by
  induction table with
  | nil => rfl
  | cons pair rest ih =>
    obtain ⟨k, v⟩ := pair
    by_cases h : k = key
    · subst h; simpa [erase, find?, Ne.symm hne] using ih
    · by_cases ho : k = other
      · subst ho; simp [erase, find?, h]
      · simpa [erase, find?, h, ho] using ih

end Keyed

end ScreenPointer
