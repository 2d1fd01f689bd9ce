/-
# Tables with one pair per key

Up to order, a table with unique keys is the pair of a key and the table without
that key; inserting replaces that pair.  So what holds of all pairs, or of sums
over them, can be followed through an update of one key.
-/

import ScreenPointer.Keyed

namespace ScreenPointer

namespace Keyed

variable {α β : Type} [DecidableEq α]

def Unique (table : Keyed α β) : Prop := (table.map Prod.fst).Nodup

theorem mem_of_find? {key : α} {value : β} {table : Keyed α β}
    (h : find? key table = some value) : (key, value) ∈ table := by
  induction table with
  | nil => cases h
  | cons pair rest ih =>
      obtain ⟨k, v⟩ := pair
      by_cases hk : k = key
      · subst hk
        simp only [find?, if_true, Option.some.injEq] at h
        subst h
        exact List.mem_cons_self
      · simp only [find?, if_neg hk] at h
        exact List.mem_cons_of_mem _ (ih h)

theorem find?_eq_none_iff {key : α} {table : Keyed α β} :
    find? key table = none ↔ ∀ pair ∈ table, pair.1 ≠ key := by
  induction table with
  | nil => simp [find?]
  | cons pair rest ih =>
      obtain ⟨k, v⟩ := pair
      by_cases hk : k = key
      · simp [find?, hk]
      · simp [find?, hk, ih]

theorem find?_of_mem {table : Keyed α β} (hunique : Unique table) {key : α} {value : β}
    (h : (key, value) ∈ table) : find? key table = some value := by
  induction table with
  | nil => cases h
  | cons pair rest ih =>
      obtain ⟨k, v⟩ := pair
      obtain ⟨hfirst, hrest⟩ := List.nodup_cons.mp hunique
      rcases List.mem_cons.mp h with heq | hmem
      · cases heq
        simp [find?]
      · have hk : k ≠ key := by
          rintro rfl
          exact hfirst (List.mem_map.mpr ⟨_, hmem, rfl⟩)
        rw [find?, if_neg hk]
        exact ih hrest hmem

theorem erase_of_find?_none {key : α} {table : Keyed α β} (h : find? key table = none) :
    erase key table = table := by
  apply List.filter_eq_self.mpr
  intro pair hmem
  simpa using find?_eq_none_iff.mp h pair hmem

theorem unique_erase {table : Keyed α β} (hunique : Unique table) (key : α) :
    Unique (erase key table) :=
  (List.filter_sublist.map Prod.fst).nodup hunique

omit [DecidableEq α] in
theorem unique_of_perm {first second : Keyed α β} (hperm : first.Perm second) :
    Unique first ↔ Unique second :=
  (hperm.map Prod.fst).nodup_iff

/-- With unique keys the order of the pairs does not matter. -/
theorem find?_of_perm {first second : Keyed α β} (hunique : Unique first)
    (hperm : first.Perm second) (key : α) : find? key second = find? key first := by
  cases hfind : find? key first with
  | none =>
      rw [find?_eq_none_iff] at hfind ⊢
      exact fun pair hmem => hfind pair (hperm.mem_iff.mpr hmem)
  | some value =>
      exact find?_of_mem ((unique_of_perm hperm).mp hunique)
        (hperm.mem_iff.mp (mem_of_find? hfind))

theorem mem_insert {key : α} {value : β} {table : Keyed α β} {pair : α × β}
    (h : pair ∈ insert key value table) : pair = (key, value) ∨ pair ∈ table := by
  induction table with
  | nil => exact .inl (List.mem_singleton.mp h)
  | cons first rest ih =>
      unfold insert at h
      split at h
      · rcases List.mem_cons.mp h with heq | hrest
        · exact .inl heq
        · exact .inr (List.mem_cons_of_mem _ hrest)
      · rcases List.mem_cons.mp h with rfl | hrest
        · exact .inr List.mem_cons_self
        · exact (ih hrest).imp_right (List.mem_cons_of_mem _)

/-- With unique keys, inserting replaces the pair of the key. -/
theorem insert_perm {table : Keyed α β} (hunique : Unique table) (key : α) (value : β) :
    (insert key value table).Perm ((key, value) :: erase key table) := by
  induction table with
  | nil => exact .refl _
  | cons pair rest ih =>
      obtain ⟨k, v⟩ := pair
      obtain ⟨hfirst, hrest⟩ := List.nodup_cons.mp hunique
      by_cases hk : k = key
      · subst hk
        have hnone : find? k rest = none := find?_eq_none_iff.mpr fun pair hmem heq =>
          hfirst (List.mem_map.mpr ⟨pair, hmem, heq⟩)
        have herase : erase k ((k, v) :: rest) = erase k rest := by simp [erase]
        rw [herase, erase_of_find?_none hnone, insert, if_pos rfl]
      · have herase : erase key ((k, v) :: rest) = (k, v) :: erase key rest := by
          simp [erase, hk]
        rw [herase, insert, if_neg hk]
        exact ((ih hrest).cons (k, v)).trans (.swap _ _ _)

/-- Inserting what is there changes nothing. -/
theorem insert_of_find? {key : α} {value : β} {table : Keyed α β}
    (h : find? key table = some value) : insert key value table = table := by
  induction table with
  | nil => cases h
  | cons pair rest ih =>
      obtain ⟨k, v⟩ := pair
      by_cases hk : k = key
      · subst hk
        simp only [find?, if_true, Option.some.injEq] at h
        rw [insert, if_pos rfl, h]
      · simp only [find?, if_neg hk] at h
        rw [insert, if_neg hk, ih h]

/-- With unique keys, a table is the pair of one of its keys and the rest. -/
theorem perm_cons_erase {table : Keyed α β} (hunique : Unique table) {key : α} {value : β}
    (h : find? key table = some value) : table.Perm ((key, value) :: erase key table) := by
  have hperm := insert_perm hunique key value
  rwa [insert_of_find? h] at hperm

theorem unique_insert {table : Keyed α β} (hunique : Unique table) (key : α) (value : β) :
    Unique (insert key value table) := by
  rw [unique_of_perm (insert_perm hunique key value)]
  refine List.nodup_cons.mpr ⟨?_, unique_erase hunique key⟩
  simp [erase]

/-! ## Mapping the values -/

section MapValues

variable {γ : Type} (f : β → γ) (key : α) (table : Keyed α β)

theorem find?_mapValues :
    find? key (table.map fun e => (e.1, f e.2)) = (find? key table).map f := by
  induction table with
  | nil => rfl
  | cons pair rest ih =>
      simp only [List.map_cons, find?, ih]
      split <;> rfl

theorem insert_mapValues (value : β) :
    insert key (f value) (table.map fun e => (e.1, f e.2)) =
      (insert key value table).map fun e => (e.1, f e.2) := by
  induction table with
  | nil => rfl
  | cons pair rest ih =>
      simp only [List.map_cons, insert, ih]
      split <;> rfl

theorem erase_mapValues :
    erase key (table.map fun e => (e.1, f e.2)) =
      (erase key table).map fun e => (e.1, f e.2) := by
  simp [erase, List.filter_map, Function.comp_def]

end MapValues

end Keyed

end ScreenPointer
