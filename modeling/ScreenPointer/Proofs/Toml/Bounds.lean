/-
# Integers in documents

However a document writes its integers, in which base and how deep within arrays
and tables, reading refuses those out of range.  So every integer in the entries
of a document is in range.
-/

import ScreenPointer.Proofs.Keyed
import ScreenPointer.Proofs.Toml.Reading
import ScreenPointer.Toml.Document

namespace ScreenPointer.Toml

/-! ## What readers give -/

namespace Reader

variable {α β : Type} {P : α → Prop} {Q : β → Prop}

/-- Everything that a reader gives has a property. -/
def Gives (r : Reader α) (P : α → Prop) : Prop := ∀ cs a rest, r cs = some (a, rest) → P a

theorem gives_pure {a : α} (h : P a) : Gives (pure a) P := by
  intro cs b rest hread
  cases hread
  exact h

theorem gives_failure : Gives failure P := by
  intro cs a rest hread
  cases hread

theorem Gives.bind {r : Reader α} {next : α → Reader β} (h : Gives r P)
    (hnext : ∀ a, P a → Gives (next a) Q) : Gives (r >>= next) Q := by
  intro cs b rest hread
  rw [bind_apply] at hread
  obtain ⟨⟨a, middle⟩, hfirst, hsecond⟩ := Option.bind_eq_some_iff.mp hread
  exact hnext a (h cs a middle hfirst) middle b rest hsecond

/-- What was read before does not matter. -/
theorem gives_bind {r : Reader α} {next : α → Reader β} (hnext : ∀ a, Gives (next a) Q) :
    Gives (r >>= next) Q :=
  Gives.bind (P := fun _ => True) (fun _ _ _ _ => trivial) fun a _ => hnext a

theorem Gives.map {r : Reader α} {g : α → β} (h : Gives r P) (hg : ∀ a, P a → Q (g a)) :
    Gives (g <$> r) Q := by
  intro cs b rest hread
  rw [map_apply] at hread
  obtain ⟨⟨a, middle⟩, hfirst, hsecond⟩ := Option.map_eq_some_iff.mp hread
  cases hsecond
  exact hg a (h cs a _ hfirst)

theorem gives_map {r : Reader α} {g : α → β} (hg : ∀ a, Q (g a)) : Gives (g <$> r) Q :=
  Gives.map (P := fun _ => True) (fun _ _ _ _ => trivial) fun a _ => hg a

theorem Gives.orElse {first second : Reader α} (hfirst : Gives first P) (hsecond : Gives second P) :
    Gives (first <|> second) P := by
  intro cs a rest hread
  rw [orElse_apply] at hread
  rcases Option.or_eq_some_iff.mp hread with hread | ⟨-, hread⟩
  · exact hfirst cs a rest hread
  · exact hsecond cs a rest hread

theorem Gives.optional {r : Reader α} (h : Gives r P) :
    Gives (Reader.optional r) fun found => ∀ a ∈ found, P a :=
  (h.map fun a ha b hb => by cases hb; exact ha).orElse (gives_pure fun a ha => by cases ha)

theorem Gives.upTo {r : Reader α} (h : Gives r P) (count : Nat) :
    Gives (upTo r count) fun found => ∀ a ∈ found, P a := by
  have hnone : Gives (pure []) fun found => ∀ a ∈ found, P a := gives_pure fun a ha => by cases ha
  induction count with
  | zero => exact hnone
  | succ count ih =>
      refine Gives.orElse (h.bind fun first hfirst => ih.bind fun others hothers => ?_) hnone
      exact gives_pure (List.forall_mem_cons.mpr ⟨hfirst, hothers⟩)

theorem Gives.many {r : Reader α} (h : Gives r P) :
    Gives (many r) fun found => ∀ a ∈ found, P a :=
  fun cs => h.upTo cs.length cs

end Reader

open Reader

/-- A chain of changes that may fail keeps what every change keeps. -/
theorem foldlM_keeps {α σ : Type} {P : σ → Prop} {change : σ → α → Option σ} {steps : List α}
    (hstep : ∀ a ∈ steps, ∀ s t, P s → change s a = some t → P t) {s t : σ} (hs : P s)
    (h : steps.foldlM change s = some t) : P t := by
  induction steps generalizing s with
  | nil =>
      cases h
      exact hs
  | cons a steps ih =>
      rw [List.foldlM_cons] at h
      obtain ⟨u, hfirst, hothers⟩ := Option.bind_eq_some_iff.mp h
      exact ih (fun b hb => hstep b (List.mem_cons_of_mem _ hb))
        (hstep a List.mem_cons_self s u hs hfirst) hothers

/-! ## Values -/

/-- Every integer of a value is in range, however deep it is. -/
inductive Value.Bounded : Value → Prop
  | string (s : String) : Bounded (.string s)
  | integer {i : Int} (h : inRange i = true) : Bounded (.integer i)
  | float (x : Double) : Bounded (.float x)
  | boolean (b : Bool) : Bounded (.boolean b)
  | moment (text : String) : Bounded (.moment text)
  | array {items : List Value} (h : ∀ v ∈ items, Bounded v) : Bounded (.array items)
  | table {origin : TableOrigin} {entries : Entries} (h : ∀ entry ∈ entries, Bounded entry.2) :
      Bounded (.table origin entries)
  | tables {elements : List Entries}
      (h : ∀ entries ∈ elements, ∀ entry ∈ entries, Bounded entry.2) : Bounded (.tables elements)

def BoundedEntries (entries : Entries) : Prop := ∀ entry ∈ entries, entry.2.Bounded

theorem boundedEntries_nil : BoundedEntries [] := by
  intro entry hentry
  cases hentry

theorem BoundedEntries.find {entries : Entries} (h : BoundedEntries entries) {key : String}
    {v : Value} (hfind : Keyed.find? key entries = some v) : v.Bounded :=
  h _ (Keyed.mem_of_find? hfind)

namespace Table

def Bounded (t : Table) : Prop := BoundedEntries t.entries

theorem Bounded.put {t : Table} (h : t.Bounded) (key : String) {v : Value} (hv : v.Bounded) :
    (t.put key v).Bounded := by
  intro entry hentry
  rcases Keyed.mem_insert hentry with rfl | hold
  · exact hv
  · exact h entry hold

/-- A change deep within a table keeps bounds if it keeps them there. -/
theorem Bounded.within {byDots : Bool} {change : Table → Option Table}
    (hchange : ∀ s t : Table, s.Bounded → change s = some t → t.Bounded) {path : List String}
    {s t : Table} (hs : s.Bounded) (h : s.within byDots change path = some t) : t.Bounded := by
  induction path generalizing s t with
  | nil => exact hchange s t hs h
  | cons key path ih =>
      unfold Table.within at h
      split at h
      · obtain ⟨child, hchild, rfl⟩ := Option.map_eq_some_iff.mp h
        exact hs.put key (.table (ih (s := ⟨_, []⟩) boundedEntries_nil hchild))
      · rename_i origin entries hfind
        split at h
        · cases h
        · obtain ⟨child, hchild, rfl⟩ := Option.map_eq_some_iff.mp h
          cases hs.find hfind with
          | table hentries =>
              exact hs.put key (.table (ih (s := ⟨origin, entries⟩) hentries hchild))
      · rename_i elements hfind
        split at h
        · cases h
        · rename_i entries hlast
          obtain ⟨child, hchild, rfl⟩ := Option.map_eq_some_iff.mp h
          cases hs.find hfind with
          | tables helements =>
              have hentries := helements entries (List.mem_of_getLast? hlast)
              refine hs.put key (.tables (List.forall_mem_append.mpr
                ⟨fun other hother => helements other (List.dropLast_subset _ hother), ?_⟩))
              exact List.forall_mem_singleton.mpr (ih (s := ⟨.headed, entries⟩) hentries hchild)
      · cases h

theorem Bounded.assign {s t : Table} (hs : s.Bounded) {path : List String} {key : String}
    {v : Value} (hv : v.Bounded) (h : s.assign path key v = some t) : t.Bounded := by
  refine hs.within (fun s t hs h => ?_) h
  split at h
  · cases h
  · split at h
    · cases h
    · cases h
      exact hs.put key hv

theorem Bounded.openTable {s t : Table} (hs : s.Bounded) {path : List String} {key : String}
    (h : s.openTable path key = some t) : t.Bounded := by
  refine hs.within (fun s t hs h => ?_) h
  split at h
  · cases h
    exact hs.put key (.table boundedEntries_nil)
  · rename_i entries hfind
    cases h
    cases hs.find hfind with
    | table hentries => exact hs.put key (.table hentries)
  · cases h

theorem Bounded.openElement {s t : Table} (hs : s.Bounded) {path : List String} {key : String}
    (h : s.openElement path key = some t) : t.Bounded := by
  refine hs.within (fun s t hs h => ?_) h
  split at h
  · cases h
    exact hs.put key (.tables (List.forall_mem_singleton.mpr boundedEntries_nil))
  · rename_i elements hfind
    cases h
    cases hs.find hfind with
    | tables helements =>
        exact hs.put key (.tables (List.forall_mem_append.mpr
          ⟨helements, List.forall_mem_singleton.mpr boundedEntries_nil⟩))
  · cases h

theorem Bounded.assignUnder {s t : Table} (hs : s.Bounded) {header path : List String}
    {key : String} {v : Value} (hv : v.Bounded) (h : s.assignUnder header path key v = some t) :
    t.Bounded :=
  hs.within (fun _ _ hs h => hs.assign hv h) h

end Table

/-! ## Reading -/

theorem integer_gives : integer.Gives fun i => inRange i = true := by
  have hchecked (i : Int) : (if inRange i then pure i else failure : Reader Int).Gives
      fun i => inRange i = true := by
    split
    · rename_i h
      exact gives_pure h
    · exact gives_failure
  have hprefixed (mark : Char) (base : Nat) (p : Char → Bool) :
      (prefixed mark base p).Gives fun i => inRange i = true :=
    gives_bind fun _ => gives_bind fun _ => hchecked _
  exact (hprefixed 'x' 16 _).orElse ((hprefixed 'o' 8 _).orElse ((hprefixed 'b' 2 _).orElse
    (gives_bind fun _ => gives_bind fun _ => hchecked _)))

theorem scalar_gives : scalar.Gives Value.Bounded :=
  Gives.orElse (gives_map .string) <|
  Gives.orElse (gives_map .moment) <|
  Gives.orElse (gives_map .float) <|
  Gives.orElse (integer_gives.map fun _ => .integer) <|
  Gives.orElse (gives_bind fun _ => gives_pure (.boolean true)) <|
  gives_bind fun _ => gives_pure (.boolean false)

theorem arrayOf_gives {element : Reader Value} (h : element.Gives Value.Bounded) :
    (arrayOf element).Gives Value.Bounded := by
  have hpadded : (do gaps; let v ← element; gaps; pure v : Reader Value).Gives Value.Bounded :=
    gives_bind fun _ => h.bind fun v hv => gives_bind fun _ => gives_pure hv
  have hitems : (do
      let first ← (do gaps; let v ← element; gaps; pure v : Reader Value)
      let others ← many (do char ','; (do gaps; let v ← element; gaps; pure v : Reader Value))
      let _ ← Reader.optional (char ',')
      pure (first :: others)).Gives fun items => ∀ v ∈ items, v.Bounded :=
    hpadded.bind fun first hfirst => (Gives.many (gives_bind fun _ => hpadded)).bind
      fun others hothers => gives_bind fun _ =>
        gives_pure (List.forall_mem_cons.mpr ⟨hfirst, hothers⟩)
  refine gives_bind fun _ => hitems.optional.bind fun items hbounded => ?_
  refine gives_bind fun _ => gives_bind fun _ => gives_pure (.array ?_)
  cases items with
  | none => exact fun v hv => by cases hv
  | some items => exact hbounded items rfl

theorem bracedOf_gives {element : Reader Value} (h : element.Gives Value.Bounded) :
    (bracedOf element).Gives Value.Bounded := by
  have hpair : (pair element).Gives fun p => p.2.Bounded :=
    gives_bind fun _ => gives_bind fun _ => gives_bind fun _ => h.bind fun v hv =>
      gives_bind fun _ => gives_pure hv
  have hpairs : (do
      let first ← pair element
      let others ← many (do char ','; pair element)
      pure (first :: others)).Gives fun pairs => ∀ p ∈ pairs, p.2.Bounded :=
    hpair.bind fun first hfirst => (Gives.many (gives_bind fun _ => hpair)).bind
      fun others hothers => gives_pure (List.forall_mem_cons.mpr ⟨hfirst, hothers⟩)
  refine gives_bind fun _ => hpairs.optional.bind fun pairs hbounded => ?_
  refine gives_bind fun _ => gives_bind fun _ => ?_
  have hmember : ∀ p ∈ pairs.getD [], p.2.Bounded := by
    cases pairs with
    | none => exact fun p hp => by cases hp
    | some pairs => exact hbounded pairs rfl
  dsimp only
  split
  · rename_i filled hfilled
    refine gives_pure (.table ?_)
    exact foldlM_keeps (P := Table.Bounded) (s := .empty)
      (fun p hp _ _ hs h => hs.assign (hmember p hp) h) boundedEntries_nil hfilled
  · exact gives_failure

theorem value_gives (depth : Nat) : (value depth).Gives Value.Bounded := by
  induction depth with
  | zero => exact scalar_gives
  | succ depth ih => exact scalar_gives.orElse ((arrayOf_gives ih).orElse (bracedOf_gives ih))

/-! ## Documents -/

def Statement.Bounded : Statement → Prop
  | .assign _ _ v => v.Bounded
  | _ => True

theorem line_gives : line.Gives fun found => ∀ s ∈ found, s.Bounded := by
  have hstatement : (Statement.doubledHeader <|> Statement.header <|> Statement.assignment).Gives
      Statement.Bounded := by
    refine Gives.orElse ?_ (Gives.orElse ?_ ?_)
    · exact gives_bind fun _ => gives_bind fun _ => gives_bind fun _ => gives_bind fun _ =>
        gives_pure trivial
    · exact gives_bind fun _ => gives_bind fun _ => gives_bind fun _ => gives_bind fun _ =>
        gives_pure trivial
    · exact gives_bind fun _ => gives_bind fun _ => gives_bind fun _ =>
        (value_gives nestingLimit).bind fun v hv => gives_bind fun _ => gives_pure hv
  have hnone : Gives (pure none) fun found => ∀ s ∈ found, Statement.Bounded s :=
    gives_pure fun s hs => by cases hs
  refine gives_bind fun _ => Gives.orElse ?_ (Gives.orElse ?_ ?_)
  · exact hstatement.map fun s hs t ht => by cases ht; exact hs
  · exact gives_bind fun _ => hnone
  · exact gives_bind fun _ => gives_bind fun _ => hnone

theorem statements_gives : statements.Gives fun found => ∀ s ∈ found, s.Bounded := by
  refine gives_bind fun _ => line_gives.many.bind fun lines hlines => ?_
  refine gives_bind fun _ => gives_bind fun _ => gives_pure fun s hs => ?_
  obtain ⟨found, hfound, hsome⟩ := List.mem_filterMap.mp hs
  exact hlines found hfound s hsome

theorem Draft.add_bounded {d e : Draft} {s : Statement} (hs : s.Bounded) (hd : d.table.Bounded)
    (h : d.add s = some e) : e.table.Bounded := by
  cases s with
  | table path key =>
      obtain ⟨t, ht, hadd⟩ := Option.bind_eq_some_iff.mp h
      cases hadd
      exact hd.openTable ht
  | element path key =>
      obtain ⟨t, ht, hadd⟩ := Option.bind_eq_some_iff.mp h
      cases hadd
      exact hd.openElement ht
  | assign path key v =>
      obtain ⟨t, ht, hadd⟩ := Option.bind_eq_some_iff.mp h
      cases hadd
      exact hd.assignUnder hs ht

/-- Every integer of a document is in range. -/
theorem boundedEntries_of_document {text : String} {entries : Entries}
    (h : document? text = some entries) : BoundedEntries entries := by
  unfold document? at h
  obtain ⟨⟨found, rest⟩, hread, h⟩ := Option.bind_eq_some_iff.mp h
  obtain ⟨draft, hdraft, h⟩ := Option.bind_eq_some_iff.mp h
  cases h
  have hfound := statements_gives _ _ _ hread
  exact foldlM_keeps (P := fun d : Draft => d.table.Bounded) (s := {})
    (fun s hs _ _ hd h => Draft.add_bounded (hfound s hs) hd h) boundedEntries_nil hdraft

end ScreenPointer.Toml
