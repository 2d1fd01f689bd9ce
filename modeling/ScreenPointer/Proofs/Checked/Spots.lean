/-
# Spots by index

The operations on spots, step by step and with every index checked: which position is
searched for, which element is fetched, replaced or removed, and how often a loop goes
round.  An index past the end and a loop that is not over after the rounds it was given
are faults.  From pools in order there are none, and the results are those of the
operations on lists.
-/

import ScreenPointer.Proofs.Spots.Pool

namespace ScreenPointer

/-- Why a computation could not go on. -/
inductive Fault
  /-- An index past the end of a list. -/
  | outOfRange
  /-- A division by zero, or its remainder. -/
  | zeroDivisor
  /-- A loop was not over after the rounds it was given. -/
  | outOfRounds
  deriving DecidableEq, Repr

/-- A computation that checks what it relies on. -/
abbrev Checked (α : Type) := Except Fault α

namespace Checked

variable {α β : Type}

def item (xs : List α) (i : Nat) : Checked α :=
  if h : i < xs.length then .ok xs[i] else .error .outOfRange

def remove (xs : List α) (i : Nat) : Checked (α × List α) :=
  if h : i < xs.length then .ok (xs[i], xs.eraseIdx i) else .error .outOfRange

def quotient (a b : Int) : Checked Int := if b = 0 then .error .zeroDivisor else .ok (a.tdiv b)

def remainder (a b : Nat) : Checked Nat := if b = 0 then .error .zeroDivisor else .ok (a % b)

theorem item_eq {xs : List α} {i : Nat} {x : α} (h : xs[i]? = some x) : item xs i = .ok x := by
  obtain ⟨hi, rfl⟩ := List.getElem?_eq_some_iff.mp h
  exact dif_pos hi

theorem remove_eq {xs : List α} {i : Nat} {x : α} (h : xs[i]? = some x) :
    remove xs i = .ok (x, xs.eraseIdx i) := by
  obtain ⟨hi, rfl⟩ := List.getElem?_eq_some_iff.mp h
  exact dif_pos hi

/-- On what is not negative all quotients agree. -/
theorem quotient_eq {a b : Int} (ha : 0 ≤ a) (hb : 0 < b) : quotient a b = .ok (a / b) := by
  rw [quotient, if_neg (Int.ne_of_gt hb), Int.tdiv_eq_ediv_of_nonneg ha]

theorem remainder_eq {a b : Nat} (hb : 0 < b) : remainder a b = .ok (a % b) :=
  if_neg (Nat.ne_of_gt hb)

/-- A computation without a fault hands on its result. -/
theorem bind_eq {x : Checked α} {a : α} (h : x = .ok a) (f : α → Checked β) :
    (x >>= f) = f a := by
  rw [h]
  rfl

/-! ## The operations -/

/-- Displace spots until there is room: the first fading one, or the first of all. -/
def evict (capacity : Nat) : Nat → List Spot → SpriteStock → Checked (List Spot × SpriteStock)
  | 0, spots, stock => if spots.length < capacity then .ok (spots, stock) else .error .outOfRounds
  | rounds + 1, spots, stock =>
    if spots.length < capacity then .ok (spots, stock)
    else do
      let (victim, others) ← remove spots ((spots.findIdx? Spot.isFading).getD 0)
      evict capacity rounds others (stock.giveBack victim.sprite)

/-- Where the spot of a contact stands; at the end after it was made. -/
def locate (rounds : Nat) (pool : SpotPool) (contact : ContactId) (spots : List Spot)
    (stock : SpriteStock) : Checked (Nat × List Spot × SpriteStock) :=
  match spots.findIdx? (·.follows contact) with
  | some index => .ok (index, spots, stock)
  | none => do
    let (spots, stock) ← evict pool.maxSpots rounds spots stock
    let (sprite, stock) := stock.take
    let spots := spots ++ [.new contact sprite]
    .ok (spots.length - 1, spots, stock)

def showContact (rounds : Nat) (pool : SpotPool) (icons : SpotIcons) (display : DisplayId)
    (contact : Contact) (spots : List Spot) (stock : SpriteStock) :
    Checked (List Spot × SpriteStock) := do
  let (index, spots, stock) ← locate rounds pool contact.id spots stock
  let spot ← item spots index
  let (moved, surface) := SpotPool.moveSpot pool.scale icons display contact spot stock.surface
  .ok (spots.set index moved, { stock with surface })

def showContacts (rounds : Nat) (pool : SpotPool) (icons : SpotIcons) (display : DisplayId) :
    List Contact → List Spot → SpriteStock → Checked (List Spot × SpriteStock)
  | [], spots, stock => .ok (spots, stock)
  | contact :: rest, spots, stock => do
    let (spots, stock) ← showContact rounds pool icons display contact spots stock
    showContacts rounds pool icons display rest spots stock

def update (rounds : Nat) (pool : SpotPool) (contacts : List Contact) (display : DisplayId)
    (icons : SpotIcons) (surface : Surface) : Checked (Bool × SpotPool × Surface) := do
  let (shown, stock) ←
    showContacts rounds pool icons display contacts (pool.spots display) (pool.stock surface)
  let started := shown.any (SpotPool.isLifted contacts)
  let pool := pool.setSpots display (shown.map (SpotPool.fadeIfLifted contacts))
  .ok (started, { pool with recycled := stock.spare }, stock.surface)

/-- Lower the opacity of the fading spots from an index on.  When a spot goes, the next one
comes to stand at its index. -/
def dim (delta : Single) : Nat → Nat → List Spot → SpriteStock →
    Checked (List Spot × SpriteStock)
  | 0, index, spots, stock =>
    if index < spots.length then .error .outOfRounds else .ok (spots, stock)
  | rounds + 1, index, spots, stock =>
    if index < spots.length then do
      let spot ← item spots index
      if spot.isFading then
        let alpha := spot.alpha - delta
        let spots := spots.set index { spot with alpha }
        if alpha.atMost 0 then
          let (gone, others) ← remove spots index
          dim delta rounds index others (stock.giveBack gone.sprite)
        else
          dim delta rounds (index + 1) spots (stock.onSurface (·.setAlpha spot.sprite alpha))
      else
        dim delta rounds (index + 1) spots stock
    else .ok (spots, stock)

def dimDisplays (rounds : Nat) (delta : Single) : Keyed DisplayId (List Spot) → SpriteStock →
    Checked (Keyed DisplayId (List Spot) × SpriteStock)
  | [], stock => .ok ([], stock)
  | (display, spots) :: rest, stock => do
    let (left, stock) ← dim delta rounds 0 spots stock
    let (others, stock) ← dimDisplays rounds delta rest stock
    .ok (if left.isEmpty then others else (display, left) :: others, stock)

def advanceFades (rounds : Nat) (pool : SpotPool) (delta : Single) (surface : Surface) :
    Checked (Bool × SpotPool × Surface) := do
  let (byDisplay, stock) ← dimDisplays rounds delta pool.byDisplay (pool.stock surface)
  let fading := byDisplay.any fun (_, spots) => spots.any Spot.isFading
  .ok (fading, { pool with byDisplay, recycled := stock.spare }, stock.surface)

/-! ## Displacing -/

theorem takeFading_index {spots others : List Spot} {victim : Spot}
    (h : SpotPool.takeFading spots = some (victim, others)) :
    ∃ i, spots.findIdx? Spot.isFading = some i ∧ spots[i]? = some victim ∧
      spots.eraseIdx i = others := by
  induction spots generalizing others with
  | nil => cases h
  | cons s rest ih =>
      unfold SpotPool.takeFading at h
      split at h
      · rename_i hfading
        cases h
        exact ⟨0, by simp [List.findIdx?_cons, hfading], rfl, rfl⟩
      · rename_i hactive
        obtain ⟨⟨v, kept⟩, hrest, heq⟩ := Option.map_eq_some_iff.mp h
        cases heq
        obtain ⟨i, hfind, hitem, herase⟩ := ih hrest
        refine ⟨i + 1, by simp [List.findIdx?_cons, hactive, hfind], hitem, ?_⟩
        rw [List.eraseIdx_cons_succ, herase]

/-- The index of the spot to displace is in range. -/
theorem remove_victim {spots others : List Spot} {victim : Spot}
    (h : SpotPool.takeVictim spots = some (victim, others)) :
    remove spots ((spots.findIdx? Spot.isFading).getD 0) = .ok (victim, others) := by
  unfold SpotPool.takeVictim at h
  split at h
  · rename_i found hfound
    cases h
    obtain ⟨i, hfind, hitem, rfl⟩ := takeFading_index hfound
    rw [hfind]
    exact remove_eq hitem
  · rename_i oldest rest hnone
    cases h
    have hfind : (victim :: others).findIdx? Spot.isFading = none :=
      List.findIdx?_eq_none_iff.mpr (SpotPool.takeFading_eq_none hnone)
    rw [hfind]
    rfl
  · cases h

/-- Displacing ends when at least one spot is allowed: every round displaces one. -/
theorem evict_eq {capacity : Nat} (hpositive : 1 ≤ capacity) (rounds : Nat) :
    ∀ {spots : List Spot} {stock : SpriteStock}, spots.length ≤ rounds →
      evict capacity rounds spots stock =
        .ok (SpotPool.makeRoom capacity spots.length spots stock) := by
  induction rounds with
  | zero =>
      intro spots stock hrounds
      have hroom : spots.length < capacity := by omega
      rw [evict, if_pos hroom, SpotPool.makeRoom_of_room stock hroom]
  | succ rounds ih =>
      intro spots stock hrounds
      by_cases hroom : spots.length < capacity
      · rw [evict, if_pos hroom, SpotPool.makeRoom_of_room stock hroom]
      · have hsome : 0 < spots.length := by omega
        obtain ⟨victim, others, hvictim⟩ := SpotPool.exists_takeVictim hsome
        have hcount := (SpotPool.takeVictim_perm hvictim).length_eq
        rw [List.length_cons] at hcount
        rw [evict, if_neg hroom, bind_eq (remove_victim hvictim)]
        dsimp only
        rw [ih (by omega), hcount, SpotPool.makeRoom, if_neg (hcount ▸ hroom), hvictim]

/-! ## Showing -/

section

variable {rounds : Nat} {pool : SpotPool} {icons : SpotIcons} {display : DisplayId}
  {contact : Contact}

/-- The spot that is moved stands where the search has found it. -/
theorem moveFollower_index (scale : Single) (icons : SpotIcons) (display : DisplayId)
    (surface : Surface) {spots : List Spot} {i : Nat}
    (h : spots.findIdx? (·.follows contact.id) = some i) :
    ∃ spot, spots[i]? = some spot ∧
      SpotPool.moveFollower scale icons display contact spots surface =
        some (spots.set i (SpotPool.moveSpot scale icons display contact spot surface).1,
          (SpotPool.moveSpot scale icons display contact spot surface).2) := by
  induction spots generalizing i with
  | nil => cases h
  | cons s rest ih =>
      rw [List.findIdx?_cons] at h
      unfold SpotPool.moveFollower
      split at h
      · rename_i hfollows
        cases h
        rw [if_pos hfollows]
        exact ⟨s, rfl, rfl⟩
      · rename_i hother
        obtain ⟨j, hj, rfl⟩ := Option.map_eq_some_iff.mp h
        obtain ⟨spot, hspot, hmove⟩ := ih hj
        rw [if_neg hother, hmove]
        exact ⟨spot, hspot, rfl⟩

theorem moveFollower_of_findIdx?_eq_none (scale : Single) (icons : SpotIcons)
    (display : DisplayId) (surface : Surface) {spots : List Spot}
    (h : spots.findIdx? (·.follows contact.id) = none) :
    SpotPool.moveFollower scale icons display contact spots surface = none := by
  induction spots with
  | nil => rfl
  | cons s rest ih =>
      rw [List.findIdx?_cons] at h
      unfold SpotPool.moveFollower
      split at h
      · cases h
      · rename_i hother
        rw [if_neg hother, ih (Option.map_eq_none_iff.mp h)]
        rfl

/-- A contact is shown without a fault, and as before. -/
theorem showContact_eq (hpositive : 1 ≤ pool.maxSpots) {spots : List Spot} {stock : SpriteStock}
    (hrounds : spots.length ≤ rounds) :
    showContact rounds pool icons display contact spots stock =
      .ok (pool.showContact icons display contact spots stock) := by
  cases hfind : spots.findIdx? (·.follows contact.id) with
  | some i =>
      obtain ⟨spot, hspot, hmove⟩ := moveFollower_index pool.scale icons display stock.surface hfind
      have hlocate : locate rounds pool contact.id spots stock = .ok (i, spots, stock) := by
        rw [locate, hfind]
      rw [showContact, bind_eq hlocate]
      dsimp only
      rw [bind_eq (item_eq hspot), SpotPool.showContact, hmove]
  | none =>
      have hmove := moveFollower_of_findIdx?_eq_none pool.scale icons display stock.surface hfind
      let made := SpotPool.makeRoom pool.maxSpots spots.length spots stock
      let new := Spot.new contact.id made.2.take.1
      have hlocate : locate rounds pool contact.id spots stock =
          .ok (made.1.length, made.1 ++ [new], made.2.take.2) := by
        rw [locate, hfind]
        dsimp only
        rw [bind_eq (evict_eq hpositive rounds hrounds)]
        simp [made, new]
      have hlast : (made.1 ++ [new])[made.1.length]? = some new := by simp
      rw [showContact, bind_eq hlocate]
      dsimp only
      rw [bind_eq (item_eq hlast), SpotPool.showContact, hmove]
      simp [made, new]

theorem showContacts_eq (hpositive : 1 ≤ pool.maxSpots) (hrounds : pool.maxSpots ≤ rounds)
    (contacts : List Contact) : ∀ {spots : List Spot} {stock : SpriteStock},
      SpotPool.Roster pool.maxSpots spots →
      showContacts rounds pool icons display contacts spots stock =
        .ok (pool.showContacts icons display contacts spots stock) := by
  induction contacts with
  | nil => exact fun _ => rfl
  | cons contact rest ih =>
      intro spots stock hroster
      have harrival : SpotPool.Arrival pool.maxSpots contact spots
          (pool.showContact icons display contact spots stock).1 :=
        SpotPool.showContact_arrival hpositive hroster.length
      have hone : showContact rounds pool icons display contact spots stock =
          .ok (pool.showContact icons display contact spots stock) :=
        showContact_eq hpositive (Nat.le_trans hroster.length hrounds)
      rw [showContacts, bind_eq hone]
      exact ih (harrival.roster hroster)

theorem update_eq (hpositive : 1 ≤ pool.maxSpots) (hrounds : pool.maxSpots ≤ rounds)
    (hrosters : ∀ e ∈ pool.byDisplay, SpotPool.Roster pool.maxSpots e.2)
    (contacts : List Contact) (surface : Surface) :
    update rounds pool contacts display icons surface =
      .ok (pool.update contacts display icons surface) := by
  have hroster := SpotPool.roster_of_rosters hrosters display
  rw [update, bind_eq (showContacts_eq hpositive hrounds contacts hroster)]
  rfl

end

/-! ## Fading -/

/-- Going over a list by index, and staying where a spot was removed, is going over the rest
of it; every round either removes a spot or leaves one behind. -/
theorem dim_eq (delta : Single) (rest : List Spot) :
    ∀ {rounds : Nat} (before : List Spot) {stock : SpriteStock}, rest.length ≤ rounds →
      dim delta rounds before.length (before ++ rest) stock =
        .ok (before ++ (SpotPool.dimSpots delta rest stock).1,
          (SpotPool.dimSpots delta rest stock).2) := by
  induction rest with
  | nil =>
      intro rounds before stock _
      cases rounds <;> simp [dim, SpotPool.dimSpots]
  | cons s rest ih =>
      intro rounds before stock hrounds
      obtain ⟨rounds, rfl⟩ := Nat.exists_eq_add_one_of_ne_zero
        (Nat.ne_of_gt (Nat.lt_of_lt_of_le (Nat.succ_pos rest.length) hrounds))
      have hlater : rest.length ≤ rounds := Nat.le_of_succ_le_succ hrounds
      have hinside : before.length < (before ++ s :: rest).length := by simp
      have hitem : (before ++ s :: rest)[before.length]? = some s := by simp
      rw [dim, if_pos hinside, bind_eq (item_eq hitem), SpotPool.dimSpots]
      -- Leaving a spot behind is going on with one more before the index.
      have hstay : ∀ (s' : Spot) (stock : SpriteStock),
          dim delta rounds (before.length + 1) (before ++ s' :: rest) stock =
            .ok (before ++ s' :: (SpotPool.dimSpots delta rest stock).1,
              (SpotPool.dimSpots delta rest stock).2) := by
        intro s' stock
        simpa only [List.length_append, List.length_singleton, List.append_assoc,
          List.singleton_append] using ih (before ++ [s']) hlater
      cases hfading : s.isFading with
      | false =>
          simp only [Bool.false_eq_true, if_false]
          exact hstay s stock
      | true =>
          simp only [if_true]
          have hset : (before ++ s :: rest).set before.length { s with alpha := s.alpha - delta } =
              before ++ { s with alpha := s.alpha - delta } :: rest := by
            rw [List.set_append_right _ _ (Nat.le_refl _), Nat.sub_self]
            rfl
          rw [hset]
          cases hgone : (s.alpha - delta).atMost 0 with
          | false =>
              simp only [Bool.false_eq_true, if_false]
              exact hstay _ _
          | true =>
              simp only [if_true]
              have hitem' : (before ++ { s with alpha := s.alpha - delta } :: rest)[before.length]? =
                  some { s with alpha := s.alpha - delta } := by simp
              have herase : (before ++ { s with alpha := s.alpha - delta } :: rest).eraseIdx
                  before.length = before ++ rest := by
                rw [List.eraseIdx_append_of_length_le (Nat.le_refl _), Nat.sub_self]
                rfl
              rw [bind_eq (remove_eq hitem'), herase]
              exact ih before hlater

theorem dimDisplays_eq {rounds capacity : Nat} (delta : Single) (hrounds : capacity ≤ rounds)
    (table : Keyed DisplayId (List Spot)) : ∀ {stock : SpriteStock},
      (∀ e ∈ table, SpotPool.Roster capacity e.2) →
      dimDisplays rounds delta table stock = .ok (SpotPool.dimDisplays delta table stock) := by
  induction table with
  | nil => exact fun _ => rfl
  | cons e rest ih =>
      intro stock hrosters
      obtain ⟨hfirst, hrest⟩ := List.forall_mem_cons.mp hrosters
      have hdim : dim delta rounds 0 e.2 stock = .ok (SpotPool.dimSpots delta e.2 stock) :=
        dim_eq delta e.2 [] (Nat.le_trans hfirst.length hrounds)
      rw [dimDisplays, bind_eq hdim]
      dsimp only
      rw [bind_eq (ih hrest)]
      rfl

theorem advanceFades_eq {rounds : Nat} {pool : SpotPool} (hrounds : pool.maxSpots ≤ rounds)
    (hrosters : ∀ e ∈ pool.byDisplay, SpotPool.Roster pool.maxSpots e.2) (delta : Single)
    (surface : Surface) :
    advanceFades rounds pool delta surface = .ok (pool.advanceFades delta surface) := by
  rw [advanceFades, bind_eq (dimDisplays_eq delta hrounds pool.byDisplay hrosters)]
  rfl

end Checked

end ScreenPointer
