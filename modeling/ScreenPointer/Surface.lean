/-
# The drawing surface

A surface keeps the sprites that are alive, counts what was created, released
and changed, and groups changes into frames: transactions nest, and only the
outermost close publishes a frame.

Sprites sit in slots.  A released sprite frees its slot, the slot freed last is
taken first, and a new slot is opened only when none is free.  Names are never
given twice, so a name outlives its sprite without meaning another one.
-/

import ScreenPointer.Sprite

namespace ScreenPointer

/-- A sprite in its slot.  Its name is never given again; its slot is, as soon as it is free. -/
structure PlacedSprite where
  id : SpriteId
  slot : Nat
  record : SpriteRecord
  deriving DecidableEq

/-- A drawing surface that keeps books.  Besides the sprites that are alive it counts what was
created, released, changed and published so far, and how many transactions are open. -/
structure Surface where
  /-- The sprites that are alive, oldest first. -/
  placed : List PlacedSprite := []
  /-- The free slots, the one freed last in front. -/
  freeSlots : List Nat := []
  created : Nat := 0
  released : Nat := 0
  depth : Nat := 0
  frames : Nat := 0
  mutations : Nat := 0
  /-- Changes made while no transaction was open. -/
  mutationsOutside : Nat := 0
  deriving DecidableEq

namespace Surface

/-- Allocate an invisible sprite. -/
def create (s : Surface) : SpriteId × Surface :=
  let id : SpriteId := ⟨s.created⟩
  let (slot, free) := match s.freeSlots with
    | slot :: rest => (slot, rest)
    | [] => (s.placed.length, [])
  (id, { s with
    placed := s.placed ++ [⟨id, slot, {}⟩]
    freeSlots := free
    created := s.created + 1 })

def find? (s : Surface) (id : SpriteId) : Option PlacedSprite :=
  s.placed.find? fun p => p.id = id

def record? (s : Surface) (id : SpriteId) : Option SpriteRecord := (s.find? id).map (·.record)

/-- Release a sprite; a name that is no longer alive is ignored. -/
def release (s : Surface) (id : SpriteId) : Surface :=
  match s.find? id with
  | none => s
  | some p => { s with
      placed := s.placed.filter fun q => q.id ≠ id
      freeSlots := p.slot :: s.freeSlots
      released := s.released + 1 }

def releaseAll (s : Surface) (ids : List SpriteId) : Surface := ids.foldl release s

/-- Change the record of a sprite.  The change is counted even when the sprite is
gone. -/
def change (s : Surface) (id : SpriteId) (f : SpriteRecord → SpriteRecord) : Surface :=
  { s with
    placed := s.placed.map fun p => if p.id = id then { p with record := f p.record } else p
    mutations := s.mutations + 1
    mutationsOutside := if s.depth = 0 then s.mutationsOutside + 1 else s.mutationsOutside }

def setLayer (s : Surface) (id : SpriteId) (layer : Int) : Surface :=
  s.change id fun r => { r with layer }

def setPosition (s : Surface) (id : SpriteId) (position : Point) : Surface :=
  s.change id fun r => { r with position }

def setAlpha (s : Surface) (id : SpriteId) (alpha : Single) : Surface :=
  s.change id fun r => { r with alpha }

def setVisible (s : Surface) (id : SpriteId) (visible : Bool) : Surface :=
  s.change id fun r => { r with visible }

def setIcon (s : Surface) (id : SpriteId) (icon : Icon) : Surface :=
  s.change id fun r => { r with icon := some icon }

/-- Detach the icon; nothing is drawn until another is set. -/
def clearIcon (s : Surface) (id : SpriteId) : Surface :=
  s.change id fun r => { r with icon := none }

def setDisplay (s : Surface) (id : SpriteId) (display : DisplayId) : Surface :=
  s.change id fun r => { r with display }

def setTransform (s : Surface) (id : SpriteId) (transform : Transform) : Surface :=
  s.change id fun r => { r with transform }

def openTransaction (s : Surface) : Surface := { s with depth := s.depth + 1 }

/-- End the innermost group; the outermost one publishes a frame.  Without an open
transaction nothing happens. -/
def closeTransaction (s : Surface) : Surface :=
  match s.depth with
  | 0 => s
  | 1 => { s with depth := 0, frames := s.frames + 1 }
  | depth + 1 => { s with depth }

def isOpen (s : Surface) : Bool := 0 < s.depth

/-- The sprites that are alive, by slot. -/
def bySlot (s : Surface) : List PlacedSprite := s.placed.mergeSort fun p q => p.slot ≤ q.slot

/-- The record of the first sprite on the pointer layer. -/
def pointer? (s : Surface) : Option SpriteRecord :=
  (s.bySlot.find? fun p => p.record.layer = Layer.pointer).map (·.record)

/-- The records of spot sprites that carry an icon, lowest layer first. -/
def spots (s : Surface) : List SpriteRecord :=
  ((s.bySlot.map (·.record)).filter fun r => r.isSpot && r.icon.isSome).mergeSort
    fun a b => a.layer ≤ b.layer

end Surface

end ScreenPointer
