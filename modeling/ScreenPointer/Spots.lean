/-
# Touch spots

Each display has a list of spots, oldest first.  A spot is active while its
contact is down and fading afterwards; a fading spot goes when its opacity has
reached zero.  A display holds a limited number of spots: a new one displaces
the oldest fading spot, or the oldest spot of all if none is fading.
-/

import ScreenPointer.Fade
import ScreenPointer.Icon.Catalogue
import ScreenPointer.Surface.Stock
import ScreenPointer.Touch

namespace ScreenPointer

/-- A spot follows a contact while that is down.  After that it fades, and the contact is forgotten:
if it comes back it has a new spot. -/
inductive SpotPhase
  | active (contact : ContactId)
  | fading
  deriving DecidableEq, Repr

/-- Which of the spot icons a spot shows. -/
inductive SpotKind
  | hover | touch
  deriving DecidableEq, Repr

namespace SpotKind

/-- A contact with pressure touches, one without hovers. -/
def ofContact (c : Contact) : SpotKind := if c.isPressed then touch else hover

def icon (icons : SpotIcons) : SpotKind → Icon
  | hover => icons.hover
  | touch => icons.touch

end SpotKind

/-- A spot and the sprite that draws it. -/
structure Spot where
  phase : SpotPhase
  position : Point
  alpha : Single
  /-- The icon last put on the sprite for this spot. -/
  shown : Option SpotKind
  sprite : SpriteId
  deriving DecidableEq

namespace Spot

/-- A new spot of a contact; nothing is drawn yet. -/
def new (contact : ContactId) (sprite : SpriteId) : Spot :=
  ⟨.active contact, .origin, 1, none, sprite⟩

def isFading (s : Spot) : Bool := s.phase = .fading

def follows (s : Spot) (contact : ContactId) : Bool := s.phase = .active contact

/-- The layer of a contact's spot: the higher the number the higher the layer, but
always below the pointer. -/
def layer (contact : ContactId) : Int :=
  Layer.spot + min (contact.number : Int) (Layer.pointer - Layer.spot - 1)

end Spot

/-- The spots of all displays, and the sprites that are kept for later ones.  A display without
spots is not listed. -/
structure SpotPool where
  /-- The spots of each display that has any. -/
  byDisplay : Keyed DisplayId (List Spot)
  /-- Spare sprites, the one to use next in front. -/
  recycled : List SpriteId
  maxSpots : Nat
  maxRecycled : Nat
  scale : Single
  deriving DecidableEq

namespace SpotPool

/-- No spots yet.  At least one spot is always allowed. -/
def new (maxSpots maxRecycled : Nat) (scale : Single) : SpotPool :=
  ⟨[], [], max maxSpots 1, maxRecycled, scale⟩

/-- The spots of a display, oldest first. -/
def spots (pool : SpotPool) (display : DisplayId) : List Spot :=
  (pool.byDisplay.find? display).getD []

/-- The surface with the pool's spare sprites. -/
def stock (pool : SpotPool) (surface : Surface) : SpriteStock :=
  ⟨surface, pool.recycled, pool.maxRecycled⟩

/-- Replace the spots of a display; a display without spots is forgotten. -/
def setSpots (pool : SpotPool) (display : DisplayId) (spots : List Spot) : SpotPool :=
  { pool with byDisplay :=
      if spots.isEmpty then pool.byDisplay.erase display
      else pool.byDisplay.insert display spots }

/-- The oldest fading spot, and the others in order. -/
def takeFading : List Spot → Option (Spot × List Spot)
  | [] => none
  | s :: rest =>
    if s.isFading then some (s, rest)
    else (takeFading rest).map fun (victim, others) => (victim, s :: others)

/-- The spot to displace, and the others in order. -/
def takeVictim (spots : List Spot) : Option (Spot × List Spot) :=
  match takeFading spots, spots with
  | some found, _ => some found
  | none, oldest :: rest => some (oldest, rest)
  | none, [] => none

/-- Displace spots until there is room for one more, in at most the given number
of rounds. -/
def makeRoom (capacity : Nat) : Nat → List Spot → SpriteStock → List Spot × SpriteStock
  | 0, spots, stock => (spots, stock)
  | rounds + 1, spots, stock =>
    if spots.length < capacity then (spots, stock)
    else
      match takeVictim spots with
      | none => (spots, stock)
      | some (victim, others) => makeRoom capacity rounds others (stock.giveBack victim.sprite)

/-- Move a spot to its contact and write its sprite; the icon is written only when
it changes. -/
def moveSpot (scale : Single) (icons : SpotIcons) (display : DisplayId) (contact : Contact)
    (spot : Spot) (surface : Surface) : Spot × Surface :=
  let kind := SpotKind.ofContact contact
  let surface := surface
    |>.setLayer spot.sprite (Spot.layer contact.id)
    |>.setAlpha spot.sprite spot.alpha
    |>.setTransform spot.sprite (.scale scale)
    |>.setPosition spot.sprite contact.position
    |>.setDisplay spot.sprite display
  let moved := { spot with position := contact.position, shown := some kind }
  if spot.shown = some kind then (moved, surface)
  else (moved, (surface.setIcon spot.sprite (kind.icon icons)).setVisible spot.sprite true)

/-- Move the first spot that follows the contact, if there is one. -/
def moveFollower (scale : Single) (icons : SpotIcons) (display : DisplayId) (contact : Contact) :
    List Spot → Surface → Option (List Spot × Surface)
  | [], _ => none
  | s :: rest, surface =>
    if s.follows contact.id then
      let (moved, surface) := moveSpot scale icons display contact s surface
      some (moved :: rest, surface)
    else
      (moveFollower scale icons display contact rest surface).map
        fun (others, surface) => (s :: others, surface)

/-- Show one contact: move its spot, or make one, displacing others if need be. -/
def showContact (pool : SpotPool) (icons : SpotIcons) (display : DisplayId) (contact : Contact)
    (spots : List Spot) (stock : SpriteStock) : List Spot × SpriteStock :=
  match moveFollower pool.scale icons display contact spots stock.surface with
  | some (spots, surface) => (spots, { stock with surface })
  | none =>
    let (spots, stock) := makeRoom pool.maxSpots spots.length spots stock
    let (sprite, stock) := stock.take
    let (spot, surface) :=
      moveSpot pool.scale icons display contact (.new contact.id sprite) stock.surface
    (spots ++ [spot], { stock with surface })

def showContacts (pool : SpotPool) (icons : SpotIcons) (display : DisplayId) :
    List Contact → List Spot → SpriteStock → List Spot × SpriteStock
  | [], spots, stock => (spots, stock)
  | contact :: rest, spots, stock =>
    let (spots, stock) := pool.showContact icons display contact spots stock
    showContacts pool icons display rest spots stock

def isLifted (contacts : List Contact) (s : Spot) : Bool :=
  match s.phase with
  | .active id => !contacts.any fun c => c.id = id
  | .fading => false

def fadeIfLifted (contacts : List Contact) (s : Spot) : Spot :=
  if isLifted contacts s then { s with phase := .fading } else s

/-- Show the contacts of a display and let all its other spots fade.  Tells
whether a spot started to. -/
def update (pool : SpotPool) (contacts : List Contact) (display : DisplayId) (icons : SpotIcons)
    (surface : Surface) : Bool × SpotPool × Surface :=
  let (shown, stock) :=
    pool.showContacts icons display contacts (pool.spots display) (pool.stock surface)
  let started := shown.any (isLifted contacts)
  let pool := pool.setSpots display (shown.map (fadeIfLifted contacts))
  (started, { pool with recycled := stock.spare }, stock.surface)

/-- Let every spot of every display fade.  Tells whether a spot started to. -/
def fadeAll (pool : SpotPool) : Bool × SpotPool :=
  let started := pool.byDisplay.any fun (_, spots) => spots.any fun s => !s.isFading
  let faded := pool.byDisplay.map fun (display, spots) =>
    (display, spots.map fun s => { s with phase := .fading })
  (started, { pool with byDisplay := faded })

/-- Lower the opacity of the fading spots in a list.  Spots without opacity left
go, and their sprites go back to the stock. -/
def dimSpots (delta : Single) : List Spot → SpriteStock → List Spot × SpriteStock
  | [], stock => ([], stock)
  | s :: rest, stock =>
    if s.isFading then
      let alpha := s.alpha - delta
      if alpha.atMost 0 then dimSpots delta rest (stock.giveBack s.sprite)
      else
        let stock := stock.onSurface (·.setAlpha s.sprite alpha)
        let (others, stock) := dimSpots delta rest stock
        ({ s with alpha } :: others, stock)
    else
      let (others, stock) := dimSpots delta rest stock
      (s :: others, stock)

/-- Lower the opacity of the fading spots of every display; a display without spots
left is forgotten. -/
def dimDisplays (delta : Single) :
    Keyed DisplayId (List Spot) → SpriteStock → Keyed DisplayId (List Spot) × SpriteStock
  | [], stock => ([], stock)
  | (display, spots) :: rest, stock =>
    let (left, stock) := dimSpots delta spots stock
    let (others, stock) := dimDisplays delta rest stock
    (if left.isEmpty then others else (display, left) :: others, stock)

/-- One step of fading for all spots.  Tells whether a spot is still fading. -/
def advanceFades (pool : SpotPool) (delta : Single) (surface : Surface) :
    Bool × SpotPool × Surface :=
  let (byDisplay, stock) := dimDisplays delta pool.byDisplay (pool.stock surface)
  let fading := byDisplay.any fun (_, spots) => spots.any Spot.isFading
  (fading, { pool with byDisplay, recycled := stock.spare }, stock.surface)

/-- Every sprite the pool owns, in the order in which they are given up: those of spots,
and then the spare ones, of which the one kept longest goes first. -/
def sprites (pool : SpotPool) : List SpriteId :=
  (pool.byDisplay.flatMap fun (_, spots) => spots.map (·.sprite)) ++ pool.recycled.reverse

/-- Give up all spots and spare sprites. -/
def releaseAll (pool : SpotPool) (surface : Surface) : SpotPool × Surface :=
  ({ pool with byDisplay := [], recycled := [] }, surface.releaseAll pool.sprites)

end SpotPool

end ScreenPointer
