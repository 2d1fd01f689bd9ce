/-
# Touch contacts

One contact per finger or stylus tip that a touch surface currently reports.
-/

import ScreenPointer.Display

namespace ScreenPointer

structure ContactId where
  number : Nat
  deriving DecidableEq, Repr

structure Contact where
  id : ContactId
  position : Point
  pressure : Single
  deriving DecidableEq

namespace Contact

/-- Hovering contacts have no pressure. -/
def isPressed (c : Contact) : Bool := (0 : Single).less c.pressure

end Contact

end ScreenPointer
