/-
# Mouse buttons

A set of pressed buttons as a mask with one binary digit per button.
-/

namespace ScreenPointer

structure Buttons where
  mask : Nat
  deriving DecidableEq, Repr

namespace Buttons

def released : Buttons := ⟨0⟩
def primary : Buttons := ⟨1⟩
def secondary : Buttons := ⟨2⟩
def tertiary : Buttons := ⟨4⟩
def back : Buttons := ⟨8⟩
def forward : Buttons := ⟨16⟩

def union (a b : Buttons) : Buttons := ⟨a.mask ||| b.mask⟩

def contains (a b : Buttons) : Bool := a.mask &&& b.mask == b.mask

end Buttons

end ScreenPointer
