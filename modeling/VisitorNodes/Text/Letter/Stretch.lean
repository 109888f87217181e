/-!
# Stretches of code points

The Unicode properties are given as lists of stretches: evenly spaced code points from a first to a
last one. The step is 1 for a full range and 2 where letters of the two cases alternate.
-/

namespace VisitorNodes.Text

/-- The code points `first`, `first + step`, ... up to `last`. -/
structure Stretch where
  first : Nat
  last : Nat
  step : Nat
  deriving Repr, DecidableEq

/-- Whether a code point lies on the stretch. -/
def Stretch.holds (s : Stretch) (n : Nat) : Bool :=
  s.first ≤ n && n ≤ s.last && (n - s.first) % s.step == 0

/-- A stretch of code points and the code point that its first one is mapped to; the others are
mapped at the same distance. -/
structure Shift extends Stretch where
  target : Nat
  deriving Repr, DecidableEq

/-- The code point that `n` is mapped to by the first shift that holds it. -/
def Shift.find? (shifts : List Shift) (n : Nat) : Option Nat :=
  (shifts.find? fun s => s.holds n).map fun s => s.target + (n - s.first)

end VisitorNodes.Text
