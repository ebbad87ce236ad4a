/-!
# Powers

The powers that numbers are written with: of two for their bits, of ten for their digits.
-/

namespace VisualNovel.Number

/-- A power of two. -/
def twoTo (n : Nat) : Nat :=
  Nat.pow 2 n

/-- A power of ten. -/
def tenTo (n : Nat) : Nat :=
  Nat.pow 10 n

end VisualNovel.Number
