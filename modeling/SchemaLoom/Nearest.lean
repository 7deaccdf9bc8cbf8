/-!
# Rounding to nearest

Division rounded to the nearest whole number and numbers cut to the precision of a double, with
a half going to the even neighbour.
-/
namespace SchemaLoom.Nearest

/-- The whole number nearest to `n / unit`. -/
def quotient (n unit : Nat) : Nat :=
  let floor := n / unit
  let twice := 2 * (n % unit)
  if unit < twice ∨ (unit = twice ∧ floor % 2 = 1) then floor + 1 else floor

/-- The significant bits of a double. -/
def precision : Nat := 53

/-- The place of the lowest bit that is kept when `n` is cut to the precision. -/
def lowestKept (n : Nat) : Nat := n.log2 + 1 - precision

/-- The number nearest to `n` that is a multiple of its lowest kept bit. -/
def significant (n : Nat) : Nat :=
  let unit := Nat.pow 2 (lowestKept n)
  quotient n unit * unit

end SchemaLoom.Nearest
