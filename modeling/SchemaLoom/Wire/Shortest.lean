import SchemaLoom.Wire.Double

/-!
# Shortest decimals

The decimal with the fewest digits that is nearer to a double than to any other, and its
plain text without an exponent. All comparisons are between whole numbers over a common
denominator.
-/
namespace SchemaLoom.Double

/-- A positive number and the interval of numbers that round to it, over one denominator. -/
structure Rounding where
  value : Nat
  low : Nat
  high : Nat
  denominator : Nat
  /-- The ends of the interval belong to it. -/
  closed : Bool

namespace Rounding

/-- The interval around `mantissa * 2 ^ exponent`; it is narrower below a power of two. -/
def ofFinite (mantissa : Nat) (exponent : Int) : Rounding :=
  let narrow := mantissa = Nat.pow 2 52 ∧ -1074 < exponent
  let value := 4 * mantissa
  let low := if narrow then value - 1 else value - 2
  let high := value + 2
  let closed := mantissa % 2 = 0
  let scale := exponent - 2
  if 0 ≤ scale then
    let unit := Nat.pow 2 scale.toNat
    ⟨value * unit, low * unit, high * unit, 1, closed⟩
  else ⟨value, low, high, Nat.pow 2 scale.natAbs, closed⟩

/-- The same interval in units of `10 ^ power`. -/
def inUnits (r : Rounding) (power : Int) : Rounding :=
  if 0 ≤ power then { r with denominator := r.denominator * Nat.pow 10 power.toNat }
  else
    let factor := Nat.pow 10 power.natAbs
    { r with value := r.value * factor, low := r.low * factor, high := r.high * factor }

def admits (r : Rounding) (n : Nat) : Bool :=
  let m := n * r.denominator
  if r.closed then r.low ≤ m && m ≤ r.high else r.low < m && m < r.high

/-- The whole number in the interval that is nearest to the value, if one of its two
neighbours is in the interval. -/
def nearest? (r : Rounding) : Option Nat :=
  let below := r.value / r.denominator
  let above := below + 1
  if r.admits below then
    if r.admits above
        ∧ above * r.denominator - r.value ≤ r.value - below * r.denominator then some above
    else some below
  else if r.admits above then some above
  else none

/-- How many digits the value has before the point; negative if zeros follow the point. -/
def magnitude (r : Rounding) : Int :=
  if r.denominator ≤ r.value then (Nat.toDigits 10 (r.value / r.denominator)).length
  else
    let zeros := (List.range 330).find? fun k => r.denominator ≤ r.value * Nat.pow 10 (k + 1)
    Int.negOfNat (zeros.getD 330)

/-- The shortest decimal `(digits, power)`, standing for `digits * 10 ^ power`. -/
def shortest (r : Rounding) : Nat × Int :=
  let found := (List.range 17).findSome? fun n : Nat =>
    let power := r.magnitude - (n + 1)
    (r.inUnits power).nearest?.map (·, power)
  found.getD (0, 0)

end Rounding

/-- `digits * 10 ^ power` written out, without zeros behind the last digit after a point. -/
def positional (digits : Nat) (power : Int) : String :=
  let ds := Nat.toDigits 10 digits
  if 0 ≤ power then String.ofList (ds ++ List.replicate power.toNat '0')
  else
    let places := power.natAbs
    let padded := List.replicate (places + 1 - ds.length) '0' ++ ds
    let whole := padded.take (padded.length - places)
    let rest := ((padded.drop (padded.length - places)).reverse.dropWhile (· = '0')).reverse
    if rest.isEmpty then String.ofList whole
    else String.ofList (whole ++ '.' :: rest)

/-- The text of a double in messages. -/
def display (d : Double) : String :=
  match d.view with
  | .nan => "NaN"
  | .infinite negative => if negative then "-inf" else "inf"
  | .finite negative mantissa exponent =>
    let digits :=
      if mantissa = 0 then "0"
      else
        let (n, power) := (Rounding.ofFinite mantissa exponent).shortest
        positional n power
    if negative then "-" ++ digits else digits

end SchemaLoom.Double
