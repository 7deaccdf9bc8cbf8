import SchemaLoom.Nearest

/-!
# Double precision numbers

A double is its sixty-four bits. The bits denote no number, an infinity, or a mantissa times
a power of two, and everything about a double is said in whole numbers: how two doubles compare,
what stands before and behind the point, and which double is nearest to an integer.
-/
namespace SchemaLoom

structure Double where
  bits : UInt64
deriving DecidableEq, Repr

namespace Double

/-- What the bits denote. -/
inductive View where
  | nan
  | infinite (negative : Bool)
  /-- The number `mantissa * 2 ^ exponent`, or its negative. -/
  | finite (negative : Bool) (mantissa : Nat) (exponent : Int)
deriving DecidableEq, Repr

def isNegative (d : Double) : Bool := Nat.pow 2 63 ≤ d.bits.toNat

def exponentField (d : Double) : Nat := d.bits.toNat / Nat.pow 2 52 % Nat.pow 2 11

def fraction (d : Double) : Nat := d.bits.toNat % Nat.pow 2 52

def view (d : Double) : View :=
  if d.exponentField = 2047 then
    if d.fraction = 0 then .infinite d.isNegative else .nan
  else if d.exponentField = 0 then .finite d.isNegative d.fraction (-1074)
  else .finite d.isNegative (Nat.pow 2 52 + d.fraction) (d.exponentField - 1075)

/-- An integer from its sign and its magnitude. -/
def withSign (negative : Bool) (magnitude : Nat) : Int :=
  if negative then -(magnitude : Int) else magnitude

/-! ### Comparison -/

/-- The number in units of `2 ^ unit`, for a unit that is not above its own. -/
def scaled (negative : Bool) (mantissa : Nat) (exponent unit : Int) : Int :=
  withSign negative (mantissa * Nat.pow 2 (exponent - unit).toNat)

/-- The order of two doubles: the infinities stand at the ends, both zeros are equal, and what is
no number has no place. -/
def compare? (a b : Double) : Option Ordering :=
  match a.view, b.view with
  | .nan, _ => none
  | _, .nan => none
  | .infinite negative, .infinite negative' => some (compare negative' negative)
  | .infinite negative, .finite .. => some (if negative then .lt else .gt)
  | .finite .., .infinite negative => some (if negative then .gt else .lt)
  | .finite n m e, .finite n' m' e' =>
    some (compare (scaled n m e (min e e')) (scaled n' m' e' (min e e')))

def zero : Double := ⟨0⟩

/-- One of the doubles that are no number. -/
def nan : Double := ⟨0x7FF8000000000000⟩

/-! ### Before and behind the point -/

/-- The whole part of `mantissa * 2 ^ exponent`. -/
def wholePart (mantissa : Nat) : Int → Nat
  | .ofNat e => mantissa * Nat.pow 2 e
  | .negSucc e => mantissa / Nat.pow 2 (e + 1)

/-- The rest of `mantissa * 2 ^ exponent`, in units of `2 ^ exponent`. -/
def restPart (mantissa : Nat) : Int → Nat
  | .ofNat _ => 0
  | .negSucc e => mantissa % Nat.pow 2 (e + 1)

/-- The double `mantissa * 2 ^ exponent` or its negative, for a mantissa of at most fifty-three
bits. Small numbers have no leading bit to spare and keep the lowest exponent. -/
def ofParts (negative : Bool) (mantissa : Nat) (exponent : Int) : Double :=
  let top := mantissa.log2
  let field := top + exponent + 1023
  let magnitude :=
    if 1 ≤ field then
      field.toNat * Nat.pow 2 52 + (mantissa * Nat.pow 2 (52 - top) - Nat.pow 2 52)
    else mantissa * Nat.pow 2 (exponent + 1074).toNat
  ⟨UInt64.ofNat (if negative then Nat.pow 2 63 + magnitude else magnitude)⟩

/-- What is behind the point, with the sign of the number. A whole number leaves the positive zero,
and an infinity leaves no number. -/
def fract (d : Double) : Double :=
  match d.view with
  | .finite negative mantissa exponent =>
    let rest := restPart mantissa exponent
    if rest = 0 then zero else ofParts negative rest exponent
  | _ => nan

/-- The whole part in thirty-two bits. Numbers beyond them become the last one on their side, and
what is no number becomes zero. -/
def toInt32 (d : Double) : Int32 :=
  match d.view with
  | .nan => 0
  | .infinite negative => if negative then Int32.minValue else Int32.maxValue
  | .finite negative mantissa exponent =>
    let n := withSign negative (wholePart mantissa exponent)
    Int32.ofInt (max Int32.minValue.toInt (min Int32.maxValue.toInt n))

/-! ### Integers -/

/-- The bits of the double nearest to a positive number below `2 ^ 1023`, of two equally near
the one with the even fraction. A carry out of the fraction goes into the exponent. -/
def nearestBits (n : Nat) : Nat :=
  let top := n.log2
  let scaled :=
    if top ≤ 52 then n * Nat.pow 2 (52 - top)
    else Nearest.quotient n (Nat.pow 2 (top - 52))
  (top + 1023) * Nat.pow 2 52 + (scaled - Nat.pow 2 52)

/-- The double nearest to an integer. -/
def ofInt (i : Int) : Double :=
  if i = 0 then ⟨0⟩
  else
    let magnitude := nearestBits i.natAbs
    ⟨UInt64.ofNat (if i < 0 then Nat.pow 2 63 + magnitude else magnitude)⟩

end Double
end SchemaLoom
