import SchemaLoom.Nearest

/-!
# JSON values

A document is a tree with its object fields in the order of the text, repeated names
included. Numbers are exact decimals. A document has a height, the largest number of arrays
and objects open at once, and is holdable when all its texts and numbers have a value.
-/
namespace SchemaLoom

/-- The exact number `mantissa * 10 ^ exponent`. -/
structure Decimal where
  mantissa : Int
  exponent : Int
deriving DecidableEq, Repr

namespace Decimal

def ofNat (n : Nat) : Decimal := ⟨n, 0⟩

/-- The natural number a decimal without exponent stands for. -/
def toNat? (d : Decimal) : Option Nat :=
  match d.mantissa, d.exponent with
  | .ofNat n, .ofNat 0 => some n
  | _, _ => none

/-- The least magnitude that a double precision number rounds to infinity. -/
def doubleLimit : Nat := Nat.pow 2 1024 - Nat.pow 2 970

/-- The largest power of ten that is a double precision number. -/
def largestPower : Nat := 308

/-- Takes digits into a word of sixty-four bits up to the first that does not fit. The result
is the word and the number of digits left over. -/
def leadingWord (word : Nat) : List Char → Nat × Nat
  | [] => (word, 0)
  | c :: cs =>
    let next := word * 10 + (c.toNat - '0'.toNat)
    if next < UInt64.size then leadingWord next cs else (word, cs.length + 1)

/-- Whether a number is finite in double precision, computed as its leading word times a power
of ten, both rounded to a double before they are multiplied. -/
def isFiniteDouble (d : Decimal) : Bool :=
  let (word, dropped) := leadingWord 0 (Nat.toDigits 10 d.mantissa.natAbs)
  let power := (d.exponent + dropped).toNat
  if word = 0 then true
  else if largestPower < power then false
  else Nearest.significant word * Nearest.significant (Nat.pow 10 power) < doubleLimit

end Decimal

inductive Json where
  | null
  | bool (value : Bool)
  | number (value : Decimal)
  | string (text : String)
  | array (items : List Json)
  | object (fields : List (String × Json))
  /-- A string literal in which half of a surrogate pair stands alone, or an object with such
  a key. It spells no text, so it is harmless only where it is skipped. -/
  | unpaired
deriving Inhabited

namespace Json

def nat (n : Nat) : Json := .number (.ofNat n)

mutual
/-- The largest number of arrays and objects open at once. -/
def height : Json → Nat
  | .array items => heightItems items + 1
  | .object fields => heightFields fields + 1
  | _ => 0

def heightItems : List Json → Nat
  | [] => 0
  | v :: vs => max v.height (heightItems vs)

def heightFields : List (String × Json) → Nat
  | [] => 0
  | (_, v) :: fs => max v.height (heightFields fs)
end

mutual
/-- Every number is within the range of a double and every string literal spells a text. -/
def holdable : Json → Bool
  | .number d => d.isFiniteDouble
  | .array items => holdableItems items
  | .object fields => holdableFields fields
  | .unpaired => false
  | _ => true

def holdableItems : List Json → Bool
  | [] => true
  | v :: vs => v.holdable && holdableItems vs

def holdableFields : List (String × Json) → Bool
  | [] => true
  | (_, v) :: fs => v.holdable && holdableFields fs
end

end Json
end SchemaLoom
