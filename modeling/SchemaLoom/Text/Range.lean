/-!
# Ranges of characters

Properties of characters are given by tables of code points. Tables begin after the
characters of one byte, which are judged without them.
-/
namespace SchemaLoom.Text

/-- A closed range of code points. -/
abbrev CharRange := Nat × Nat

def inRanges (table : List CharRange) (c : Char) : Bool :=
  table.any fun (first, last) => first ≤ c.toNat && c.toNat ≤ last

/-- Every `step`-th code point from `first` to `last`. -/
structure CharRun where
  first : Nat
  last : Nat
  step : Nat

def CharRun.holds (r : CharRun) (n : Nat) : Bool :=
  r.first ≤ n && n ≤ r.last && (n - r.first) % r.step == 0

def inRuns (table : List CharRun) (c : Char) : Bool := table.any (·.holds c.toNat)

/-- Code points that are each mapped by adding `offset`. -/
structure CharShift where
  run : CharRun
  offset : Int

def CharShift.image (s : CharShift) (n : Nat) : Char := Char.ofNat (n + s.offset).toNat

/-- The image of a character, which is its own image if the table does not have it. -/
def shift (table : List CharShift) (c : Char) : Char :=
  match table.find? (·.run.holds c.toNat) with
  | some s => s.image c.toNat
  | none => c

/-- A character of one byte. -/
def isShort (c : Char) : Bool := c.toNat < 0x80

end SchemaLoom.Text
