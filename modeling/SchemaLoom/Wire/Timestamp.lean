import SchemaLoom.Wire.Calendar

/-!
# Timestamps

An instant in whole seconds since 1970 and nanoseconds; a leap second is the second before it
with a thousand million nanoseconds more. Timestamps are written in universal time with the
fewest of zero, three, six or nine decimals, and read with any offset.
-/
namespace SchemaLoom

/-- The nanoseconds of a second. -/
def Timestamp.giga : Nat := 1000000000

@[ext]
structure Timestamp where
  seconds : Int
  nanos : Nat
  nanos_lt : nanos < 2 * Timestamp.giga
deriving DecidableEq, Repr

inductive TimestampFault where
  | short
  | invalid
  | range
  | long
deriving DecidableEq, Repr

def TimestampFault.message : TimestampFault → String
  | .short => "premature end of input"
  | .invalid => "input contains invalid characters"
  | .range => "input is out of range"
  | .long => "trailing input"

namespace Timestamp

/-- The day number of the first of January 1970. -/
def epochDay : Int := 719528

/-- The last `width` decimal digits of a number. -/
def digits : Nat → Nat → List Char
  | 0, _ => []
  | width + 1, n => digits width (n / 10) ++ [Char.ofNat ('0'.toNat + n % 10)]

/-- A year in four digits; other years have a sign and as many digits as they need. -/
def yearText (year : Int) : List Char :=
  if 0 ≤ year ∧ year ≤ 9999 then digits 4 year.toNat
  else
    let ds := Nat.toDigits 10 year.natAbs
    (if year < 0 then '-' else '+') :: List.replicate (4 - ds.length) '0' ++ ds

/-- The fewest decimals in threes that are exact. -/
def fractionText (nanos : Nat) : List Char :=
  if nanos = 0 then []
  else if nanos % 1000000 = 0 then '.' :: digits 3 (nanos / 1000000)
  else if nanos % 1000 = 0 then '.' :: digits 6 (nanos / 1000)
  else '.' :: digits 9 nanos

def renderChars (t : Timestamp) : List Char :=
  let date := Date.ofDayNumber (t.seconds / 86400 + epochDay)
  let second := (t.seconds % 86400).toNat
  let leap := if giga ≤ t.nanos then 1 else 0
  yearText date.year ++ '-' :: digits 2 date.month ++ '-' :: digits 2 date.day
    ++ 'T' :: digits 2 (second / 3600) ++ ':' :: digits 2 (second / 60 % 60)
    ++ ':' :: digits 2 (second % 60 + leap) ++ fractionText (t.nanos % giga) ++ ['Z']

def render (t : Timestamp) : String := String.ofList t.renderChars

/-- Reads a part of a text and gives its value with the rest. -/
abbrev Reading := Except TimestampFault

def digit? (c : Char) : Option Nat := if c.isDigit then some (c.toNat - '0'.toNat) else none

/-- Exactly `width` digits, with the value `value` before them. -/
def readDigits (value : Nat) : Nat → List Char → Reading (Nat × List Char)
  | 0, cs => .ok (value, cs)
  | width + 1, c :: cs =>
    match digit? c with
    | some d => readDigits (value * 10 + d) width cs
    | none => .error .invalid
  | _ + 1, [] => .error .invalid

/-- One character of a kind. -/
def readMark (isMark : Char → Bool) : List Char → Reading (Unit × List Char)
  | c :: cs => if isMark c then .ok ((), cs) else .error .invalid
  | [] => .error .invalid

def readDate (cs : List Char) : Reading (Date × List Char) := do
  let (year, cs) ← readDigits 0 4 cs
  let (_, cs) ← readMark (· = '-') cs
  let (month, cs) ← readDigits 0 2 cs
  let (_, cs) ← readMark (· = '-') cs
  let (day, cs) ← readDigits 0 2 cs
  let date : Date := ⟨year, month, day⟩
  if date.isValid then .ok (date, cs) else .error .range

/-- Up to `places` decimals as a number of that many places; more are skipped. -/
def readDecimals (value : Nat) : Nat → List Char → Nat × List Char
  | places, [] => (value * Nat.pow 10 places, [])
  | places, c :: cs =>
    match digit? c, places with
    | some _, 0 => readDecimals value 0 cs
    | some d, places + 1 => readDecimals (value * 10 + d) places cs
    | none, places => (value * Nat.pow 10 places, c :: cs)

/-- The nanoseconds after a point, where there is one. -/
def readFraction : List Char → Reading (Nat × List Char)
  | ['.'] => .error .short
  | '.' :: c :: cs =>
    if c.isDigit then .ok (readDecimals 0 9 (c :: cs)) else .error .invalid
  | cs => .ok (0, cs)

@[ext]
structure TimeOfDay where
  second : Nat
  nanos : Nat
  nanos_lt : nanos < 2 * giga

def readTime (cs : List Char) : Reading (TimeOfDay × List Char) := do
  let (hour, cs) ← readDigits 0 2 cs
  let (_, cs) ← readMark (· = ':') cs
  let (minute, cs) ← readDigits 0 2 cs
  let (_, cs) ← readMark (· = ':') cs
  let (second, cs) ← readDigits 0 2 cs
  let (nanos, cs) ← readFraction cs
  let (second, nanos) := if second = 60 then (59, nanos + giga) else (second, nanos)
  if h : (hour ≤ 23 ∧ minute ≤ 59 ∧ second ≤ 59) ∧ nanos < 2 * giga then
    .ok (⟨hour * 3600 + minute * 60 + second, nanos, h.2⟩, cs)
  else .error .range

def byteLength (cs : List Char) : Nat := cs.foldl (fun n c => n + c.utf8Size) 0

/-- Two digits of an offset; at least two bytes must be left. -/
def readOffsetPair (cs : List Char) : Reading (Char × Char × List Char) :=
  if byteLength cs < 2 then .error .short
  else match cs with
    | a :: b :: rest => .ok (a, b, rest)
    | _ => .error .invalid

def readOffsetTime (cs : List Char) : Reading (Nat × List Char) := do
  let (a, b, cs) ← readOffsetPair cs
  let hours ← match digit? a, digit? b with
    | some m, some n => .ok (m * 10 + n)
    | _, _ => .error .invalid
  let cs ← match cs with
    | [] => .error .short
    | c :: rest => if c = ':' then .ok rest else .error .invalid
  let (a, b, cs) ← readOffsetPair cs
  let minutes ← match digit? a, digit? b with
    | some m, some n => if m ≤ 5 then .ok (m * 10 + n) else .error .range
    | _, _ => .error .invalid
  return (hours * 3600 + minutes * 60, cs)

/-- The distance from universal time in seconds. -/
def readOffset : List Char → Reading (Int × List Char)
  | [] => .error .short
  | c :: cs =>
    if c = 'Z' ∨ c = 'z' then .ok (0, cs)
    else if c = '+' then (fun p => ((p.1 : Int), p.2)) <$> readOffsetTime cs
    else if c = '-' ∨ c = '\u2212' then (fun p => (-(p.1 : Int), p.2)) <$> readOffsetTime cs
    else .error .invalid

def parseChars (cs : List Char) : Reading Timestamp := do
  if byteLength cs < 19 then throw .short
  let (date, cs) ← readDate cs
  let (_, cs) ← readMark (fun c => c = 'T' || c = 't' || c = ' ') cs
  let (time, cs) ← readTime cs
  let (offset, cs) ← readOffset cs
  if !cs.isEmpty then throw .long
  if 86400 ≤ offset.natAbs then throw .range
  return ⟨(date.dayNumber - epochDay) * 86400 + time.second - offset, time.nanos, time.nanos_lt⟩

def parse (text : String) : Reading Timestamp := parseChars text.toList

end Timestamp
end SchemaLoom
