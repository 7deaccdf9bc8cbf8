import SchemaLoom.Proofs.Wire.Calls
import SchemaLoom.Proofs.Wire.EnumNumber
import SchemaLoom.Proofs.Wire.Timestamp

/-!
# Conversions are inverse

A host value of a column goes to the wire as a value of the column's wire type and is read back.
Scalars are one by one; an array is if its elements are, and a nullable value if no other value of
its type is null on the wire. What is read back is what was written but for a leap second in the
middle of a minute, whose text is that of the next second.
-/
namespace SchemaLoom

/-- What the codecs of enums and messages promise: they read what they write. -/
structure Codecs.Lawful {E M : Type} (codecs : Codecs E M) : Prop where
  enum : ∀ e, codecs.enum.ofNumber (codecs.enum.toNumber e) = some e
  message : ∀ m, codecs.message.deserialize (codecs.message.serialize m) = .ok m

section Scalars

variable {E M : Type} {codecs : Codecs E M}

namespace ScalarKind

def timestamps : (k : ScalarKind) → k.Host E M → List Timestamp
  | .timestamp, t => [t]
  | _, _ => []

def settled : (k : ScalarKind) → k.Host E M → k.Host E M
  | .timestamp, t => t.settled
  | _, v => v

theorem ofWire_toWire (h : codecs.Lawful) (k : ScalarKind) (v : k.Host E M)
    (hyear : ∀ t ∈ k.timestamps v, 0 ≤ t.year ∧ t.year ≤ 9999) :
    k.ofWire codecs (k.toWire codecs v) = .ok (k.settled v) := by
  cases k with
  | bool => rfl
  | int => rfl
  | float => rfl
  | string => rfl
  | timestamp =>
    have hread := Timestamp.parse_render (hyear v (List.mem_singleton.mpr rfl))
    simp only [toWire, ofWire, Wire.toTimestamp, hread, settled]
  | enum =>
    have hlow := (codecs.enum.toNumber v).le_toInt
    have hhigh := (codecs.enum.toNumber v).toInt_lt
    exact Wire.toEnum_eq_ok_iff.mpr ⟨_, Double.value?_ofInt (by omega), h.enum v⟩
  | message => simp only [toWire, ofWire, Wire.toMessage, h.message, settled]

theorem ofWire_toWire_error (k : ScalarKind) (v : k.Host E M)
    (hv : ∃ t ∈ k.timestamps v, ¬(0 ≤ t.year ∧ t.year ≤ 9999)) :
    ∃ fault, k.ofWire codecs (k.toWire codecs v) = .error fault := by
  obtain ⟨t, ht, hyear⟩ := hv
  cases k with
  | timestamp =>
    cases List.mem_singleton.mp ht
    obtain ⟨fault, hfault⟩ := Timestamp.parse_render_of_year hyear
    exact ⟨_, by simp only [toWire, ofWire, Wire.toTimestamp, hfault]; rfl⟩
  | _ => cases ht

theorem settled_eq_iff (k : ScalarKind) (v : k.Host E M) :
    k.settled v = v ↔ ∀ t ∈ k.timestamps v, t.IsClockTime := by
  cases k with
  | timestamp =>
    rw [timestamps, List.forall_mem_singleton]
    exact Timestamp.settled_eq_iff
  | _ => exact iff_of_true rfl (List.forall_mem_nil _)

end ScalarKind

end Scalars

theorem mapM_eq_ok {α β ε : Type} {f : α → Except ε β} {g : α → β} {as : List α}
    (h : ∀ a ∈ as, f a = .ok (g a)) : as.mapM f = .ok (as.map g) := by
  induction as with
  | nil => rfl
  | cons a as ih =>
    rw [List.mapM_cons, h a List.mem_cons_self, ih fun b hb => h b (List.mem_cons_of_mem _ hb)]
    rfl

theorem mapM_eq_error {α β ε : Type} {f : α → Except ε β} {as : List α} {a : α} (ha : a ∈ as)
    {e : ε} (h : f a = .error e) : ∃ e', as.mapM f = .error e' := by
  induction as with
  | nil => cases ha
  | cons b as ih =>
    rw [List.mapM_cons]
    cases hb : f b with
    | error e' => exact ⟨e', rfl⟩
    | ok c =>
      rcases List.mem_cons.mp ha with rfl | ha
      · rw [h] at hb
        cases hb
      · obtain ⟨e', he'⟩ := ih ha
        exact ⟨e', by rw [he']; rfl⟩

namespace Conversion

variable {E M : Type} {codecs : Codecs E M}

def timestamps : (c : Conversion) → c.Host E M → List Timestamp
  | .scalar k, v => k.timestamps v
  | .array c, vs => List.flatMap c.timestamps vs
  | .nullable _, none => []
  | .nullable c, some v => c.timestamps v

/-- The host value with every timestamp as a clock shows it. -/
def settled : (c : Conversion) → c.Host E M → c.Host E M
  | .scalar k => k.settled
  | .array c => List.map c.settled
  | .nullable c => Option.map c.settled

/-- Values whose timestamps have years of four digits come back settled, and values with another
timestamp are refused. -/
structure RoundTrips (codecs : Codecs E M) (c : Conversion) : Prop where
  ok : ∀ v : c.Host E M, (∀ t ∈ c.timestamps v, 0 ≤ t.year ∧ t.year ≤ 9999) →
    c.ofWire codecs (c.toWire codecs v) = .ok (c.settled v)
  error : ∀ v : c.Host E M, (∃ t ∈ c.timestamps v, ¬(0 ≤ t.year ∧ t.year ≤ 9999)) →
    ∃ fault, c.ofWire codecs (c.toWire codecs v) = .error fault

namespace RoundTrips

theorem scalar (h : codecs.Lawful) (k : ScalarKind) : RoundTrips codecs (.scalar k) where
  ok := k.ofWire_toWire h
  error := k.ofWire_toWire_error

theorem ofWire_array (c : Conversion) (vs : (Conversion.array c).Host E M) :
    (Conversion.array c).ofWire codecs ((Conversion.array c).toWire codecs vs) =
      List.mapM (fun v => c.ofWire codecs (c.toWire codecs v)) vs :=
  List.mapM_map

theorem array {c : Conversion} (h : RoundTrips codecs c) : RoundTrips codecs (.array c) where
  ok vs hvs := by
    rw [ofWire_array]
    refine mapM_eq_ok fun v hv => h.ok v fun t ht => ?_
    exact hvs t (List.mem_flatMap.mpr ⟨v, hv, ht⟩)
  error := by
    rintro vs ⟨t, ht, hyear⟩
    obtain ⟨v, hv, ht⟩ := List.mem_flatMap.mp ht
    obtain ⟨fault, hfault⟩ := h.error v ⟨t, ht, hyear⟩
    rw [ofWire_array]
    exact mapM_eq_error hv hfault

theorem ofWire_nullable (c : Conversion) {w : WireValue} (h : w ≠ .null) :
    (Conversion.nullable c).ofWire codecs w = some <$> c.ofWire codecs w := by
  cases w with
  | null => exact absurd rfl h
  | _ => rfl

/-- Only the absent value is null. -/
theorem nullable {c : Conversion} (h : RoundTrips codecs c)
    (hnull : ∀ v : c.Host E M, c.toWire codecs v ≠ .null) : RoundTrips codecs (.nullable c) where
  ok v hv := by
    cases v with
    | none => rfl
    | some v =>
      have hread := h.ok v hv
      change (Conversion.nullable c).ofWire codecs (c.toWire codecs v) = _
      rw [ofWire_nullable c (hnull v), hread]
      rfl
  error v hv := by
    cases v with
    | none => simp [timestamps] at hv
    | some v =>
      obtain ⟨fault, hfault⟩ := h.error v hv
      refine ⟨fault, ?_⟩
      change (Conversion.nullable c).ofWire codecs (c.toWire codecs v) = _
      rw [ofWire_nullable c (hnull v), hfault]
      rfl

end RoundTrips

/-- Settling changes a value only at timestamps that no clock shows. -/
theorem settled_eq_iff (c : Conversion) (v : c.Host E M) :
    c.settled v = v ↔ ∀ t ∈ c.timestamps v, t.IsClockTime := by
  induction c with
  | scalar k => exact k.settled_eq_iff v
  | array c ih =>
    have hmap (vs : List (c.Host E M)) : vs.map c.settled = vs ↔ ∀ u ∈ vs, c.settled u = u := by
      simpa using List.map_eq_map_iff (f := c.settled) (g := id) (l := vs)
    refine (hmap v).trans ?_
    simp only [ih]
    constructor
    · intro h t ht
      obtain ⟨u, hu, htu⟩ := List.mem_flatMap.mp ht
      exact h u hu t htu
    · exact fun h u hu t ht => h t (List.mem_flatMap.mpr ⟨u, hu, ht⟩)
  | nullable c ih =>
    cases v with
    | none => exact iff_of_true rfl (List.forall_mem_nil _)
    | some v => exact Option.some_inj.trans (ih v)

end Conversion

namespace ColumnType

variable {E M : Type} {codecs : Codecs E M}

end ColumnType

namespace Sample

inductive Color where
  | red
  | blue
deriving DecidableEq

def codecs : Codecs Color String where
  enum := {
    toNumber := fun
      | .red => 1
      | .blue => 2
    ofNumber := fun n => if n = 1 then some .red else if n = 2 then some .blue else none }
  message := {
    serialize := String.toUTF8
    deserialize := fun b =>
      match String.fromUTF8? b with
      | some s => .ok s
      | none => .error "note is not utf-8" }

end Sample

end SchemaLoom
