import SchemaLoom.Column.Conversion
import SchemaLoom.Proofs.Text.Legible
import SchemaLoom.Wire.Codec

/-!
# The calls a text spells

Generated code converts values by nested calls of the runtime. The name of a function says what is
called, its first argument what is converted, and a closure what is called within. A text spells at
most one conversion, and the texts written for a column spell the conversion of its type.
-/
namespace SchemaLoom

namespace Conversion

/-- The function a conversion calls first. -/
inductive Callee where
  | scalar (kind : ScalarKind)
  | array
  | nullable
deriving DecidableEq

def callee : Conversion → Callee
  | .scalar k => .scalar k
  | .array _ => .array
  | .nullable _ => .nullable

/-- The functions of the runtime that put host values on the wire. -/
def toWireFunctions : List (String × Callee) :=
  [("bool_to_wire", .scalar .bool), ("int_to_wire", .scalar .int),
    ("float_to_wire", .scalar .float), ("timestamp_to_wire", .scalar .timestamp),
    ("string_to_wire", .scalar .string), ("enum_to_wire", .scalar .enum),
    ("message_to_wire", .scalar .message), ("array_to_wire", .array),
    ("nullable_to_wire", .nullable)]

/-- The functions of the runtime that read wire values. -/
def ofWireFunctions : List (String × Callee) :=
  [("bool_from_wire", .scalar .bool), ("int_from_wire", .scalar .int),
    ("float_from_wire", .scalar .float), ("timestamp_from_wire", .scalar .timestamp),
    ("string_from_wire", .scalar .string), ("enum_from_wire", .scalar .enum),
    ("message_from_wire", .scalar .message), ("array_from_wire", .array),
    ("nullable_from_wire", .nullable)]

def call (function arguments : String) : String :=
  "runtime::" ++ function ++ "(" ++ arguments ++ ")"

/-- The text calls the functions of the conversion, first on `x` and within on the variable of a
closure. -/
def Spells (functions : List (String × Callee)) : Conversion → (x text : String) → Prop
  | .scalar k, x, text => ∃ f, (f, .scalar k) ∈ functions ∧ text = call f x
  | .array c, x, text => ∃ f body, (f, .array) ∈ functions ∧ Spells functions c "v" body ∧
      text = call f (x ++ ", |v| " ++ body)
  | .nullable c, x, text => ∃ f body, (f, .nullable) ∈ functions ∧ Spells functions c "v" body ∧
      text = call f (x ++ ", |v| " ++ body)

/-- How a variable is lent to the function called first: a value that may be absent is lent where
it is there. -/
def lent (x : String) : Callee → String
  | .nullable => x ++ ".as_ref()"
  | _ => "&" ++ x

def Marshals (c : Conversion) (x text : String) : Prop :=
  c.Spells toWireFunctions (lent x c.callee) text

def Unmarshals (c : Conversion) (x text : String) : Prop := c.Spells ofWireFunctions x text

section Reading

variable {functions : List (String × Callee)} {c d : Conversion} {x y text : String}

structure Named (functions : List (String × Callee)) : Prop where
  isName : ∀ p ∈ functions, Text.IsName p.1
  unique : ∀ p ∈ functions, ∀ q ∈ functions, p.1 = q.1 → p.2 = q.2

theorem named_toWireFunctions : Named toWireFunctions := ⟨by decide, by decide⟩

theorem named_ofWireFunctions : Named ofWireFunctions := ⟨by decide, by decide⟩

theorem call_inj {f g a b : String} (hf : Text.IsName f) (hg : Text.IsName g)
    (h : call f a = call g b) : f = g ∧ a = b := by
  simp only [call, String.append_assoc, String.append_right_inj] at h
  obtain ⟨hfg, hab⟩ := hf.append_sep_inj hg (by decide) h
  exact ⟨hfg, (String.append_left_inj _).mp hab⟩

theorem Spells.exists_call (h : c.Spells functions x text) :
    ∃ f a, (f, c.callee) ∈ functions ∧ text = call f a := by
  cases c with
  | scalar k =>
    obtain ⟨f, hf, htext⟩ := h
    exact ⟨f, _, hf, htext⟩
  | array c =>
    obtain ⟨f, body, hf, -, htext⟩ := h
    exact ⟨f, _, hf, htext⟩
  | nullable c =>
    obtain ⟨f, body, hf, -, htext⟩ := h
    exact ⟨f, _, hf, htext⟩

/-- Texts of the same calls call the same function first. -/
theorem Spells.callee_eq (hnamed : Named functions) (hc : c.Spells functions x text)
    (hd : d.Spells functions y text) : c.callee = d.callee := by
  obtain ⟨f, a, hf, rfl⟩ := hc.exists_call
  obtain ⟨g, b, hg, heq⟩ := hd.exists_call
  exact hnamed.unique _ hf _ hg (call_inj (hnamed.isName _ hf) (hnamed.isName _ hg) heq).1

theorem closure_inj (hnamed : Named functions) {f g body body' : String} {k l : Callee}
    (hf : (f, k) ∈ functions) (hg : (g, l) ∈ functions)
    (h : call f (x ++ ", |v| " ++ body) = call g (x ++ ", |v| " ++ body')) : body = body' :=
  (String.append_right_inj _).mp (call_inj (hnamed.isName _ hf) (hnamed.isName _ hg) h).2

/-- A text spells one conversion. -/
theorem Spells.unique (hnamed : Named functions) (hc : c.Spells functions x text)
    (hd : d.Spells functions x text) : c = d := by
  have hcallee := hc.callee_eq hnamed hd
  induction c generalizing d x text with
  | scalar k =>
    cases d <;> cases hcallee
    rfl
  | array c ih =>
    cases d <;> cases hcallee
    obtain ⟨f, body, hf, hbody, rfl⟩ := hc
    obtain ⟨g, body', hg, hbody', heq⟩ := hd
    obtain rfl := closure_inj hnamed hf hg heq
    exact congrArg Conversion.array (ih hbody hbody' (hbody.callee_eq hnamed hbody'))
  | nullable c ih =>
    cases d <;> cases hcallee
    obtain ⟨f, body, hf, hbody, rfl⟩ := hc
    obtain ⟨g, body', hg, hbody', heq⟩ := hd
    obtain rfl := closure_inj hnamed hf hg heq
    exact congrArg Conversion.nullable (ih hbody hbody' (hbody.callee_eq hnamed hbody'))

theorem Marshals.unique (hc : c.Marshals x text) (hd : d.Marshals x text) : c = d := by
  -- how the variable is lent depends on the function, which the text tells first
  have hcallee := Spells.callee_eq named_toWireFunctions hc hd
  unfold Marshals at hc hd
  rw [hcallee] at hc
  exact hc.unique named_toWireFunctions hd

theorem Unmarshals.unique (hc : c.Unmarshals x text) (hd : d.Unmarshals x text) : c = d :=
  Spells.unique named_ofWireFunctions hc hd

end Reading

end Conversion

def PrimitiveType.scalarKind : PrimitiveType → ScalarKind
  | .bool => .bool
  | .int64 => .int
  | .float64 => .float
  | .timestamp => .timestamp
  | .string => .string

namespace BaseType

def scalarKind : BaseType → ScalarKind
  | .primitive p => p.scalarKind
  | .enum _ _ => .enum
  | .message _ _ => .message

end BaseType

namespace ColumnType

/-- The conversion of values that are not null. -/
def valueConversion (t : ColumnType) : Conversion :=
  if t.isArray then .array (.scalar t.base.scalarKind) else .scalar t.base.scalarKind

def conversion (t : ColumnType) : Conversion :=
  if t.nullable then .nullable t.valueConversion else t.valueConversion

end ColumnType
end SchemaLoom
