import Mathlib.Data.List.Nodup
import SchemaLoom.Definition.Writer
import SchemaLoom.Json.Decoder

/-!
# Decoders that invert a writer

A decoder inverts a writer when it reads every written value back, given room for the arrays and
objects that the value opens. Records are written as the list of their fields in order, those
without a value left out; read back, each field is found under its own name, and an absent field is
never taken for a present one. A layout lists the fields of a record with what inverts their
writers, and every record with a layout is read back.
-/
namespace SchemaLoom.Json

/-- The fields that have a value. -/
def present (fields : List (String × Option Json)) : Record :=
  fields.flatMap fun f => optionalField f.1 f.2

@[simp] theorem present_nil : present [] = [] := rfl

@[simp] theorem present_cons (name : String) (v : Option Json)
    (fields : List (String × Option Json)) :
    present ((name, v) :: fields) = optionalField name v ++ present fields := rfl

@[simp] theorem optionalField_some (name : String) (v : Json) :
    optionalField name (some v) = [(name, v)] := rfl

@[simp] theorem optionalField_none (name : String) : optionalField name none = [] := rfl

theorem keys_present (fields : List (String × Option Json)) :
    ((present fields).map (·.1)).Sublist (fields.map (·.1)) := by
  induction fields with
  | nil => exact .slnil
  | cons f fields ih =>
    obtain ⟨name, v⟩ := f
    cases v with
    | none => exact ih.cons name
    | some v => exact ih.cons_cons name

theorem record_present {fields : List (String × Option Json)} (h : (fields.map (·.1)).Nodup) :
    record (fields.map (·.1)) (.object (present fields)) = some (present fields) := by
  have hkeys := keys_present fields
  have hknown : (present fields).filter (fun f => (fields.map (·.1)).contains f.1) =
      present fields := by
    apply List.filter_eq_self.mpr
    intro f hf
    simpa using hkeys.subset (List.mem_map_of_mem hf)
  rw [record, hknown, if_pos (h.sublist hkeys)]

/-- A field is found under its name, or not at all where it was left out. -/
theorem lookup_present {fields : List (String × Option Json)} (h : (fields.map (·.1)).Nodup)
    {name : String} {v : Option Json} (hmem : (name, v) ∈ fields) :
    (present fields).lookup name = v := by
  induction fields with
  | nil => cases hmem
  | cons f fields ih =>
    obtain ⟨key, w⟩ := f
    rw [List.map_cons, List.nodup_cons] at h
    rcases List.mem_cons.mp hmem with heq | hmem
    · cases heq
      cases v with
      | none =>
        -- no later field has the name
        apply List.lookup_eq_none_iff.mpr
        intro f hf
        have hkey : f.1 ∈ fields.map (·.1) := (keys_present fields).subset (List.mem_map_of_mem hf)
        have hne : name ≠ f.1 := fun heq => h.1 (heq ▸ hkey)
        simpa using hne
      | some v => simp
    · have hlater : name ∈ fields.map (·.1) := List.mem_map.mpr ⟨_, hmem, rfl⟩
      have hne : name ≠ key := fun heq => h.1 (heq ▸ hlater)
      have hkey : (name == key) = false := by simpa using hne
      have hrest := ih h.2 hmem
      cases w with
      | none => simpa using hrest
      | some w => simpa [hkey, List.lookup_cons] using hrest

theorem height_le_of_lookup {fields : Record} {name : String} {v : Json}
    (h : fields.lookup name = some v) : v.height ≤ heightFields fields := by
  induction fields with
  | nil => cases h
  | cons f fields ih =>
    obtain ⟨key, w⟩ := f
    rw [heightFields]
    rw [List.lookup_cons] at h
    split at h
    · cases h
      exact Nat.le_max_left ..
    · exact Nat.le_trans (ih h) (Nat.le_max_right ..)

theorem heightItems_map_le {α : Type} {write : α → Json} {bound : Nat} (as : List α)
    (h : ∀ a ∈ as, (write a).height ≤ bound) : heightItems (as.map write) ≤ bound := by
  induction as with
  | nil => exact Nat.zero_le _
  | cons a as ih =>
    rw [List.forall_mem_cons] at h
    exact Nat.max_le.mpr ⟨h.1, ih h.2⟩

namespace Decoder

variable {α : Type}

/-- The decoder reads back what is written, where there is room for it. -/
def Inverts (d : Decoder α) (write : α → Json) : Prop :=
  ∀ a room, (write a).height ≤ room → d room (write a) = some a

theorem text_inverts : text.Inverts .string := fun _ _ _ => rfl

theorem string_ne_null (s : String) : Json.string s ≠ .null := by
  simp

theorem flag_inverts : flag.Inverts .bool := fun _ _ _ => rfl

theorem Inverts.list {d : Decoder α} {write : α → Json} (hd : d.Inverts write) :
    (list d).Inverts fun as => .array (as.map write) := by
  intro as room h
  cases room with
  | zero => simp [height] at h
  | succ room =>
    simp only [height, Nat.add_le_add_iff_right] at h
    induction as with
    | nil => rfl
    | cons a as ih =>
      simp only [List.map_cons, heightItems, Nat.max_le] at h
      have hrest := ih h.2
      simp only [Decoder.list] at hrest ⊢
      simp [hd a room h.1, hrest]

theorem texts_inverts : texts.Inverts ofTexts := text_inverts.list

/-- A value that is held before it is read has to be holdable as it is written. -/
theorem held_inverts {read : Json → Option α} {write : α → Json}
    (hread : ∀ a, read (write a) = some a) (hholds : ∀ a, (write a).holdable = true) :
    (held read).Inverts write := by
  intro a room h
  simp [held, h, hholds a, hread a]

end Decoder

/-- A record as it is written, with room for everything in it. -/
structure Fits (fields : List (String × Option Json)) (room : Nat) : Prop where
  distinct : (fields.map (·.1)).Nodup
  room : heightFields (present fields) ≤ room

namespace Fits

variable {α : Type} {fields : List (String × Option Json)} {room : Nat} {d : Decoder α}
  {write : α → Json} {name : String}

theorem lookup (h : Fits fields room) {v : Json} (hmem : (name, some v) ∈ fields) :
    (present fields).lookup name = some v ∧ v.height ≤ room := by
  have hlookup := lookup_present h.distinct hmem
  exact ⟨hlookup, Nat.le_trans (height_le_of_lookup hlookup) h.room⟩

theorem required (h : Fits fields room) (hd : d.Inverts write) {a : α}
    (hmem : (name, some (write a)) ∈ fields) :
    (present fields).required name d room = some a := by
  obtain ⟨hlookup, hroom⟩ := h.lookup hmem
  rw [Record.required, hlookup]
  exact hd a room hroom

theorem defaulted (h : Fits fields room) (hd : d.Inverts write) (default : α) {a : α}
    (hmem : (name, some (write a)) ∈ fields) :
    (present fields).defaulted name default d room = some a := by
  obtain ⟨hlookup, hroom⟩ := h.lookup hmem
  rw [Record.defaulted, hlookup]
  exact hd a room hroom

/-- An optional field is found as it was, unless its value could be taken for a missing one. -/
theorem optional (h : Fits fields room) (hd : d.Inverts write) (hnull : ∀ a, write a ≠ .null)
    {o : Option α} (hmem : (name, o.map write) ∈ fields) :
    (present fields).optional name d room = some o := by
  cases o with
  | none => rw [Record.optional, lookup_present h.distinct hmem, Option.map_none]
  | some a =>
    obtain ⟨hlookup, hroom⟩ := h.lookup hmem
    have hread := hd a room hroom
    rw [Record.optional, hlookup]
    cases hv : write a with
    | null => exact absurd hv (hnull a)
    | _ =>
      rw [hv] at hread
      simp [hread]

end Fits

/-- The fields of a record `S` in their order, each with a decoder that inverts its writer. `B` is
the type of what builds the record from the values of the fields. -/
inductive Layout (S : Type) : (B : Type) → Type 1 where
  | nil : Layout S S
  | required {α B : Type} {d : Decoder α} {w : α → Json} (name : String) (get : S → α)
      (hd : d.Inverts w) (rest : Layout S B) : Layout S (α → B)
  | defaulted {α B : Type} {d : Decoder α} {w : α → Json} (name : String) (get : S → α)
      (default : α) (hd : d.Inverts w) (rest : Layout S B) : Layout S (α → B)
  | optional {α B : Type} {d : Decoder α} {w : α → Json} (name : String) (get : S → Option α)
      (hd : d.Inverts w) (hnull : ∀ a, w a ≠ .null) (rest : Layout S B) : Layout S (Option α → B)

namespace Layout

variable {S B : Type}

def fields (s : S) : {B : Type} → Layout S B → List (String × Option Json)
  | _, .nil => []
  | _, .required (w := w) name get _ rest => (name, some (w (get s))) :: rest.fields s
  | _, .defaulted (w := w) name get _ _ rest => (name, some (w (get s))) :: rest.fields s
  | _, .optional (w := w) name get _ _ rest => (name, (get s).map w) :: rest.fields s

def names : {B : Type} → Layout S B → List String
  | _, .nil => []
  | _, .required name _ _ rest => name :: rest.names
  | _, .defaulted name _ _ _ rest => name :: rest.names
  | _, .optional name _ _ _ rest => name :: rest.names

/-- Reads the fields one after another and builds the record. -/
def read (r : Record) (room : Nat) : {B : Type} → Layout S B → B → Option S
  | _, .nil, s => some s
  | _, .required (d := d) name _ _ rest, build => do
    let a ← r.required name d room
    rest.read r room (build a)
  | _, .defaulted (d := d) name _ default _ rest, build => do
    let a ← r.defaulted name default d room
    rest.read r room (build a)
  | _, .optional (d := d) name _ _ _ rest, build => do
    let o ← r.optional name d room
    rest.read r room (build o)

/-- The record built from the values of the fields of a record. -/
def rebuild (s : S) : {B : Type} → Layout S B → B → S
  | _, .nil, t => t
  | _, .required _ get _ rest, build => rest.rebuild s (build (get s))
  | _, .defaulted _ get _ _ rest, build => rest.rebuild s (build (get s))
  | _, .optional _ get _ _ rest, build => rest.rebuild s (build (get s))

theorem names_fields (layout : Layout S B) (s : S) :
    (layout.fields s).map (·.1) = layout.names := by
  induction layout with
  | nil => rfl
  | required _ _ _ _ ih => exact congrArg _ ih
  | defaulted _ _ _ _ _ ih => exact congrArg _ ih
  | optional _ _ _ _ _ ih => exact congrArg _ ih

/-- Every field is read back, wherever the rest of the record stands. -/
theorem read_present {written : List (String × Option Json)} {room : Nat} (h : Fits written room)
    (layout : Layout S B) (build : B) (s : S) (hall : layout.fields s ⊆ written) :
    layout.read (present written) room build = some (layout.rebuild s build) := by
  induction layout with
  | nil => rfl
  | required name get hd rest ih =>
    obtain ⟨hmem, hrest⟩ := List.cons_subset.mp hall
    rw [read, h.required hd hmem]
    exact ih _ hrest
  | defaulted name get default hd rest ih =>
    obtain ⟨hmem, hrest⟩ := List.cons_subset.mp hall
    rw [read, h.defaulted hd default hmem]
    exact ih _ hrest
  | optional name get hd hnull rest ih =>
    obtain ⟨hmem, hrest⟩ := List.cons_subset.mp hall
    rw [read, h.optional hd hnull hmem]
    exact ih _ hrest

theorem inverts (layout : Layout S B) {build : B} {write : S → Json}
    (hdistinct : layout.names.Nodup) (hbuild : ∀ s, layout.rebuild s build = s)
    (hwrite : ∀ s, write s = .object (present (layout.fields s))) :
    (Decoder.struct layout.names fun r room => layout.read r room build).Inverts write := by
  intro s room hroom
  rw [hwrite] at hroom ⊢
  cases room with
  | zero => simp [height] at hroom
  | succ room =>
    simp only [height, Nat.add_le_add_iff_right] at hroom
    have hnames := layout.names_fields s
    have hfits : Fits (layout.fields s) room := ⟨hnames ▸ hdistinct, hroom⟩
    rw [Decoder.struct, ← hnames, record_present hfits.distinct]
    have hread := layout.read_present hfits build s (List.Subset.refl _)
    rw [hbuild] at hread
    exact hread

end Layout

/-! ## Held values -/

theorem holdableFields_append (fields more : Record) :
    holdableFields (fields ++ more) = (holdableFields fields && holdableFields more) := by
  induction fields with
  | nil => rfl
  | cons f fields ih => simp [holdableFields, ih, Bool.and_assoc]

theorem holdableFields_optional {α : Type} {write : α → Json}
    (h : ∀ a, (write a).holdable = true) (name : String) (o : Option α) :
    holdableFields (optionalField name (o.map write)) = true := by
  cases o with
  | none => rfl
  | some a => simp [holdableFields, h a]

@[simp] theorem holdableFields_optionalText (name : String) (s : Option String) :
    holdableFields (optionalText name s) = true :=
  holdableFields_optional (fun _ => rfl) name s

end SchemaLoom.Json
