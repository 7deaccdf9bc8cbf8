import Mathlib.Logic.Relation
import SchemaLoom.Proofs.Ddl.Validity

/-!
# The hierarchy of interleaved tables

A table is checked only against its direct parent, when it is declared. Since parents are declared
first and tables never change, following parents from any table of a registry leads strictly back
in the order of declaration, and the keys along the way are ever shorter starts of one key.
-/
namespace SchemaLoom
open Compiled

theorem Table.ExtendsKey.trans {t p a : Table} (htp : t.ExtendsKey p) (hpa : p.ExtendsKey a) :
    t.ExtendsKey a where
  longer := Nat.lt_trans hpa.longer htp.longer
  starts := hpa.starts.trans htp.starts
  types := by
    intro k hk
    obtain ⟨ac, pc, hac, hpc, htype⟩ := hpa.types k hk
    obtain ⟨pc', tc, hpc', htc, htype'⟩ := htp.types k (hpa.starts.subset hk)
    rw [hpc] at hpc'
    cases hpc'
    exact ⟨ac, tc, hac, htc, htype.trans htype'⟩

namespace Registry

/-- The parent of an interleaved table: the table found under the name that it states. -/
def IsParent (r : Registry) (p t : Table) : Prop :=
  t ∈ r.tables ∧ ∃ i, t.interleave = some i ∧ r.find? i.parentTable = some p

/-- A table that is reached by following parents one or more times. -/
def IsAncestor (r : Registry) : Table → Table → Prop := Relation.TransGen r.IsParent

def position (r : Registry) (t : Table) : Nat := r.tables.idxOf t

variable {r : Registry}

theorem position_lt {before after : List Table} {p t : Table}
    (h : r.tables = before ++ t :: after) (hp : p ∈ before) (ht : t ∉ before) :
    r.position p < r.position t := by
  rw [position, position, h, List.idxOf_append_of_mem hp, List.idxOf_append_of_notMem ht,
    List.idxOf_cons_self]
  exact List.idxOf_lt_length_of_mem hp

namespace Sound

/-- A table of a sound registry has its parent before it, where it has one. -/
theorem exists_parent (hr : r.Sound) {t : Table} (ht : t ∈ r.tables) {i : InterleaveDefinition}
    (hi : t.interleave = some i) : ∃ p, r.find? i.parentTable = some p ∧
      r.position p < r.position t ∧ t.ExtendsKey p := by
  obtain ⟨before, after, htables⟩ := List.append_of_mem ht
  obtain ⟨p, hp, hkey⟩ := (hr.checked before t after htables).parent i hi
  have hmem : p ∈ before := List.mem_of_find?_eq_some hp
  have hnew : t ∉ before := by
    intro hbefore
    have hnames := hr.names
    rw [Registry.names, htables, List.map_append, List.nodup_append] at hnames
    exact hnames.2.2 t.name (List.mem_map_of_mem hbefore) t.name (by simp) rfl
  exact ⟨p, find?_of_before htables hp, position_lt htables hmem hnew, hkey⟩

theorem parent_lt (hr : r.Sound) {p t : Table} (h : r.IsParent p t) :
    r.position p < r.position t ∧ t.ExtendsKey p := by
  obtain ⟨ht, i, hi, hp⟩ := h
  obtain ⟨p', hp', hlt, hkey⟩ := hr.exists_parent ht hi
  rw [hp] at hp'
  cases hp'
  exact ⟨hlt, hkey⟩

/-- What holds from parent to child holds along a whole chain. -/
theorem ancestor_lt (hr : r.Sound) {a t : Table} (h : r.IsAncestor a t) :
    r.position a < r.position t ∧ t.ExtendsKey a := by
  induction h with
  | single h => exact hr.parent_lt h
  | tail _ h ih =>
    obtain ⟨hlt, hkey⟩ := hr.parent_lt h
    exact ⟨Nat.lt_trans ih.1 hlt, hkey.trans ih.2⟩

theorem wellFounded_isParent (hr : r.Sound) : WellFounded r.IsParent := by
  apply Subrelation.wf _ (measure r.position).wf
  intro p t h
  exact (hr.parent_lt h).1

end Sound
end Registry

/-- In a registry reached by declarations every interleaved table has its parent. An ancestor is
registered strictly before the table, and its key properly starts the key of the table, with the
same names, directions and column types; no chain of parents is endless. -/
theorem interleave_hierarchy (r : Registry) (hr : r.Reachable) :
    (∀ t ∈ r.tables, t.interleave.isSome → ∃ p ∈ r.tables, r.IsParent p t) ∧
      (∀ a t, r.IsAncestor a t → r.position a < r.position t ∧
        a.primaryKey <+: t.primaryKey ∧ a.primaryKey.length < t.primaryKey.length ∧
        ∀ k ∈ a.primaryKey, ∃ ac ∈ a.columns, ∃ tc ∈ t.columns,
          ac.name = k.name ∧ tc.name = k.name ∧ ac.type = tc.type) ∧
      WellFounded r.IsParent := by
  refine ⟨?_, ?_, hr.sound.wellFounded_isParent⟩
  · intro t ht hsome
    obtain ⟨i, hi⟩ := Option.isSome_iff_exists.mp hsome
    obtain ⟨p, hp, -⟩ := hr.sound.exists_parent ht hi
    exact ⟨p, List.mem_of_find?_eq_some hp, ht, i, hi, hp⟩
  · intro a t h
    obtain ⟨hlt, hkey⟩ := hr.sound.ancestor_lt h
    refine ⟨hlt, hkey.starts, hkey.longer, ?_⟩
    intro k hk
    obtain ⟨ac, tc, hac, htc, htype⟩ := hkey.types k hk
    obtain ⟨haname, hamem⟩ := Table.column_ok hac
    obtain ⟨htname, htmem⟩ := Table.column_ok htc
    exact ⟨ac, hamem, tc, htmem, haname, htname, htype⟩

namespace Sample

def comments : TableDefinition where
  name := "comments"
  columns := [⟨"id", "string", false, false, none, false⟩,
    ⟨"number", "int64", false, false, none, false⟩, ⟨"at", "timestamp", false, false, none, true⟩]
  primaryKeys := [.bare "id", .entry "number" true, .bare "at"]
  interleave := some ⟨"posts", false⟩

/-- Declarations of which the first comes too early and the fourth repeats a name. -/
def declarations : List (Catalog × TableDefinition) :=
  [(kinds, comments), (kinds, users), (kinds, posts), (kinds, users), (kinds, comments)]

end Sample

/-- The table at the top is an ancestor of the one two levels below. -/
theorem interleave_hierarchy_comments :
    ∃ users posts comments,
      (Registry.empty.attemptAll Sample.declarations).tables = [users, posts, comments] ∧
      (Registry.empty.attemptAll Sample.declarations).IsAncestor users comments ∧
      users.primaryKey <+: comments.primaryKey := by
  have htop : (Registry.empty.attemptAll Sample.declarations).IsAncestor _ _ :=
    .tail (.single ⟨List.mem_cons_of_mem _ List.mem_cons_self, _, rfl, rfl⟩)
      ⟨List.mem_cons_of_mem _ (List.mem_cons_of_mem _ List.mem_cons_self), _, rfl, rfl⟩
  have hprefix := (interleave_hierarchy _ ⟨Sample.declarations, rfl⟩).2.1 _ _ htop
  exact ⟨_, _, _, rfl, htop, hprefix.2.1⟩

end SchemaLoom
