import Mathlib.Data.List.Nodup
import SchemaLoom.Proofs.Compiled
import SchemaLoom.Table

/-!
# Distinct names

Lists of named things are checked one after the other against the names seen so far. Where all
names are distinct, a look-up by name finds exactly the member of that name.
-/
namespace SchemaLoom
open Compiled

/-- The names are new: none of them has been seen, and none comes twice. -/
def Fresh (seen names : List String) : Prop := names.Nodup ∧ ∀ n ∈ names, n ∉ seen

@[simp] theorem fresh_nil (seen : List String) : Fresh seen [] := by
  simp [Fresh]

theorem fresh_cons {seen names : List String} {n : String} :
    Fresh seen (n :: names) ↔ n ∉ seen ∧ Fresh (seen ++ [n]) names := by
  simp only [Fresh, List.nodup_cons, List.forall_mem_cons, List.mem_append, List.mem_singleton]
  constructor
  · rintro ⟨⟨hn, hnames⟩, hseen, hrest⟩
    refine ⟨hseen, hnames, ?_⟩
    rintro m hm (hm' | rfl)
    · exact hrest m hm hm'
    · exact hn hm
  · rintro ⟨hseen, hnames, hrest⟩
    refine ⟨⟨fun hn => hrest n hn (.inr rfl), hnames⟩, hseen, ?_⟩
    intro m hm hm'
    exact hrest m hm (.inl hm')

theorem fresh_append {seen names names' : List String} :
    Fresh seen (names ++ names') ↔ Fresh seen names ∧ Fresh (seen ++ names) names' := by
  induction names generalizing seen with
  | nil => simp
  | cons n names ih => simp [fresh_cons, ih, and_assoc]

theorem fresh_of_nothing {names : List String} : Fresh [] names ↔ names.Nodup := by
  simp [Fresh]

theorem find?_eq_some_of_nodup {α : Type} {l : List α} {name : α → String}
    (h : (l.map name).Nodup) {n : String} {a : α} :
    l.find? (name · = n) = some a ↔ a ∈ l ∧ name a = n := by
  induction l with
  | nil => simp
  | cons b l ih =>
    rw [List.map_cons, List.nodup_cons] at h
    by_cases hb : name b = n
    · have hl : ∀ c ∈ l, name c ≠ n := by
        intro c hc hcn
        exact h.1 (hb ▸ hcn ▸ List.mem_map_of_mem hc)
      simp only [List.find?_cons, hb, decide_true, Option.some.injEq, List.mem_cons]
      constructor
      · rintro rfl
        exact ⟨.inl rfl, hb⟩
      · rintro ⟨rfl | ha, han⟩
        · rfl
        · exact absurd han (hl a ha)
    · simp only [List.find?_cons, hb, decide_false, ih h.2, List.mem_cons]
      constructor
      · rintro ⟨ha, han⟩
        exact ⟨.inr ha, han⟩
      · rintro ⟨rfl | ha, han⟩
        · exact absurd han hb
        · exact ⟨ha, han⟩

theorem findColumn_eq_ok {table : String} {columns : List Column}
    (h : (columns.map (·.name)).Nodup) {n : String} {c : Column} :
    findColumn table columns n = .ok c ↔ c ∈ columns ∧ c.name = n := by
  rw [findColumn, orError_eq_ok]
  exact find?_eq_some_of_nodup h

theorem Table.column_eq_ok {t : Table} (h : (t.columns.map (·.name)).Nodup) {n : String}
    {c : Column} : t.column n = .ok c ↔ c ∈ t.columns ∧ c.name = n :=
  findColumn_eq_ok h

end SchemaLoom
