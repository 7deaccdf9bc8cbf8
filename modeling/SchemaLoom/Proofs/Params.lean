import SchemaLoom.Params
import SchemaLoom.Proofs.Distinct

/-!
# Binding runs

A run of bindings succeeds only with names that are not empty, and leaves every bound name once,
at the place of its first binding. Runs compose: binding one list after another is binding the
lists joined. From a state that bindings lead to, the runs that succeed are exactly those in which
no name changes its wire type.
-/
namespace SchemaLoom
open Compiled

namespace Params

def names (ps : Params) : List String := ps.bound.map (·.name)

@[simp] theorem names_empty : names empty = [] := rfl

theorem find?_eq_none {ps : Params} {name : String} :
    ps.find? name = none ↔ name ∉ ps.names := by
  simp [find?, names]

theorem mem_names_of_find? {ps : Params} {name : String} {q : Param}
    (h : ps.find? name = some q) : name ∈ ps.names := by
  have hq : q.name = name := by simpa using List.find?_some h
  exact List.mem_map.mpr ⟨q, List.mem_of_find?_eq_some h, hq⟩

/-- All that one binding can do: it finds its name bound with the same wire type, or appends it. -/
theorem bind_ok_iff {ps next : Params} {p : Param} {text : String} :
    ps.bind p = (.ok text, next) ↔ text = placeholder p.name ∧ p.name ≠ "" ∧
      ((∃ q, ps.find? p.name = some q ∧ q.type.wireType = p.type.wireType ∧ next = ps) ∨
        (ps.find? p.name = none ∧ next = ⟨ps.bound ++ [p]⟩)) := by
  unfold bind
  by_cases hne : p.name = ""
  · simp [hne]
  · cases hf : ps.find? p.name with
    | none => simp [hne, eq_comm]
    | some q =>
      by_cases hw : q.type.wireType = p.type.wireType
      · simp [hne, hw, eq_comm]
      · simp [hne, hw]

/-- A refused binding changes nothing. -/
theorem bind_cases (ps : Params) (p : Param) :
    (∃ next, ps.bind p = (.ok (placeholder p.name), next)) ∨ ∃ e, ps.bind p = (.error e, ps) := by
  unfold bind
  split
  · exact .inr ⟨_, rfl⟩
  · split
    · split
      · exact .inl ⟨_, rfl⟩
      · exact .inr ⟨_, rfl⟩
    · exact .inl ⟨_, rfl⟩

theorem bindAll_cons {ps next : Params} {b : Param} {bs : List Param} :
    ps.bindAll (b :: bs) = .ok next ↔
      ∃ mid, ps.bind b = (.ok (placeholder b.name), mid) ∧ mid.bindAll bs = .ok next := by
  rcases ps.bind_cases b with ⟨mid, h⟩ | ⟨e, h⟩
  · simp [bindAll, h]
  · simp [bindAll, h]

theorem names_bind {ps next : Params} {p : Param} {text : String}
    (h : ps.bind p = (.ok text, next)) :
    p.name ≠ "" ∧ next.names = ps.names ++ [p.name].removeAll ps.names := by
  obtain ⟨-, hne, ⟨q, hq, -, rfl⟩ | ⟨hq, rfl⟩⟩ := bind_ok_iff.mp h
  · have hmem := mem_names_of_find? hq
    exact ⟨hne, by simp [List.cons_removeAll, hmem]⟩
  · have hmem := find?_eq_none.mp hq
    refine ⟨hne, ?_⟩
    rw [List.cons_removeAll]
    simp [names, show p.name ∉ ps.bound.map (·.name) from hmem]

theorem bindAll_append {ps next : Params} {bs cs : List Param} :
    ps.bindAll (bs ++ cs) = .ok next ↔
      ∃ mid, ps.bindAll bs = .ok mid ∧ mid.bindAll cs = .ok next := by
  induction bs generalizing ps with
  | nil => simp [bindAll]
  | cons b bs ih =>
    simp only [List.cons_append, bindAll_cons, ih]
    constructor
    · rintro ⟨one, hone, mid, hmid, hnext⟩
      exact ⟨mid, ⟨one, hone, hmid⟩, hnext⟩
    · rintro ⟨mid, ⟨one, hone, hmid⟩, hnext⟩
      exact ⟨one, hone, mid, hmid, hnext⟩

theorem take_eq_ok {ps next : Params} {d : Draft} {text : String} :
    ps.take d = .ok (text, next) ↔ text = d.sql ∧ ps.bindAll d.params = .ok next := by
  simp only [take, map_eq_ok, Prod.mk.injEq]
  constructor
  · rintro ⟨ps', h, rfl, rfl⟩
    exact ⟨rfl, h⟩
  · rintro ⟨rfl, h⟩
    exact ⟨next, h, rfl, rfl⟩

/-- After a run every old name keeps its place and each new one follows at its first binding. -/
theorem names_bindAll {ps next : Params} {bs : List Param} (h : ps.bindAll bs = .ok next) :
    next.names = ps.names ++ ((bs.map (·.name)).removeAll ps.names).eraseDups := by
  induction bs generalizing ps with
  | nil =>
    cases h
    simp
  | cons b bs ih =>
    obtain ⟨mid, hb, hbs⟩ := bindAll_cons.mp h
    rw [ih hbs]
    rw [(names_bind hb).2, List.map_cons, List.append_assoc]
    congr 1
    by_cases hmem : b.name ∈ ps.names
    · simp [List.cons_removeAll, hmem]
    · have hrest : (bs.map (·.name)).removeAll (ps.names ++ [b.name]) =
          ((bs.map (·.name)).removeAll ps.names).filter (fun n => !n == b.name) := by
        simp [List.removeAll, Bool.and_comm, Bool.beq_eq_decide_eq]
      simp [List.cons_removeAll, hmem, hrest, List.eraseDups_cons]

theorem nodup_bind {ps next : Params} {p : Param} {text : String}
    (h : ps.bind p = (.ok text, next)) (hps : ps.names.Nodup) : next.names.Nodup := by
  obtain ⟨-, -, ⟨q, -, -, rfl⟩ | ⟨hq, rfl⟩⟩ := bind_ok_iff.mp h
  · exact hps
  · simpa [names] using List.Nodup.concat (find?_eq_none.mp hq) hps

theorem nodup_bindAll {ps next : Params} {bs : List Param} (h : ps.bindAll bs = .ok next)
    (hps : ps.names.Nodup) : next.names.Nodup := by
  induction bs generalizing ps with
  | nil =>
    cases h
    exact hps
  | cons b bs ih =>
    obtain ⟨mid, hb, hbs⟩ := bindAll_cons.mp h
    exact ih hbs (nodup_bind hb hps)

theorem names_ne_empty {ps next : Params} {bs : List Param} (h : ps.bindAll bs = .ok next) :
    ∀ b ∈ bs, b.name ≠ "" := by
  induction bs generalizing ps with
  | nil => simp
  | cons b bs ih =>
    obtain ⟨mid, hb, hbs⟩ := bindAll_cons.mp h
    exact List.forall_mem_cons.mpr ⟨(names_bind hb).1, ih hbs⟩

/-- Bindings of names that are all new are appended as they stand. -/
theorem bindAll_of_fresh {ps : Params} {bs : List Param} (hfresh : Fresh ps.names (bs.map (·.name)))
    (hnamed : ∀ b ∈ bs, b.name ≠ "") : ps.bindAll bs = .ok ⟨ps.bound ++ bs⟩ := by
  induction bs generalizing ps with
  | nil => simp [bindAll]
  | cons b bs ih =>
    rw [List.map_cons, fresh_cons] at hfresh
    rw [List.forall_mem_cons] at hnamed
    have hbind : ps.bind b = (.ok (placeholder b.name), ⟨ps.bound ++ [b]⟩) :=
      bind_ok_iff.mpr ⟨rfl, hnamed.1, .inr ⟨find?_eq_none.mpr hfresh.1, rfl⟩⟩
    have hrest : Fresh (Params.names ⟨ps.bound ++ [b]⟩) (bs.map (·.name)) := by
      simpa [names] using hfresh.2
    have hnext := ih hrest hnamed.2
    rw [List.append_assoc, List.singleton_append] at hnext
    exact bindAll_cons.mpr ⟨_, hbind, hnext⟩

/-- A run from nothing binds exactly the names of the list, each at its first place. -/
theorem names_bindAll_empty {next : Params} {bs : List Param} (h : empty.bindAll bs = .ok next) :
    next.names = (bs.map (·.name)).eraseDups := by
  simpa using names_bindAll h

/-- The states that bindings lead to, those that were refused among them. -/
inductive Reachable : Params → Prop where
  | empty : Reachable Params.empty
  | bind {ps : Params} (p : Param) (hps : Reachable ps) : Reachable (ps.bind p).2

end Params

/-- Two bindings of one name can stand together if their wire types agree. -/
def Param.Compatible (p q : Param) : Prop :=
  p.name = q.name → p.type.wireType = q.type.wireType

namespace Params

/-- A sequence of bindings that can follow those made before: every name is given, and none is
bound again with another wire type. -/
structure Admits (ps : Params) (bs : List Param) : Prop where
  named : ∀ b ∈ bs, b.name ≠ ""
  before : ∀ p ∈ ps.bound, ∀ b ∈ bs, p.Compatible b
  among : bs.Pairwise Param.Compatible

/-- The bindings of names that are new, each at the first place where the name stands. -/
def firstBindings (seen : List String) : List Param → List Param
  | [] => []
  | b :: bs =>
    if b.name ∈ seen then firstBindings seen bs else b :: firstBindings (seen ++ [b.name]) bs

theorem admits_nil (ps : Params) : ps.Admits [] := by
  constructor <;> simp

variable {ps next : Params} {b : Param} {bs : List Param}

theorem find?_eq_some (hps : ps.names.Nodup) {name : String} {q : Param} :
    ps.find? name = some q ↔ q ∈ ps.bound ∧ q.name = name :=
  find?_eq_some_of_nodup hps

/-- A binding succeeds where the rest can follow it exactly if both can follow what is bound. -/
theorem admits_cons (hps : ps.names.Nodup) :
    ps.Admits (b :: bs) ↔ ∃ mid, ps.bind b = (.ok (placeholder b.name), mid) ∧ mid.Admits bs := by
  constructor
  · intro h
    have hne := h.named b List.mem_cons_self
    have hafter := List.pairwise_cons.mp h.among
    cases hfind : ps.find? b.name with
    | some q =>
      obtain ⟨hq, hname⟩ := (find?_eq_some hps).mp hfind
      have hwire := h.before q hq b List.mem_cons_self hname
      refine ⟨ps, bind_ok_iff.mpr ⟨rfl, hne, .inl ⟨q, hfind, hwire, rfl⟩⟩, ?_, ?_, hafter.2⟩
      · exact fun c hc => h.named c (List.mem_cons_of_mem b hc)
      · exact fun p hp c hc => h.before p hp c (List.mem_cons_of_mem b hc)
    | none =>
      refine ⟨_, bind_ok_iff.mpr ⟨rfl, hne, .inr ⟨hfind, rfl⟩⟩, ?_, ?_, hafter.2⟩
      · exact fun c hc => h.named c (List.mem_cons_of_mem b hc)
      · intro p hp c hc
        rcases List.mem_append.mp hp with hp | hp
        · exact h.before p hp c (List.mem_cons_of_mem b hc)
        · rw [List.mem_singleton.mp hp]
          exact hafter.1 c hc
  · rintro ⟨mid, hbind, h⟩
    obtain ⟨-, hne, ⟨q, hfind, hwire, rfl⟩ | ⟨hfind, rfl⟩⟩ := bind_ok_iff.mp hbind
    · obtain ⟨hq, hname⟩ := (find?_eq_some hps).mp hfind
      refine ⟨List.forall_mem_cons.mpr ⟨hne, h.named⟩, ?_, List.pairwise_cons.mpr ⟨?_, h.among⟩⟩
      · intro p hp
        refine List.forall_mem_cons.mpr ⟨?_, h.before p hp⟩
        intro hpb
        -- names are bound once, so this is the parameter that was found
        have hpq := (find?_eq_some hps).mpr ⟨hp, hpb⟩
        rw [hfind] at hpq
        cases hpq
        exact hwire
      · intro c hc hbc
        exact hwire.symm.trans (h.before q hq c hc (hname.trans hbc))
    · have hnew := find?_eq_none.mp hfind
      refine ⟨List.forall_mem_cons.mpr ⟨hne, h.named⟩, ?_, List.pairwise_cons.mpr ⟨?_, h.among⟩⟩
      · intro p hp
        refine List.forall_mem_cons.mpr ⟨?_, h.before p (List.mem_append_left [b] hp)⟩
        intro hpb
        exact absurd (hpb ▸ List.mem_map_of_mem hp) hnew
      · exact h.before b (by simp)

theorem firstBindings_bind {text : String} (h : ps.bind b = (.ok text, next)) (bs : List Param) :
    next.bound ++ firstBindings next.names bs = ps.bound ++ firstBindings ps.names (b :: bs) := by
  obtain ⟨-, -, ⟨q, hfind, -, rfl⟩ | ⟨hfind, rfl⟩⟩ := bind_ok_iff.mp h
  · rw [firstBindings, if_pos (mem_names_of_find? hfind)]
  · rw [firstBindings, if_neg (find?_eq_none.mp hfind)]
    simp [names]

/-- The runs that succeed, and what they leave bound. -/
theorem bindAll_eq_ok (hps : ps.names.Nodup) :
    ps.bindAll bs = .ok next ↔
      ps.Admits bs ∧ next.bound = ps.bound ++ firstBindings ps.names bs := by
  induction bs generalizing ps with
  | nil =>
    rw [bindAll, firstBindings, List.append_nil]
    constructor
    · intro h
      cases h
      exact ⟨admits_nil _, rfl⟩
    · rintro ⟨-, h⟩
      cases next
      cases h
      rfl
  | cons b bs ih =>
    rw [bindAll_cons, admits_cons hps]
    constructor
    · rintro ⟨mid, hbind, hrest⟩
      obtain ⟨hadmits, hbound⟩ := (ih (nodup_bind hbind hps)).mp hrest
      exact ⟨⟨mid, hbind, hadmits⟩, hbound.trans (firstBindings_bind hbind bs)⟩
    · rintro ⟨⟨mid, hbind, hadmits⟩, hbound⟩
      rw [← firstBindings_bind hbind] at hbound
      exact ⟨mid, hbind, (ih (nodup_bind hbind hps)).mpr ⟨hadmits, hbound⟩⟩

end Params
end SchemaLoom
