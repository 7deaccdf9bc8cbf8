import Mathlib.Data.List.Pairwise
import SchemaLoom.Proofs.Params

/-!
# Parameters on request

A binding is a request for a parameter. It is granted and the placeholder given, or it is refused
and the parameters stay as they were. So after any sequence of requests the parameters are those
that the granted requests alone would have bound, and whether a request is granted depends on
nothing but its name and the wire types of the granted requests before it.
-/
namespace SchemaLoom
open Compiled

namespace Params

def requestAll (ps : Params) : List Param → Params
  | [] => ps
  | p :: calls => (ps.bind p).2.requestAll calls

/-- The requests of a sequence, each with its answer. -/
def transcript (ps : Params) : List Param → List (Param × Compiled String)
  | [] => []
  | p :: calls => (p, (ps.bind p).1) :: (ps.bind p).2.transcript calls

def granted (answers : List (Param × Compiled String)) : List Param :=
  (answers.filter (·.2.isOk)).map (·.1)

theorem requestAll_append (ps : Params) (before calls : List Param) :
    ps.requestAll (before ++ calls) = (ps.requestAll before).requestAll calls := by
  induction before generalizing ps with
  | nil => rfl
  | cons p before ih => exact ih _

theorem transcript_append (ps : Params) (before calls : List Param) :
    ps.transcript (before ++ calls) =
      ps.transcript before ++ (ps.requestAll before).transcript calls := by
  induction before generalizing ps with
  | nil => rfl
  | cons p before ih => exact congrArg _ (ih _)

/-- The granted requests of a sequence, first to last. -/
theorem granted_transcript_cons (ps : Params) (p : Param) (calls : List Param) :
    (∃ next, ps.bind p = (.ok (placeholder p.name), next) ∧
      granted (ps.transcript (p :: calls)) = p :: granted (next.transcript calls)) ∨
    ∃ e, ps.bind p = (.error e, ps) ∧
      granted (ps.transcript (p :: calls)) = granted (ps.transcript calls) := by
  rcases ps.bind_cases p with ⟨next, h⟩ | ⟨e, h⟩
  · exact .inl ⟨next, h, by simp [transcript, granted, h, Except.isOk, Except.toBool]⟩
  · exact .inr ⟨e, h, by simp [transcript, granted, h, Except.isOk, Except.toBool]⟩

/-- The granted requests can be bound one after the other, and lead to the same parameters. -/
theorem bindAll_granted (ps : Params) (calls : List Param) :
    ps.bindAll (granted (ps.transcript calls)) = .ok (ps.requestAll calls) := by
  induction calls generalizing ps with
  | nil => rfl
  | cons p calls ih =>
    rcases ps.granted_transcript_cons p calls with ⟨next, h, hgranted⟩ | ⟨e, h, hgranted⟩
    · rw [hgranted, requestAll, h]
      exact bindAll_cons.mpr ⟨next, h, ih next⟩
    · rw [hgranted, requestAll, h]
      exact ih ps

/-- Made alone, the granted requests get the answers they got among the others. -/
theorem transcript_granted (ps : Params) (calls : List Param) :
    ps.transcript (granted (ps.transcript calls)) = (ps.transcript calls).filter (·.2.isOk) := by
  induction calls generalizing ps with
  | nil => rfl
  | cons p calls ih =>
    rcases ps.granted_transcript_cons p calls with ⟨next, h, hgranted⟩ | ⟨e, h, hgranted⟩
    · rw [hgranted, transcript, transcript, h, ih]
      rfl
    · rw [hgranted, ih, transcript, h]
      rfl

theorem requestAll_granted (ps : Params) (calls : List Param) :
    ps.requestAll (granted (ps.transcript calls)) = ps.requestAll calls := by
  have hall : granted ((ps.transcript calls).filter (·.2.isOk)) = granted (ps.transcript calls) := by
    simp [granted]
  have hbind := ps.bindAll_granted (granted (ps.transcript calls))
  rw [transcript_granted, hall, bindAll_granted] at hbind
  exact (Except.ok.inj hbind).symm

section FirstBindings

variable {seen : List String} {bs : List Param} {p q : Param}

theorem find?_of_mem_firstBindings (h : q ∈ firstBindings seen bs) :
    q.name ∉ seen ∧ bs.find? (·.name = q.name) = some q := by
  induction bs generalizing seen with
  | nil => simp [firstBindings] at h
  | cons b bs ih =>
    by_cases hb : b.name ∈ seen
    · rw [firstBindings, if_pos hb] at h
      obtain ⟨hnew, hfind⟩ := ih h
      have hne : b.name ≠ q.name := fun heq => hnew (heq ▸ hb)
      exact ⟨hnew, by simp [hne, hfind]⟩
    · rw [firstBindings, if_neg hb, List.mem_cons] at h
      rcases h with rfl | h
      · exact ⟨hb, by simp⟩
      · obtain ⟨hnew, hfind⟩ := ih h
        rw [List.mem_append, List.mem_singleton, not_or] at hnew
        exact ⟨hnew.1, by simp [Ne.symm hnew.2, hfind]⟩

theorem exists_mem_firstBindings (hp : p ∈ bs) (hnew : p.name ∉ seen) :
    ∃ q ∈ firstBindings seen bs, q.name = p.name := by
  induction bs generalizing seen with
  | nil => cases hp
  | cons b bs ih =>
    by_cases hb : b.name ∈ seen
    · rw [firstBindings, if_pos hb]
      rcases List.mem_cons.mp hp with rfl | hp
      · exact absurd hb hnew
      · exact ih hp hnew
    · rw [firstBindings, if_neg hb]
      by_cases hpb : p.name = b.name
      · exact ⟨b, List.mem_cons_self, hpb.symm⟩
      · have hp : p ∈ bs := (List.mem_cons.mp hp).resolve_left fun h => hpb (h ▸ rfl)
        have hnew : p.name ∉ seen ++ [b.name] := by simp [hnew, hpb]
        obtain ⟨q, hq, hname⟩ := ih hp hnew
        exact ⟨q, List.mem_cons_of_mem b hq, hname⟩

end FirstBindings

instance : Std.Symm Param.Compatible := ⟨fun _ _ h hname => (h hname.symm).symm⟩

theorem Admits.compatible {ps : Params} {bs : List Param} (h : ps.Admits bs) :
    ∀ p ∈ bs, ∀ q ∈ bs, p.Compatible q := by
  intro p hp q hq
  exact h.among.forall_of_forall (fun _ _ _ => rfl) hp hq

/-- What a sequence of requests leaves, in terms of the requests that were granted. -/
structure Settled (past : List Param) (ps : Params) : Prop where
  names : ps.names = (past.map (·.name)).eraseDups
  distinct : ps.names.Nodup
  first : ∀ q ∈ ps.bound, past.find? (·.name = q.name) = some q
  listed : ∀ p ∈ past, ∃ q ∈ ps.bound, q.name = p.name ∧ q.type.wireType = p.type.wireType

theorem settled_requestAll (calls : List Param) :
    Settled (granted (empty.transcript calls)) (empty.requestAll calls) := by
  have hbind := empty.bindAll_granted calls
  obtain ⟨hadmits, hbound⟩ := (bindAll_eq_ok (by simp)).mp hbind
  have hfirst : ∀ q ∈ (empty.requestAll calls).bound,
      (granted (empty.transcript calls)).find? (·.name = q.name) = some q := by
    intro q hq
    rw [hbound] at hq
    exact (find?_of_mem_firstBindings hq).2
  refine ⟨names_bindAll_empty hbind, nodup_bindAll hbind (by simp), hfirst, ?_⟩
  intro p hp
  obtain ⟨q, hq, hname⟩ := exists_mem_firstBindings hp List.not_mem_nil
  have hq : q ∈ (empty.requestAll calls).bound := hbound ▸ hq
  have hpast := List.mem_of_find?_eq_some (hfirst q hq)
  exact ⟨q, hq, hname, hadmits.compatible q hpast p hp hname⟩

/-- A request is refused for want of a name, or because a granted one gave the name another wire
type. -/
theorem Settled.refused_iff {past : List Param} {ps : Params} (h : Settled past ps) (p : Param) :
    (ps.bind p).1.isOk = false ↔ p.name = "" ∨
      ∃ q ∈ past, q.name = p.name ∧ q.type.wireType ≠ p.type.wireType := by
  constructor
  · intro hrefused
    by_cases hname : p.name = ""
    · exact .inl hname
    right
    cases hfind : ps.find? p.name with
    | none =>
      rw [bind_ok_iff.mpr ⟨rfl, hname, .inr ⟨hfind, rfl⟩⟩] at hrefused
      cases hrefused
    | some q =>
      obtain ⟨hq, hqname⟩ := (find?_eq_some h.distinct).mp hfind
      refine ⟨q, List.mem_of_find?_eq_some (h.first q hq), hqname, fun hwire => ?_⟩
      rw [bind_ok_iff.mpr ⟨rfl, hname, .inl ⟨q, hfind, hwire, rfl⟩⟩] at hrefused
      cases hrefused
  · intro hreason
    rcases ps.bind_cases p with ⟨next, hbind⟩ | ⟨e, hrefused⟩
    · exfalso
      obtain ⟨-, hname, hfound⟩ := bind_ok_iff.mp hbind
      obtain ⟨q, hq, hqname, hwire⟩ := hreason.resolve_left hname
      -- the parameter of that name has the wire type of the request that was granted
      obtain ⟨first, hfirst, hfirstname, hfirstwire⟩ := h.listed q hq
      have hfind := (find?_eq_some h.distinct).mpr ⟨hfirst, hfirstname.trans hqname⟩
      rcases hfound with ⟨q', hq', hwire', -⟩ | ⟨hnone, -⟩
      · cases hfind.symm.trans hq'
        exact hwire (hfirstwire.symm.trans hwire')
      · cases hfind.symm.trans hnone
    · rw [hrefused]
      rfl

end Params

open Params in
/-- Requests for parameters, whatever their order. Each is refused exactly if it has no name or a
granted request before it gave the name another wire type; a refused one changes nothing, and a
granted one gives its placeholder. What is bound in the end are the names of the granted requests,
each once and in the order of the first, with the type of the first; every granted request has the
wire type of the parameter it shares. So the refused requests could as well not have been made. -/
theorem parameters_of_requests (calls : List Param) :
    (∀ before p rest, calls = before ++ p :: rest → ∃ answer later,
      empty.transcript calls = empty.transcript before ++ (p, answer) :: later ∧
      (answer.isOk = false ↔ p.name = "" ∨ ∃ q ∈ granted (empty.transcript before),
        q.name = p.name ∧ q.type.wireType ≠ p.type.wireType) ∧
      (answer.isOk = false → empty.requestAll (before ++ [p]) = empty.requestAll before) ∧
      ∀ text, answer = .ok text → text = "@" ++ p.name) ∧
    Settled (granted (empty.transcript calls)) (empty.requestAll calls) ∧
    empty.transcript (granted (empty.transcript calls)) =
      (empty.transcript calls).filter (·.2.isOk) ∧
    empty.requestAll (granted (empty.transcript calls)) = empty.requestAll calls := by
  refine ⟨?_, settled_requestAll calls, empty.transcript_granted calls,
    empty.requestAll_granted calls⟩
  rintro before p rest rfl
  have hafter : empty.requestAll (before ++ [p]) = ((empty.requestAll before).bind p).2 :=
    requestAll_append _ _ _
  refine ⟨_, _, transcript_append _ _ _, (settled_requestAll before).refused_iff p, ?_, ?_⟩
  · intro hrefused
    rw [hafter]
    rcases (empty.requestAll before).bind_cases p with ⟨next, h⟩ | ⟨e, h⟩
    · rw [h] at hrefused
      cases hrefused
    · rw [h]
  · intro text htext
    rcases (empty.requestAll before).bind_cases p with ⟨next, h⟩ | ⟨e, h⟩
    · rw [h] at htext
      exact (Except.ok.inj htext).symm
    · rw [h] at htext
      cases htext

namespace Sample

/-- A name asked for three times, once with another wire type, and a request without a name. -/
def repeated : List Param :=
  [⟨"id", .ofPrimitive .string⟩, ⟨"", .ofPrimitive .string⟩, ⟨"id", .ofPrimitive .int64⟩,
    ⟨"age", .ofPrimitive .int64⟩, ⟨"id", (ColumnType.ofPrimitive .string).asNullable⟩]

end Sample

theorem parameters_of_requests_repeated :
    (Params.empty.transcript Sample.repeated).map (·.2.isOk) = [true, false, false, true, true] ∧
      (Params.empty.requestAll Sample.repeated).bound =
        [⟨"id", .ofPrimitive .string⟩, ⟨"age", .ofPrimitive .int64⟩] ∧
      Params.empty.requestAll (Params.granted (Params.empty.transcript Sample.repeated)) =
        Params.empty.requestAll Sample.repeated :=
  ⟨by decide, by decide, (parameters_of_requests Sample.repeated).2.2.2⟩

end SchemaLoom
