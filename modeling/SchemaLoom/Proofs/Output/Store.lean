import Mathlib.Data.Finset.Sort
import Mathlib.Data.String.Basic
import SchemaLoom.Output.Sink

/-!
# The sink as a store of files

A client asks the sink for files and edits them through the handles it was given, in any order. What
a file holds in the end is made by its own edits alone: the last header, the set of imports in order
and the fragments as they were pushed. Handles are positions in the list of files, given out by an
index beside the list; that the two agree, and that each handle means one file throughout, is an
invariant of whole sequences of calls.
-/
namespace SchemaLoom

namespace Code

theorem mem_insertSorted {path p : String} {paths : List String} :
    p ∈ insertSorted path paths ↔ p = path ∨ p ∈ paths := by
  induction paths with
  | nil => simp [insertSorted]
  | cons q paths ih =>
    unfold insertSorted
    split
    · simp
    · split
      · simp_all
      · simp only [List.mem_cons, ih]
        exact or_left_comm

theorem insertSorted_sortedLT {path : String} {paths : List String} (h : paths.SortedLT) :
    (insertSorted path paths).SortedLT := by
  rw [List.sortedLT_iff_pairwise] at h ⊢
  induction paths with
  | nil => simp [insertSorted]
  | cons q paths ih =>
    obtain ⟨hq, hpaths⟩ := List.pairwise_cons.mp h
    unfold insertSorted
    split
    · rename_i hlt
      refine List.pairwise_cons.mpr ⟨?_, h⟩
      intro p hp
      rcases List.mem_cons.mp hp with rfl | hp
      · exact hlt
      · exact hlt.trans (hq p hp)
    · rename_i hle
      split
      · exact h
      · rename_i hne
        refine List.pairwise_cons.mpr ⟨?_, ih hpaths⟩
        intro p hp
        rcases mem_insertSorted.mp hp with rfl | hp
        · exact lt_of_le_of_ne (not_lt.mp hle) (Ne.symm hne)
        · exact hq p hp

/-- Insertion into the members of a set in order. -/
theorem insertSorted_sort (path : String) (s : Finset String) :
    insertSorted path s.sort = (insert path s).sort := by
  apply (insertSorted_sortedLT s.sortedLT_sort).eq_of_mem_iff (Finset.sortedLT_sort _)
  intro p
  simp [mem_insertSorted]

end Code

namespace Output

/-- What is done to a file through its handle. -/
inductive Edit where
  | push (fragment : String)
  | addImport (path : String)
  | setHeader (header : String)
deriving DecidableEq, Repr

namespace Edit

def apply (e : Edit) (s : Sink) (handle : Nat) : Sink :=
  match e with
  | .push fragment => s.push handle fragment
  | .addImport path => s.addImport handle path
  | .setHeader header => s.setHeader handle header

/-- What the edit makes of the file that it is about. -/
def change (e : Edit) (f : OutputFile) : OutputFile :=
  match e with
  | .push fragment => { f with fragments := f.fragments ++ [fragment] }
  | .addImport path => { f with imports := Code.insertSorted path f.imports }
  | .setHeader header => { f with header := some header }

theorem apply_eq (e : Edit) (s : Sink) (handle : Nat) :
    e.apply s handle = s.modify handle e.change := by
  cases e <;> rfl

def fragment? : Edit → Option String
  | .push fragment => some fragment
  | _ => none

def import? : Edit → Option String
  | .addImport path => some path
  | _ => none

def header? : Edit → Option String
  | .setHeader header => some header
  | _ => none

end Edit

def OutputFile.ofEdits (path : String) (es : List Edit) : OutputFile where
  path
  header := (es.filterMap Edit.header?).getLast?
  imports := (es.filterMap Edit.import?).toFinset.sort
  fragments := es.filterMap Edit.fragment?

theorem OutputFile.ofEdits_nil (path : String) : ofEdits path [] = { path } := by
  simp [ofEdits]

theorem OutputFile.ofEdits_concat (path : String) (es : List Edit) (e : Edit) :
    ofEdits path (es ++ [e]) = e.change (ofEdits path es) := by
  cases e with
  | push fragment =>
    simp [ofEdits, Edit.change, Edit.header?, Edit.import?, Edit.fragment?, List.filterMap_cons]
  | setHeader header =>
    simp [ofEdits, Edit.change, Edit.header?, Edit.import?, Edit.fragment?, List.filterMap_cons]
  | addImport path =>
    simp [ofEdits, Edit.change, Edit.header?, Edit.import?, Edit.fragment?, List.filterMap_cons,
      Code.insertSorted_sort]

/-! ## Sequences of calls -/

/-- A call on a sink. An edit goes through the handle that an earlier request returned; requests are
counted from zero. -/
inductive Call where
  | file (path : String)
  | edit (request : Nat) (e : Edit)
deriving DecidableEq, Repr

/-- A sink and the handles that it has returned, in the order of the requests. -/
structure Session where
  sink : Sink
  handles : List Nat
deriving DecidableEq, Repr

namespace Session

def start : Session := ⟨.empty, []⟩

/-- The session after one more call. A request that has not been made has no handle, and nothing can
be done through it. -/
def call (s : Session) : Call → Session
  | .file path => ⟨(s.sink.file path).2, s.handles ++ [(s.sink.file path).1]⟩
  | .edit request e =>
    match s.handles[request]? with
    | some handle => ⟨e.apply s.sink handle, s.handles⟩
    | none => s

def run (s : Session) (calls : List Call) : Session := calls.foldl call s

end Session

/-! ## What a file is made of -/

/-- The paths as they were first spelt, in the order in which they first came. -/
def firstSpelt : List String → List String
  | [] => []
  | p :: ps => p :: (firstSpelt ps).filter (!samePath p ·)

def Call.path? : Call → Option String
  | .file path => some path
  | .edit .. => none

def requests (calls : List Call) : List String := calls.filterMap Call.path?

def places (calls : List Call) : List String := firstSpelt (requests calls)

/-- The edits of the file at a path in order; `asked` are the paths asked for before the calls. -/
def editsAfter (asked : List String) (path : String) : List Call → List Edit
  | [] => []
  | .file q :: calls => editsAfter (asked ++ [q]) path calls
  | .edit request e :: calls =>
    if (asked[request]?).any (samePath path) then e :: editsAfter asked path calls
    else editsAfter asked path calls

def editsOf (path : String) (calls : List Call) : List Edit := editsAfter [] path calls

/-- The text that the calls put into the file at a path. -/
def content (path : String) (calls : List Call) : String :=
  (OutputFile.ofEdits path (editsOf path calls)).render

theorem samePath_iff {p q : String} : samePath p q = true ↔ pathKey p = pathKey q :=
  decide_eq_true_iff

@[simp] theorem requests_append (calls calls' : List Call) :
    requests (calls ++ calls') = requests calls ++ requests calls' := List.filterMap_append

theorem mem_keys_firstSpelt {key : PathKey} {ps : List String} :
    key ∈ (firstSpelt ps).map pathKey ↔ key ∈ ps.map pathKey := by
  induction ps with
  | nil => rfl
  | cons p ps ih =>
    by_cases hkey : key = pathKey p
    · simp [firstSpelt, hkey]
    · have hne : ∀ q, pathKey q = key → pathKey p ≠ pathKey q := by
        rintro q rfl
        exact Ne.symm hkey
      simp only [firstSpelt, List.map_cons, List.mem_cons, hkey, false_or, ← ih, List.mem_map,
        List.mem_filter, Bool.not_eq_true', ← Bool.not_eq_true, samePath_iff]
      constructor
      · rintro ⟨q, ⟨hq, -⟩, rfl⟩
        exact ⟨q, hq, rfl⟩
      · rintro ⟨q, hq, rfl⟩
        exact ⟨q, ⟨hq, hne q rfl⟩, rfl⟩

theorem nodup_keys_firstSpelt (ps : List String) : ((firstSpelt ps).map pathKey).Nodup := by
  induction ps with
  | nil => exact .nil
  | cons p ps ih =>
    rw [firstSpelt, List.map_cons, List.nodup_cons]
    constructor
    · rintro h
      obtain ⟨q, hq, hkey⟩ := List.mem_map.mp h
      have hdiffers := (List.mem_filter.mp hq).2
      simp [samePath, hkey] at hdiffers
    · exact ih.sublist (List.filter_sublist.map _)

theorem firstSpelt_sublist (ps : List String) : (firstSpelt ps).Sublist ps := by
  induction ps with
  | nil => exact .slnil
  | cons p ps ih => exact (List.filter_sublist.trans ih).cons_cons p

/-- A path that comes once more adds nothing, and a new one comes last. -/
theorem firstSpelt_concat (ps : List String) (p : String) :
    firstSpelt (ps ++ [p]) =
      if pathKey p ∈ ps.map pathKey then firstSpelt ps else firstSpelt ps ++ [p] := by
  induction ps with
  | nil => simp [firstSpelt]
  | cons q ps ih =>
    rw [List.cons_append, firstSpelt, ih]
    by_cases hlater : pathKey p ∈ ps.map pathKey
    · have hknown : pathKey p ∈ (q :: ps).map pathKey := List.mem_cons_of_mem _ hlater
      rw [if_pos hlater, if_pos hknown, firstSpelt]
    · by_cases hfirst : pathKey q = pathKey p
      · have hsame : samePath q p = true := samePath_iff.mpr hfirst
        rw [if_neg hlater, if_pos (by simp [hfirst]), List.filter_append, firstSpelt]
        simp [hsame]
      · have hdiffers : samePath q p = false := by simpa [samePath] using hfirst
        have hnew : pathKey p ∉ (q :: ps).map pathKey := by
          simpa [Ne.symm hfirst] using hlater
        rw [if_neg hlater, if_neg hnew, List.filter_append, firstSpelt]
        simp [hdiffers]

theorem editsAfter_append (asked : List String) (path : String) (calls calls' : List Call) :
    editsAfter asked path (calls ++ calls') =
      editsAfter asked path calls ++ editsAfter (asked ++ requests calls) path calls' := by
  induction calls generalizing asked with
  | nil => simp [editsAfter, requests]
  | cons c calls ih =>
    cases c with
    | file q => simp [editsAfter, ih, requests, Call.path?]
    | edit request e =>
      simp only [List.cons_append, editsAfter, ih, requests, Call.path?, List.filterMap_cons]
      split <;> rfl

/-- The edits depend on the meaning of the path and not on how it is spelt. -/
theorem editsAfter_congr {p q : String} (h : pathKey p = pathKey q) (asked : List String)
    (calls : List Call) : editsAfter asked p calls = editsAfter asked q calls := by
  have hsame : samePath p = samePath q := by
    funext r
    simp [samePath, h]
  induction calls generalizing asked with
  | nil => rfl
  | cons c calls ih => cases c <;> simp only [editsAfter, hsame, ih]

theorem content_congr {p q : String} (h : pathKey p = pathKey q) (calls : List Call) :
    content p calls = content q calls := by
  rw [content, content, editsOf, editsAfter_congr h]
  rfl

/-- Nothing is done to a file that is never asked for. -/
theorem editsAfter_of_notMem {asked : List String} {path : String} {calls : List Call}
    (h : pathKey path ∉ (asked ++ requests calls).map pathKey) :
    editsAfter asked path calls = [] := by
  induction calls generalizing asked with
  | nil => rfl
  | cons c calls ih =>
    cases c with
    | file q => exact ih (by simpa [requests, Call.path?] using h)
    | edit request e =>
      have hother : (asked[request]?).any (samePath path) = false := by
        rw [← Bool.not_eq_true, Option.any_eq_true]
        rintro ⟨q, hq, hsame⟩
        apply h
        rw [samePath_iff.mp hsame]
        exact List.mem_map_of_mem (List.mem_append_left _ (List.mem_of_getElem? hq))
      rw [editsAfter, hother]
      exact ih h

/-- The number of the file at a path once `asked` have been asked for. -/
def position (asked : List String) (path : String) : Nat :=
  ((firstSpelt asked).map pathKey).idxOf (pathKey path)

section
variable {asked : List String} {p q : String}

theorem position_eq_iff (hp : pathKey p ∈ asked.map pathKey) :
    position asked p = position asked q ↔ samePath p q = true := by
  rw [samePath_iff, position, position, List.idxOf_inj (mem_keys_firstSpelt.mpr hp)]

/-- Later requests leave the number of a file as it is. -/
theorem position_concat (hp : pathKey p ∈ asked.map pathKey) :
    position (asked ++ [q]) p = position asked p := by
  rw [position, firstSpelt_concat]
  split
  · rfl
  · rw [List.map_append, List.idxOf_append_of_mem (mem_keys_firstSpelt.mpr hp), position]

theorem position_new (hp : pathKey p ∉ asked.map pathKey) :
    position (asked ++ [p]) p = (firstSpelt asked).length := by
  rw [position, firstSpelt_concat, if_neg hp, List.map_append,
    List.idxOf_append_of_notMem (mt mem_keys_firstSpelt.mp hp)]
  simp

theorem position_of_getElem? {j : Nat} (h : (firstSpelt asked)[j]? = some q) :
    position asked q = j := by
  obtain ⟨hj, rfl⟩ := List.getElem?_eq_some_iff.mp h
  have hkey := (nodup_keys_firstSpelt asked).idxOf_getElem j (by simpa using hj)
  rwa [List.getElem_map] at hkey

theorem getElem?_position (hp : pathKey p ∈ asked.map pathKey) :
    ∃ first, (firstSpelt asked)[position asked p]? = some first ∧ pathKey first = pathKey p := by
  have hfound := List.getElem?_idxOf (mem_keys_firstSpelt.mpr hp)
  rwa [List.getElem?_map, Option.map_eq_some_iff] at hfound

end

theorem PathIndex.find?_insert (x : PathIndex) (p : String) (number : Nat) (q : String) :
    (x.insert p number).find? q = if samePath q p then some number else x.find? q := by
  rw [insert, find?, List.find?_cons, List.find?_filter]
  cases hsame : samePath q p with
  | true => rfl
  | false =>
    -- what was under the path is not found by another one
    have hother (e : String × Nat) :
        decide ((!samePath p e.1) = true ∧ samePath q e.1 = true) = samePath q e.1 := by
      cases he : samePath q e.1 with
      | false => simp
      | true =>
        have hp : samePath p e.1 = false := by
          simpa [samePath, ← samePath_iff.mp he, eq_comm] using hsame
        simp [hp]
    simp only [hother, Bool.false_eq_true, if_false]
    rfl

/-- The index has the paths asked for and no others, each with its number. -/
def PathIndex.Numbers (x : PathIndex) (asked : List String) : Prop :=
  ∀ p, x.find? p = if pathKey p ∈ asked.map pathKey then some (position asked p) else none

/-- A request finds the file of that path, or adds one. -/
theorem Sink.file_eq {s : Sink} {asked : List String} (hindex : s.index.Numbers asked)
    (hlength : s.files.length = (firstSpelt asked).length) (p : String) :
    s.file p = (position (asked ++ [p]) p, if pathKey p ∈ asked.map pathKey then s else
      ⟨s.files ++ [{ path := p }], s.index.insert p s.files.length⟩) := by
  by_cases hp : pathKey p ∈ asked.map pathKey
  · rw [Sink.file, hindex p, if_pos hp, if_pos hp, position_concat hp]
  · rw [Sink.file, hindex p, if_neg hp, if_neg hp, position_new hp, hlength]

/-- One more request keeps the index in step with the files. -/
theorem Sink.file_numbers {s : Sink} {asked : List String} (hindex : s.index.Numbers asked)
    (hlength : s.files.length = (firstSpelt asked).length) (p : String) :
    (s.file p).2.index.Numbers (asked ++ [p]) := by
  intro q
  have hmem : pathKey q ∈ (asked ++ [p]).map pathKey ↔
      pathKey q ∈ asked.map pathKey ∨ samePath q p = true := by
    simp [samePath_iff]
  rw [Sink.file_eq hindex hlength]
  by_cases hq : pathKey q ∈ asked.map pathKey
  · have hfound : s.index.find? q = some (position (asked ++ [p]) q) := by
      rw [hindex q, if_pos hq, position_concat hq]
    rw [if_pos (hmem.mpr (.inl hq)), ← hfound]
    by_cases hp : pathKey p ∈ asked.map pathKey
    · rw [if_pos hp]
    · have hdiffers : samePath q p = false := by
        rw [← Bool.not_eq_true, samePath_iff]
        exact fun hkey => hp (hkey ▸ hq)
      rw [if_neg hp, PathIndex.find?_insert, hdiffers]
      rfl
  · have hnone : s.index.find? q = none := by rw [hindex q, if_neg hq]
    by_cases hsame : samePath q p = true
    · have hp : pathKey p ∉ asked.map pathKey := samePath_iff.mp hsame ▸ hq
      rw [if_pos (hmem.mpr (.inr hsame)), if_neg hp, PathIndex.find?_insert, if_pos hsame, hlength,
        ← position_new hp, position, position, samePath_iff.mp hsame]
    · rw [if_neg (mt hmem.mp (not_or.mpr ⟨hq, hsame⟩))]
      split
      · exact hnone
      · rw [PathIndex.find?_insert, if_neg hsame]
        exact hnone

namespace Session

/-- The sink holds what the calls made of every file, its index has the numbers of the files, and
the handles are the numbers of the files asked for. -/
structure Represents (s : Session) (calls : List Call) : Prop where
  files : s.sink.files = (places calls).map fun p => .ofEdits p (editsOf p calls)
  index : s.sink.index.Numbers (requests calls)
  handles : s.handles = (requests calls).map (position (requests calls))

variable {s : Session} {calls : List Call}

theorem Represents.start : Represents start [] := ⟨rfl, fun _ => rfl, rfl⟩

theorem Represents.length (h : s.Represents calls) :
    s.sink.files.length = (firstSpelt (requests calls)).length := by
  rw [h.files, List.length_map, places]

/-- A request changes no file and gives no handle a new meaning. -/
theorem Represents.file (h : s.Represents calls) (path : String) :
    (s.call (.file path)).Represents (calls ++ [.file path]) := by
  have hrequests : requests (calls ++ [.file path]) = requests calls ++ [path] := by
    rw [requests_append]
    rfl
  have hedits (p : String) : editsOf p (calls ++ [.file path]) = editsOf p calls := by
    rw [editsOf, editsAfter_append]
    exact List.append_nil _
  have hfile := Sink.file_eq h.index h.length path
  refine ⟨?_, ?_, ?_⟩
  · simp only [call, hfile, places, hrequests, firstSpelt_concat, hedits]
    split
    · exact h.files
    · rename_i hnew
      have hnone : editsOf path calls = [] := editsAfter_of_notMem hnew
      rw [List.map_append, List.map_singleton, hnone, OutputFile.ofEdits_nil, h.files, places]
  · rw [hrequests]
    exact Sink.file_numbers h.index h.length path
  · simp only [call, hfile, hrequests, List.map_append, List.map_singleton, h.handles]
    congr 1
    apply List.map_congr_left
    intro p hp
    exact (position_concat (List.mem_map_of_mem hp)).symm

/-- An edit changes the file of its handle and no other. -/
theorem Represents.edit (h : s.Represents calls) (request : Nat) (e : Edit) :
    (s.call (.edit request e)).Represents (calls ++ [.edit request e]) := by
  have hrequests : requests (calls ++ [.edit request e]) = requests calls := by
    rw [requests_append]
    exact List.append_nil _
  have hedits (p : String) : editsOf p (calls ++ [.edit request e]) = editsOf p calls ++
      if ((requests calls)[request]?).any (samePath p) then [e] else [] := by
    rw [editsOf, editsAfter_append, List.nil_append]
    rfl
  cases hasked : (requests calls)[request]? with
  | none =>
    have hsame : s.call (.edit request e) = s := by
      simp [call, h.handles, hasked]
    rw [hsame]
    refine ⟨?_, hrequests ▸ h.index, by rw [hrequests, h.handles]⟩
    simp only [places, hrequests, hedits, hasked, h.files]
    simp
  | some q =>
    have hcall : s.call (.edit request e) =
        ⟨s.sink.modify (position (requests calls) q) e.change, s.handles⟩ := by
      simp [call, h.handles, hasked, Edit.apply_eq]
    have hq : pathKey q ∈ (requests calls).map pathKey :=
      List.mem_map_of_mem (List.mem_of_getElem? hasked)
    rw [hcall]
    refine ⟨?_, hrequests ▸ h.index, by rw [hrequests, h.handles]⟩
    apply List.ext_getElem?
    intro j
    simp only [Sink.modify, h.files, List.getElem?_modify, List.getElem?_map, places, hrequests,
      hedits, hasked]
    cases hj : (firstSpelt (requests calls))[j]? with
    | none => rfl
    | some p =>
      -- the file of the handle is the one at this place exactly if the paths agree
      have hplace : position (requests calls) q = j ↔ samePath p q = true := by
        rw [← position_of_getElem? hj, position_eq_iff hq, samePath_iff, samePath_iff, eq_comm]
      by_cases hpq : samePath p q = true
      · simp [hplace.mpr hpq, hpq, OutputFile.ofEdits_concat]
      · simp [mt hplace.mp hpq, hpq]

theorem Represents.call (h : s.Represents calls) (c : Call) :
    (s.call c).Represents (calls ++ [c]) := by
  cases c with
  | file path => exact h.file path
  | edit request e => exact h.edit request e

/-- A sequence of calls keeps what one call keeps. -/
theorem Represents.run (h : s.Represents calls) (more : List Call) :
    (s.run more).Represents (calls ++ more) := by
  induction more generalizing s calls with
  | nil =>
    rw [List.append_nil]
    exact h
  | cons c more ih =>
    have hnext := ih (h.call c)
    rwa [List.append_assoc] at hnext

theorem represents_run (calls : List Call) : (start.run calls).Represents calls :=
  Represents.start.run calls

/-- What a client can rely on after its calls. -/
structure Faithful (s : Session) (calls : List Call) : Prop where
  answered : s.handles.length = (requests calls).length
  /-- The index has a path exactly under the number of the file at that path. -/
  indexed : ∀ (p : String) (i : Nat), s.sink.index.find? p = some i ↔
    ∃ f, s.sink.files[i]? = some f ∧ samePath f.path p = true
  /-- Two requests have one handle exactly if they asked for the same path. -/
  handles : ∀ (j k : Nat) (p q : String) (g h : Nat), (requests calls)[j]? = some p →
    (requests calls)[k]? = some q → s.handles[j]? = some g → s.handles[k]? = some h →
      (g = h ↔ samePath p q = true)
  /-- The handle of a request reads what was done to the path asked for. -/
  reads : ∀ (k : Nat) (p : String) (h : Nat), (requests calls)[k]? = some p →
    s.handles[k]? = some h → s.sink.render? h = some (content p calls)
  once : ((places calls).map pathKey).Nodup
  all : ∀ key, key ∈ (places calls).map pathKey ↔ key ∈ (requests calls).map pathKey
  lists : s.sink.renderAll = (places calls).map fun p => (p, content p calls)

theorem Represents.handle (h : s.Represents calls) {k : Nat} {p : String} {i : Nat}
    (hp : (requests calls)[k]? = some p) (hi : s.handles[k]? = some i) :
    i = position (requests calls) p := by
  rw [h.handles, List.getElem?_map, hp, Option.map_some, Option.some.injEq] at hi
  exact hi.symm

/-- The index and the files agree. -/
theorem Represents.indexed (h : s.Represents calls) (p : String) (i : Nat) :
    s.sink.index.find? p = some i ↔ ∃ f, s.sink.files[i]? = some f ∧ samePath f.path p = true := by
  rw [h.index p, Option.ite_none_right_eq_some, h.files]
  simp only [List.getElem?_map, Option.map_eq_some_iff, places, samePath_iff]
  constructor
  · rintro ⟨hp, hi⟩
    obtain ⟨first, hfirst, hkey⟩ := getElem?_position hp
    cases hi
    exact ⟨_, ⟨first, hfirst, rfl⟩, hkey⟩
  · rintro ⟨_, ⟨first, hfirst, rfl⟩, (hkey : pathKey first = pathKey p)⟩
    have hmem : pathKey first ∈ (firstSpelt (requests calls)).map pathKey :=
      List.mem_map_of_mem (List.mem_of_getElem? hfirst)
    have hposition := position_of_getElem? hfirst
    rw [position, hkey] at hposition
    exact ⟨hkey ▸ mem_keys_firstSpelt.mp hmem, congrArg some hposition⟩

theorem Represents.faithful (h : s.Represents calls) : s.Faithful calls where
  answered := by rw [h.handles, List.length_map]
  indexed := h.indexed
  handles := by
    intro j k p q i i' hp hq hi hi'
    rw [h.handle hp hi, h.handle hq hi']
    exact position_eq_iff (List.mem_map_of_mem (List.mem_of_getElem? hp))
  reads := by
    intro k p i hp hi
    rw [h.handle hp hi]
    obtain ⟨first, hfirst, hkey⟩ :=
      getElem?_position (List.mem_map_of_mem (f := pathKey) (List.mem_of_getElem? hp))
    rw [Sink.render?, h.files, List.getElem?_map, places, hfirst, content_congr hkey.symm]
    rfl
  once := nodup_keys_firstSpelt _
  all := fun _ => mem_keys_firstSpelt
  lists := by
    rw [Sink.renderAll, h.files, List.map_map]
    rfl

/-- Handles that were returned stay what they are. -/
theorem handles_run (s : Session) (calls : List Call) : s.handles <+: (s.run calls).handles := by
  induction calls generalizing s with
  | nil => exact List.prefix_rfl
  | cons c calls ih =>
    have hcall : s.handles <+: (s.call c).handles := by
      cases c with
      | file path => exact List.prefix_append ..
      | edit request e =>
        simp only [Session.call]
        split <;> exact List.prefix_rfl
    exact hcall.trans (ih (s.call c))

end Session

/-- Two sequences of calls ask for the same files in the same order of first requests, and do the
same to each: the last header, the set of imports and the fragments in order. -/
structure SameWork (calls calls' : List Call) : Prop where
  places : (places calls).map pathKey = (places calls').map pathKey
  header : ∀ p ∈ requests calls, ((editsOf p calls).filterMap Edit.header?).getLast? =
    ((editsOf p calls').filterMap Edit.header?).getLast?
  imports : ∀ p ∈ requests calls, ∀ path,
    path ∈ (editsOf p calls).filterMap Edit.import? ↔
      path ∈ (editsOf p calls').filterMap Edit.import?
  fragments : ∀ p ∈ requests calls, (editsOf p calls).filterMap Edit.fragment? =
    (editsOf p calls').filterMap Edit.fragment?

theorem SameWork.content_eq {calls calls' : List Call} (h : SameWork calls calls') {p : String}
    (hp : p ∈ requests calls) : content p calls = content p calls' := by
  have himports : ((editsOf p calls).filterMap Edit.import?).toFinset =
      ((editsOf p calls').filterMap Edit.import?).toFinset := by
    ext path
    rw [List.mem_toFinset, List.mem_toFinset]
    exact h.imports p hp path
  rw [content, content, OutputFile.ofEdits, OutputFile.ofEdits, h.header p hp, himports,
    h.fragments p hp]

/-- The same work gives the same files under the same paths. -/
theorem SameWork.contents_eq {calls calls' : List Call} (h : SameWork calls calls') :
    (Output.places calls).map (fun p => (pathKey p, content p calls)) =
      (Output.places calls').map fun p => (pathKey p, content p calls') := by
  have hown : (Output.places calls).map (fun p => (pathKey p, content p calls)) =
      (Output.places calls).map fun p => (pathKey p, content p calls') := by
    apply List.map_congr_left
    intro p hp
    rw [h.content_eq ((firstSpelt_sublist _).subset hp)]
  have hkeys := h.places
  rw [← List.forall₂_eq_eq_eq, List.forall₂_map_left_iff, List.forall₂_map_right_iff] at hkeys
  rw [hown, ← List.forall₂_eq_eq_eq, List.forall₂_map_left_iff, List.forall₂_map_right_iff]
  apply hkeys.imp
  intro p q hpq
  rw [hpq, content_congr hpq]

end Output

open Output

/-- After any sequence of calls, every path asked for has a handle of its own, which stays and reads
what was done to that path; the files are listed by first request, each with its own content. So two
sequences that do the same work give the same files, whatever their order. -/
theorem sink_keeps_files (calls : List Call) :
    (Session.start.run calls).Faithful calls ∧
    (∀ more, (Session.start.run calls).handles <+: (Session.start.run (calls ++ more)).handles) ∧
    ∀ calls', SameWork calls calls' →
      (Session.start.run calls).sink.renderAll.map (Prod.map pathKey id) =
        (Session.start.run calls').sink.renderAll.map (Prod.map pathKey id) ∧
      (places calls = places calls' →
        (Session.start.run calls).sink.renderAll = (Session.start.run calls').sink.renderAll) := by
  have hfaithful (calls : List Call) := (Session.represents_run calls).faithful
  refine ⟨hfaithful calls, ?_, ?_⟩
  · intro more
    have hmore : Session.start.run (calls ++ more) = (Session.start.run calls).run more :=
      List.foldl_append
    rw [hmore]
    exact Session.handles_run _ more
  · intro calls' hwork
    rw [(hfaithful calls).lists, (hfaithful calls').lists]
    constructor
    · rw [List.map_map, List.map_map]
      exact hwork.contents_eq
    · intro hplaces
      rw [← hplaces]
      apply List.map_congr_left
      intro p hp
      rw [hwork.content_eq ((firstSpelt_sublist _).subset hp)]

namespace Sample

/-- Two files edited in turn, one of them under two spellings of its path. -/
def interleaved : List Call :=
  [.file "out/a.rs", .file "b.json", .edit 0 (.push "one"), .edit 1 (.setHeader "draft"),
    .edit 0 (.addImport "std::fmt"), .file "out//a.rs", .edit 2 (.addImport "core::mem"),
    .edit 1 (.setHeader "final"), .edit 0 (.addImport "std::fmt"), .edit 2 (.push "two")]

def separate : List Call :=
  [.file "out/a.rs", .edit 0 (.addImport "core::mem"), .edit 0 (.addImport "std::fmt"),
    .edit 0 (.push "one"), .edit 0 (.push "two"), .file "b.json", .edit 1 (.setHeader "final")]

theorem interleaved_sameWork : SameWork interleaved separate where
  places := by decide
  header := by decide
  imports := by
    have hlists : ∀ p ∈ requests interleaved,
        (editsOf p interleaved).filterMap Edit.import? ⊆
            (editsOf p separate).filterMap Edit.import? ∧
          (editsOf p separate).filterMap Edit.import? ⊆
            (editsOf p interleaved).filterMap Edit.import? := by
      decide
    intro p hp path
    exact ⟨fun h => (hlists p hp).1 h, fun h => (hlists p hp).2 h⟩
  fragments := by decide

end Sample

theorem sink_keeps_files_interleaved :
    (Session.start.run Sample.interleaved).handles = [0, 1, 0] ∧
    (Session.start.run Sample.interleaved).sink.renderAll =
      (Session.start.run Sample.separate).sink.renderAll ∧
    content "out//a.rs" Sample.interleaved =
      "use core::mem;\nuse std::fmt;\n\none\n\ntwo\n" := by
  obtain ⟨hfaithful, -, hsame⟩ := sink_keeps_files Sample.interleaved
  refine ⟨by decide, (hsame _ Sample.interleaved_sameWork).2 (by decide), ?_⟩
  have hread := hfaithful.reads 2 "out//a.rs" 0 (by decide) (by decide)
  have hrender : (Session.start.run Sample.interleaved).sink.render? 0 =
      some "use core::mem;\nuse std::fmt;\n\none\n\ntwo\n" := by decide +kernel
  rw [hrender, Option.some.injEq] at hread
  exact hread.symm

end SchemaLoom
