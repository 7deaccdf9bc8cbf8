/-!
# Lines of a text

A text is cut into lines at every line break. Text without a line break stays on the line on which
it begins.
-/
namespace SchemaLoom.Text

def OneLine (s : String) : Prop := '\n' ∉ s.toList

instance (s : String) : Decidable (OneLine s) := inferInstanceAs (Decidable (¬ _))

@[simp] theorem oneLine_append {s t : String} : OneLine (s ++ t) ↔ OneLine s ∧ OneLine t := by
  simp [OneLine]

@[simp] theorem oneLine_intercalate {sep : String} (hsep : OneLine sep) {texts : List String} :
    OneLine (sep.intercalate texts) ↔ ∀ t ∈ texts, OneLine t := by
  induction texts with
  | nil => simp [OneLine]
  | cons t ts ih =>
    cases ts with
    | nil => simp
    | cons u us =>
      rw [String.intercalate_cons_cons, oneLine_append, oneLine_append, ih, List.forall_mem_cons]
      simp [hsep]

/-- The lines of a text, without the line breaks between them. -/
def lines (s : String) : List String := (s.toList.splitOn '\n').map String.ofList

theorem lines_break (s t : String) : lines (s ++ "\n" ++ t) = lines s ++ lines t := by
  have hlist : (s ++ "\n" ++ t).toList = s.toList ++ '\n' :: t.toList := by simp
  rw [lines, hlist, List.splitOn_append_cons_self, List.map_append]
  rfl

theorem OneLine.lines_eq {s : String} (h : OneLine s) : lines s = [s] := by
  rw [lines, List.splitOn_eq_singleton h]
  simp

/-- The parts of a list that is cut at `a` do not have `a`. -/
theorem notMem_of_mem_splitOn {a : Char} {cs part : List Char} (h : part ∈ cs.splitOn a) :
    a ∉ part := by
  induction cs generalizing part with
  | nil => simp_all
  | cons c cs ih =>
    obtain ⟨first, rest, hcs⟩ := List.exists_cons_of_ne_nil (List.splitOn_ne_nil a cs)
    rw [List.splitOn_cons_eq_if_modifyHead, hcs] at h
    rw [hcs] at ih
    split at h
    · rcases List.mem_cons.mp h with rfl | h
      · simp
      · exact ih h
    · rename_i hc
      rcases List.mem_cons.mp h with rfl | h
      · rw [List.mem_cons, not_or]
        exact ⟨fun heq => hc (by simp [heq]), ih List.mem_cons_self⟩
      · exact ih (List.mem_cons_of_mem _ h)

theorem splitOn_append_of_notMem {a : Char} {cs : List Char} (h : a ∉ cs) (ds : List Char) :
    (cs ++ ds).splitOn a = (ds.splitOn a).modifyHead (cs ++ ·) := by
  induction cs with
  | nil =>
    change ds.splitOn a = (ds.splitOn a).modifyHead id
    rw [List.modifyHead_id, id]
  | cons c cs ih =>
    rw [List.mem_cons, not_or] at h
    rw [List.cons_append, List.splitOn_cons_eq_if_modifyHead, ih h.2, List.modifyHead_modifyHead,
      if_neg (by simpa using Ne.symm h.1)]
    rfl

theorem oneLine_of_mem_lines {s l : String} (h : l ∈ lines s) : OneLine l := by
  obtain ⟨part, hpart, rfl⟩ := List.mem_map.mp h
  simpa [OneLine] using notMem_of_mem_splitOn hpart

/-- What has no line break stands before its continuation on one line. -/
theorem OneLine.exists_lines_append {s : String} (h : OneLine s) (t : String) :
    ∃ l ls, lines (s ++ t) = (s ++ l) :: ls := by
  obtain ⟨first, rest, ht⟩ := List.exists_cons_of_ne_nil (List.splitOn_ne_nil '\n' t.toList)
  refine ⟨String.ofList first, rest.map String.ofList, ?_⟩
  rw [lines, String.toList_append, splitOn_append_of_notMem h, ht]
  simp

end SchemaLoom.Text
