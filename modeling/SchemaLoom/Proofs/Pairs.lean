import Mathlib.Data.List.Forall2

/-!
# Lists matched member by member

Where two lists have the same length and their members are related in order, what is said of the
members of one can be said of the other.
-/
namespace SchemaLoom

theorem flatMap_eq_of_forall₂ {α β γ : Type} {R : α → β → Prop} {f : β → List γ}
    {g : α → List γ} {as : List α} {bs : List β} (h : List.Forall₂ R as bs)
    (hfg : ∀ a ∈ as, ∀ b, R a b → f b = g a) : bs.flatMap f = as.flatMap g := by
  induction h with
  | nil => rfl
  | cons hab _ ih =>
    rw [List.flatMap_cons, List.flatMap_cons, hfg _ (by simp) _ hab,
      ih fun a ha => hfg a (by simp [ha])]

theorem exists_of_forall₂ {α β : Type} {R : α → β → Prop} {as : List α} {bs : List β}
    (h : List.Forall₂ R as bs) {a : α} (ha : a ∈ as) : ∃ b, R a b := by
  induction h with
  | nil => cases ha
  | @cons a' b _ _ hab _ ih =>
    rcases List.mem_cons.mp ha with rfl | ha
    · exact ⟨b, hab⟩
    · exact ih ha

variable {α β : Type} {R : α → β → Prop} {as : List α} {bs : List β}

theorem exists_mem_iff_of_forall₂ {P : α → Prop} {Q : β → Prop} (h : List.Forall₂ R as bs)
    (hPQ : ∀ a b, R a b → (P a ↔ Q b)) : (∃ a ∈ as, P a) ↔ ∃ b ∈ bs, Q b := by
  induction h with
  | nil => simp
  | cons hab _ ih => simp [hPQ _ _ hab, ih]

theorem forall_mem_iff_of_forall₂ {P : α → Prop} {Q : β → Prop} (h : List.Forall₂ R as bs)
    (hPQ : ∀ a b, R a b → (P a ↔ Q b)) : (∀ a ∈ as, P a) ↔ ∀ b ∈ bs, Q b := by
  induction h with
  | nil => simp
  | cons hab _ ih => simp [hPQ _ _ hab, ih]

theorem exists_forall₂ (h : ∀ a ∈ as, ∃ b, R a b) : ∃ bs, List.Forall₂ R as bs := by
  induction as with
  | nil => exact ⟨[], .nil⟩
  | cons a as ih =>
    rw [List.forall_mem_cons] at h
    obtain ⟨b, hb⟩ := h.1
    obtain ⟨bs, hbs⟩ := ih h.2
    exact ⟨b :: bs, .cons hb hbs⟩

theorem forall₂_filterMap {f : α → Option β} (h : ∀ a ∈ as, ∃ b, f a = some b) :
    List.Forall₂ (fun a b => f a = some b) as (as.filterMap f) := by
  induction as with
  | nil => exact .nil
  | cons a as ih =>
    rw [List.forall_mem_cons] at h
    obtain ⟨b, hb⟩ := h.1
    rw [List.filterMap_cons_some hb]
    exact .cons hb (ih h.2)

theorem exists_mem_of_forall₂ (h : List.Forall₂ R as bs) {b : β} (hb : b ∈ bs) :
    ∃ a ∈ as, R a b := by
  induction h with
  | nil => cases hb
  | @cons a b' _ _ hab _ ih =>
    rcases List.mem_cons.mp hb with rfl | hb
    · exact ⟨a, List.mem_cons_self, hab⟩
    · obtain ⟨a', ha', hR⟩ := ih hb
      exact ⟨a', List.mem_cons_of_mem _ ha', hR⟩

/-- Where partners are equal exactly if `S` holds, two lists of partners are equal exactly if `S`
holds member by member. -/
theorem eq_iff_forall₂ {α' : Type} {R' : α' → β → Prop} {S : α → α' → Prop} {as' : List α'}
    {bs' : List β} (h : List.Forall₂ R as bs) (h' : List.Forall₂ R' as' bs')
    (hS : ∀ a ∈ as, ∀ a' ∈ as', ∀ b b', R a b → R' a' b' → (b = b' ↔ S a a')) :
    bs = bs' ↔ List.Forall₂ S as as' := by
  induction h generalizing as' bs' with
  | nil => cases h' <;> simp
  | cons hab _ ih =>
    cases h' with
    | nil => simp
    | cons hab' htail' =>
      rw [List.cons.injEq, List.forall₂_cons,
        hS _ List.mem_cons_self _ List.mem_cons_self _ _ hab hab',
        ih htail' fun a ha a' ha' =>
          hS a (List.mem_cons_of_mem _ ha) a' (List.mem_cons_of_mem _ ha')]

end SchemaLoom
