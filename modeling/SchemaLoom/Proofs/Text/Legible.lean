import SchemaLoom.Proofs.Sql.Placeholder

/-!
# Texts that can be read back

A text is put together from parts. It can be taken apart again if the end of every part shows, given
what may follow it: then two texts that agree are made of parts that agree, one by one. Names end
where a name must end, and lists of legible parts are legible themselves.
-/
namespace SchemaLoom.Text

variable {α β : Type}

/-- Parts can be read off the front of a text: where two texts begin with a part and go on with
something that may follow a part, the parts have one key and the texts go on alike. -/
def Legible (follows : String → Prop) (write : α → String) (key : α → β) (part : α → Prop) : Prop :=
  ∀ a b, part a → part b → ∀ x y, follows x → follows y → write a ++ x = write b ++ y →
    key a = key b ∧ x = y

/-- A name ends before the first character that cannot stand in one. -/
theorem IsName.append_inj {m n x y : String} (hm : IsName m) (hn : IsName n) (hx : Stops x)
    (hy : Stops y) (h : m ++ x = n ++ y) : m = n ∧ x = y := by
  have hrun {s t : String} (hs : IsName s) (ht : Stops t) :
      (s ++ t).toList.takeWhile isNameChar = s.toList := by
    rw [String.toList_append, takeWhile_append_stops ht]
    simpa using @List.takeWhile_append_of_pos _ isNameChar _ [] hs
  have hmn : m = n := by
    rw [← String.toList_inj, ← hrun hm hx, h, hrun hn hy]
  subst hmn
  exact ⟨rfl, (String.append_right_inj m).mp h⟩

theorem IsName.append_sep_inj {m n sep x y : String} (hm : IsName m) (hn : IsName n)
    (hsep : sep ≠ "" ∧ Stops sep) (h : m ++ (sep ++ x) = n ++ (sep ++ y)) : m = n ∧ x = y := by
  have hstops (z : String) : Stops (sep ++ z) := stops_append hsep.1 hsep.2
  obtain ⟨hmn, hrest⟩ := hm.append_inj hn (hstops x) (hstops y) h
  exact ⟨hmn, (String.append_right_inj sep).mp hrest⟩

theorem legible_names : Legible Stops id id IsName := fun _ _ ha hb _ _ hx hy h =>
  ha.append_inj hb hx hy h

/-- No text of the list is the beginning of another. -/
def PrefixFree (texts : List String) : Prop :=
  ∀ s ∈ texts, ∀ t ∈ texts, s.toList <+: t.toList → s = t

instance (texts : List String) : Decidable (PrefixFree texts) :=
  inferInstanceAs (Decidable (∀ s ∈ texts, ∀ t ∈ texts, s.toList <+: t.toList → s = t))

/-- A text that begins no other ends where it ends, whatever follows. -/
theorem PrefixFree.append_inj {texts : List String} (h : PrefixFree texts) {s t x y : String}
    (hs : s ∈ texts) (ht : t ∈ texts) (heq : s ++ x = t ++ y) : s = t ∧ x = y := by
  have hlists : s.toList ++ x.toList = t.toList ++ y.toList := by
    rw [← String.toList_append, ← String.toList_append, heq]
  have hst : s = t := by
    rcases List.prefix_or_prefix_of_prefix (List.prefix_append s.toList x.toList)
      (hlists ▸ List.prefix_append t.toList y.toList) with hpre | hpre
    · exact h s hs t ht hpre
    · exact (h t ht s hs hpre).symm
  subst hst
  exact ⟨rfl, (String.append_right_inj s).mp heq⟩

/-- Two texts of which none begins the other do not go on to one text. -/
theorem PrefixFree.append_ne {s t : String} (h : PrefixFree [s, t]) (hne : s ≠ t) (x y : String) :
    s ++ x ≠ t ++ y := fun heq =>
  hne (h.append_inj List.mem_cons_self (List.mem_cons_of_mem _ List.mem_cons_self) heq).1

/-- Which of two texts was written shows in what follows. -/
theorem choice_append_inj {u v x y : String} {b b' : Bool} (hx : u ++ x ≠ v ++ y)
    (hy : u ++ y ≠ v ++ x) (h : (if b then u else v) ++ x = (if b' then u else v) ++ y) :
    b = b' ∧ x = y := by
  cases b <;> cases b'
  · exact ⟨rfl, (String.append_right_inj v).mp h⟩
  · exact absurd h.symm hy
  · exact absurd h hx
  · exact ⟨rfl, (String.append_right_inj u).mp h⟩

variable {follows : String → Prop} {write : α → String} {key : α → β} {part : α → Prop}

/-- Lists of legible parts are legible. The separators are read as well, where there are two parts
to separate. -/
theorem Legible.intercalate (h : Legible follows write key part) {sep sep' : String}
    (hsep : ∀ z, follows (sep ++ z)) (hsep' : ∀ z, follows (sep' ++ z))
    (hseps : ∀ z w, sep ++ z = sep' ++ w → sep = sep') {as bs : List α}
    (has : ∀ a ∈ as, part a) (hbs : ∀ b ∈ bs, part b) (hane : as ≠ []) (hbne : bs ≠ [])
    {x y : String} (hx : follows x) (hy : follows y) (hxend : ∀ z, sep' ++ z ≠ x)
    (hyend : ∀ z, sep ++ z ≠ y)
    (heq : sep.intercalate (as.map write) ++ x = sep'.intercalate (bs.map write) ++ y) :
    as.map key = bs.map key ∧ x = y ∧ (1 < as.length → sep = sep') := by
  induction as generalizing bs with
  | nil => exact absurd rfl hane
  | cons a as ih =>
    cases bs with
    | nil => exact absurd rfl hbne
    | cons b bs =>
      have ha := has a List.mem_cons_self
      have hb := hbs b List.mem_cons_self
      -- what follows the first part tells whether there is another
      cases as with
      | nil =>
        cases bs with
        | nil =>
          obtain ⟨hkey, hxy⟩ := h a b ha hb x y hx hy (by simpa using heq)
          exact ⟨by simp [hkey], hxy, fun hlt => absurd hlt (by simp)⟩
        | cons b' bs =>
          have hrest := (h a b ha hb x _ hx (hsep' (sep'.intercalate ((b' :: bs).map write) ++ y))
            (by simpa [String.intercalate_cons_cons, String.append_assoc] using heq)).2
          exact absurd hrest.symm (hxend _)
      | cons a' as =>
        cases bs with
        | nil =>
          have hrest := (h a b ha hb _ y (hsep (sep.intercalate ((a' :: as).map write) ++ x)) hy
            (by simpa [String.intercalate_cons_cons, String.append_assoc] using heq)).2
          exact absurd hrest (hyend _)
        | cons b' bs =>
          obtain ⟨hkey, hrest⟩ := h a b ha hb _ _
            (hsep (sep.intercalate ((a' :: as).map write) ++ x))
            (hsep' (sep'.intercalate ((b' :: bs).map write) ++ y))
            (by simpa [String.intercalate_cons_cons, String.append_assoc] using heq)
          have hsame := hseps _ _ hrest
          rw [hsame, String.append_right_inj] at hrest
          obtain ⟨hkeys, hxy, -⟩ := ih (fun c hc => has c (List.mem_cons_of_mem _ hc))
            (fun c hc => hbs c (List.mem_cons_of_mem _ hc)) (by simp) (by simp)
            (by rw [hsame]; exact hrest)
          exact ⟨by rw [List.map_cons, hkey, hkeys]; rfl, hxy, fun _ => hsame⟩

theorem Legible.joined (h : Legible follows write key part) (sep : String)
    (hsep : ∀ z, follows (sep ++ z)) {as bs : List α} (has : ∀ a ∈ as, part a)
    (hbs : ∀ b ∈ bs, part b) (hane : as ≠ []) (hbne : bs ≠ []) {x y : String} (hx : follows x)
    (hy : follows y) (hxend : ∀ z, sep ++ z ≠ x) (hyend : ∀ z, sep ++ z ≠ y)
    (heq : sep.intercalate (as.map write) ++ x = sep.intercalate (bs.map write) ++ y) :
    as.map key = bs.map key ∧ x = y := by
  obtain ⟨hkeys, hxy, -⟩ :=
    h.intercalate hsep hsep (fun _ _ _ => rfl) has hbs hane hbne hx hy hxend hyend heq
  exact ⟨hkeys, hxy⟩

theorem Legible.mono {follows' : String → Prop} (h : Legible follows write key part)
    (hsub : ∀ x, follows' x → follows x) : Legible follows' write key part :=
  fun a b ha hb x y hx hy => h a b ha hb x y (hsub x hx) (hsub y hy)

end SchemaLoom.Text
