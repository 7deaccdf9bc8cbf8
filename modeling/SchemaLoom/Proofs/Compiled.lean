import SchemaLoom.Error

/-!
# Inversion of compilation steps

A compilation is a sequence of steps that may fail. These rules say what a success of each
combinator means, so that a successful compilation can be taken apart step by step without
unfolding the steps themselves.
-/
namespace SchemaLoom.Compiled

variable {α β : Type}

theorem bind_eq_ok {x : Compiled α} {f : α → Compiled β} {b : β} :
    x >>= f = .ok b ↔ ∃ a, x = .ok a ∧ f a = .ok b := by
  cases x with
  | error e => simp [bind, Except.bind]
  | ok a => simp [bind, Except.bind]

theorem map_eq_ok {x : Compiled α} {f : α → β} {b : β} :
    f <$> x = .ok b ↔ ∃ a, x = .ok a ∧ f a = b := by
  cases x with
  | error e => simp [Functor.map, Except.map]
  | ok a => simp [Functor.map, Except.map]

theorem pure_eq_ok {a b : α} : (pure a : Compiled α) = .ok b ↔ a = b := by
  simp [pure, Except.pure]

theorem within_eq_ok {label : String} {x : Compiled α} {a : α} :
    within label x = .ok a ↔ x = .ok a := by
  cases x <;> simp [within]

theorem ensure_eq_ok {condition : Bool} {e : CompileError} {u : Unit} :
    ensure condition e = .ok u ↔ condition = true := by
  cases condition <;> simp [ensure]

theorem orError_eq_ok {e : CompileError} {o : Option α} {a : α} :
    orError e o = .ok a ↔ o = some a := by
  cases o <;> simp [orError]

theorem forAll_eq_ok {check : α → Compiled Unit} {as : List α} {u : Unit} :
    forAll check as = .ok u ↔ ∀ a ∈ as, check a = .ok () := by
  induction as with
  | nil => simp [forAll]
  | cons a as ih =>
    rw [forAll, bind_eq_ok, List.forall_mem_cons, ← ih]
    constructor
    · rintro ⟨⟨⟩, ha, has⟩
      exact ⟨ha, has⟩
    · rintro ⟨ha, has⟩
      exact ⟨(), ha, has⟩

end SchemaLoom.Compiled
