import Mathlib.Data.List.Basic

/-!
# Runs of a guarded transition system

A system has states `σ`, actions `α`, a guard `enabled` that says which action
may happen in which state, and an effect `apply`. A run is a list of actions;
it is admissible when every action is enabled in the state it happens in.

* `execute_invariant`, `Admissible.invariant`: the induction over a run, packaged
  once, without and with a guard.
* `admissible_or_broken`: what the end of a run says about its actions.
* `admissible_append`: runs compose.
-/

namespace SoftwareKvm.Lib

variable {σ α : Type*}

/-- The state at the end of a run. -/
def execute (apply : σ → α → σ) (s : σ) (actions : List α) : σ := actions.foldl apply s

/-- Every action of the run is enabled in the state it happens in. -/
def Admissible (enabled : σ → α → Prop) (apply : σ → α → σ) : σ → List α → Prop
  | _, [] => True
  | s, a :: rest => enabled s a ∧ Admissible enabled apply (apply s a) rest

section

variable {enabled enabled' : σ → α → Prop} {apply : σ → α → σ}

@[simp] theorem execute_nil (s : σ) : execute apply s [] = s := rfl

@[simp] theorem execute_cons (s : σ) (a : α) (l : List α) :
    execute apply s (a :: l) = execute apply (apply s a) l := rfl

/-- An invariant preserved by every action holds at the end of every run. -/
theorem execute_invariant {Inv : σ → Prop} (hstep : ∀ s a, Inv s → Inv (apply s a)) {s : σ}
    (l : List α) (hs : Inv s) : Inv (execute apply s l) := by
  induction l generalizing s with
  | nil => exact hs
  | cons a l ih => exact ih (hstep s a hs)

/-- An invariant preserved by every enabled action holds at the end of every admissible run. -/
theorem Admissible.invariant {Inv : σ → Prop}
    (hstep : ∀ s a, enabled s a → Inv s → Inv (apply s a)) {s : σ} {l : List α}
    (hrun : Admissible enabled apply s l) (hs : Inv s) : Inv (execute apply s l) := by
  induction l generalizing s with
  | nil => exact hs
  | cons a l ih => exact ih hrun.2 (hstep s a hrun.1 hs)

/-- If an action that is not enabled leads to a condition that no action undoes,
    then a run is admissible or ends in that condition. -/
theorem admissible_or_broken {Broken : σ → Prop}
    (hbreak : ∀ s a, ¬ enabled s a → Broken (apply s a))
    (hstep : ∀ s a, Broken s → Broken (apply s a)) (s : σ) (l : List α) :
    Admissible enabled apply s l ∨ Broken (execute apply s l) := by
  induction l generalizing s with
  | nil => exact .inl trivial
  | cons a l ih =>
    by_cases henabled : enabled s a
    · exact (ih (apply s a)).imp_left (⟨henabled, ·⟩)
    · exact .inr (execute_invariant hstep l (hbreak s a henabled))

theorem admissible_append {s : σ} {l l' : List α} :
    Admissible enabled apply s (l ++ l') ↔
      Admissible enabled apply s l ∧ Admissible enabled apply (execute apply s l) l' := by
  induction l generalizing s with
  | nil => simp [Admissible]
  | cons a l ih => simp only [List.cons_append, Admissible, execute_cons, ih, and_assoc]

instance decidableAdmissible [∀ s a, Decidable (enabled s a)] (s : σ) (l : List α) :
    Decidable (Admissible enabled apply s l) :=
  match l with
  | [] => .isTrue trivial
  | a :: rest =>
    have := decidableAdmissible (apply s a) rest
    inferInstanceAs (Decidable (enabled s a ∧ Admissible enabled apply (apply s a) rest))

end

end SoftwareKvm.Lib
