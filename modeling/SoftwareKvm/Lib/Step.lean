import Mathlib.Order.Defs.Unbundled

/-!
# Fallible operations on a state

`Step ε σ α` is an operation that reads and changes a state `σ` and returns an
`α` or fails with an `ε`. A failure keeps the changes made before it, as a
method on a mutable receiver that returns early does; `do` blocks over `Step`
sequence operations in that way.

`Ensures R x` says that every run of `x` relates the state before to the state
after by `R`, whatever the result. For a reflexive and transitive `R` it is
closed under all the ways operations are composed, so what a component may do
to a state is proved from what its parts may do.

`Triple p x q f` is the pre- and postcondition form, with one postcondition for
the result and one for the failure.
-/

namespace SoftwareKvm.Lib

/-- A sequence of checks that succeeds went through its first part. -/
theorem except_bind_eq_ok {ε α β : Type} {x : Except ε α} {f : α → Except ε β} {b : β} :
    (x >>= f) = .ok b ↔ ∃ a, x = .ok a ∧ f a = .ok b := by
  cases x with
  | error e => simp [bind, Except.bind]
  | ok a => simp [bind, Except.bind]

/-- An operation on a state `σ` with result `α` and failure `ε`. -/
def Step (ε σ α : Type) : Type := σ → Except ε α × σ

namespace Step

variable {ε ε' σ τ α β : Type} (x : Step ε σ α)

/-- Continue with the result of `x`; a failure ends the operation. -/
protected def bind (f : α → Step ε σ β) : Step ε σ β := fun s =>
  match x s with
  | (.ok a, s) => f a s
  | (.error e, s) => (.error e, s)

instance : Monad (Step ε σ) where
  pure a := fun s => (.ok a, s)
  bind := Step.bind

/-- Fail with `e`. -/
def fail (e : ε) : Step ε σ α := fun s => (.error e, s)

/-- A check or a look at the state that leaves it alone. -/
def check (f : σ → Except ε α) : Step ε σ α := fun s => (f s, s)

/-- What `f` reads of the state. -/
def read (f : σ → α) : Step ε σ α := fun s => (.ok (f s), s)

/-- Change the state by `f`. -/
def update (f : σ → σ) : Step ε σ Unit := fun s => (.ok (), f s)

/-- The value that the state provides, or the failure `e`. -/
def need (e : ε) (f : σ → Option α) : Step ε σ α := fun s =>
  match f s with
  | some a => (.ok a, s)
  | none => (.error e, s)

/-- Fail with `e` where the state does not satisfy `p`. -/
def guard (e : ε) (p : σ → Bool) : Step ε σ Unit := fun s =>
  if p s then (.ok (), s) else (.error e, s)

/-- Run `x` and hand its result or failure to the rest of the operation. -/
def attempt (x : Step ε' σ α) : Step ε σ (Except ε' α) := fun s => (.ok (x s).1, (x s).2)

/-- Translate the failures of `x`. -/
def mapError (f : ε' → ε) (x : Step ε' σ α) : Step ε σ α := fun s => ((x s).1.mapError f, (x s).2)

/-- Run an operation of a component of the state. -/
def zoom (get : σ → τ) (set : σ → τ → σ) (x : Step ε τ α) : Step ε σ α := fun s =>
  ((x (get s)).1, set s (x (get s)).2)

/-- The state after `x`, its result dropped. -/
def ignore (s : σ) : σ := (x s).2

/-- Run `cleanup` after a failure of `x`, which is still the result. -/
def onError (cleanup : σ → σ) : Step ε σ α := fun s =>
  match x s with
  | (.ok a, s) => (.ok a, s)
  | (.error e, s) => (.error e, cleanup s)

/-- Run `f` on the elements of a list, up to the first failure. -/
def each (f : β → Step ε σ Unit) : List β → Step ε σ Unit
  | [] => pure ()
  | b :: rest => do
    f b
    each f rest

/-! ## Evaluation -/

theorem bind_apply (f : α → Step ε σ β) (s : σ) : (x >>= f) s = match x s with
      | (.ok a, s) => f a s
      | (.error e, s) => (.error e, s) := rfl

variable {f : α → Step ε σ β} {s : σ}

theorem bind_of_ok {x : Step ε σ α} {s' : σ} {a : α}
    (h : x s = (.ok a, s')) : (x >>= f) s = f a s' := by
  rw [bind_apply, h]

variable {e : ε}

theorem bind_of_error {x : Step ε σ α} {s' : σ} (h : x s = (.error e, s')) :
    (x >>= f) s = (.error e, s') := by
  rw [bind_apply, h]

theorem guard_of_true {p : σ → Bool} (h : p s = true) : guard e p s = (.ok (), s) := if_pos h

theorem guard_of_false {p : σ → Bool} (h : p s = false) : guard e p s = (.error e, s) :=
  if_neg (by simp [h])

theorem need_of_some {f : σ → Option α} {a : α} (h : f s = some a) : need e f s = (.ok a, s) := by
  simp [need, h]

theorem check_of_ok {f : σ → Except ε α} {a : α} (h : f s = .ok a) : check f s = (.ok a, s) := by
  rw [check, h]

theorem check_of_error {f : σ → Except ε α} (h : f s = .error e) : check f s = (.error e, s) := by
  rw [check, h]

/-- A sequence that succeeds went through its first part. -/
theorem bind_eq_ok {x : Step ε σ α} {s' : σ} {b : β}
    (h : (x >>= f) s = (.ok b, s')) : ∃ a s₁, x s = (.ok a, s₁) ∧ f a s₁ = (.ok b, s') := by
  rw [bind_apply] at h
  generalize x s = r at h ⊢
  obtain ⟨_ | a, s₁⟩ := r
  · cases h
  · exact ⟨a, s₁, rfl, h⟩

theorem need_eq_ok {f : σ → Option α} {s' : σ} {a : α} (h : need e f s = (.ok a, s')) :
    f s = some a ∧ s' = s := by
  unfold need at h
  cases hf : f s with
  | none =>
    rw [hf] at h
    cases h
  | some b =>
    rw [hf] at h
    cases h
    exact ⟨rfl, rfl⟩

theorem guard_eq_ok {p : σ → Bool} {s' : σ} {u : Unit} (h : guard e p s = (.ok u, s')) :
    p s = true ∧ s' = s := by
  unfold guard at h
  split at h
  · rename_i hp
    cases h
    exact ⟨hp, rfl⟩
  · cases h

/-! ## What an operation may do to the state -/

/-- Both states agree on what `f` reads of them. -/
def Same (f : σ → τ) (s s' : σ) : Prop := f s' = f s

instance (f : σ → τ) : Std.Refl (Same f) := ⟨fun _ => rfl⟩

instance (f : σ → τ) : IsTrans σ (Same f) := ⟨fun _ _ _ h h' => Eq.trans h' h⟩

/-- Every run of `x` relates the state before to the state after by `R`. -/
def Ensures (R : σ → σ → Prop) (x : Step ε σ α) : Prop := ∀ s, R s (x s).2

section Rules

variable {R : σ → σ → Prop} {x : Step ε σ α}

theorem Ensures.mono {R' : σ → σ → Prop} (hx : Ensures R x) (h : ∀ s s', R s s' → R' s s') :
    Ensures R' x := fun s => h _ _ (hx s)

theorem Ensures.mapError {y : Step ε' σ α} (hy : Ensures R y) (f : ε' → ε) :
    Ensures R (y.mapError f) := hy

theorem Ensures.attempt {y : Step ε' σ α} (hy : Ensures R y) :
    Ensures R (y.attempt : Step ε σ (Except ε' α)) := hy

theorem Ensures.zoom {get : σ → τ} {set : σ → τ → σ} {y : Step ε τ α}
    (h : ∀ s, R s (set s (y (get s)).2)) : Ensures R (y.zoom get set) := h

theorem Ensures.update {f : σ → σ} (h : ∀ s, R s (f s)) :
    Ensures R (Step.update f : Step ε σ Unit) := h

theorem Ensures.onError [IsTrans σ R] {cleanup : σ → σ} (hx : Ensures R x)
    (hcleanup : ∀ s, R s (cleanup s)) : Ensures R (x.onError cleanup) := by
  intro s
  have h := hx s
  unfold Step.onError
  generalize x s = r at h ⊢
  obtain ⟨_ | a, s'⟩ := r
  · exact trans_of R h (hcleanup s')
  · exact h

section Refl

variable [Std.Refl R]

theorem Ensures.pure (a : α) : Ensures R (pure a : Step ε σ α) := fun s => refl_of R s

theorem Ensures.fail (e : ε) : Ensures R (Step.fail e : Step ε σ α) := fun s => refl_of R s

theorem Ensures.check (f : σ → Except ε α) : Ensures R (Step.check f) := fun s => refl_of R s

theorem Ensures.read (f : σ → α) : Ensures R (Step.read f : Step ε σ α) := fun s => refl_of R s

theorem Ensures.need (e : ε) (f : σ → Option α) : Ensures R (Step.need e f) := by
  intro s
  unfold Step.need
  cases f s with
  | none => exact refl_of R s
  | some _ => exact refl_of R s

theorem Ensures.guard (e : ε) (p : σ → Bool) : Ensures R (Step.guard e p) := by
  intro s
  unfold Step.guard
  split
  · exact refl_of R s
  · exact refl_of R s

end Refl

theorem Ensures.bind [IsTrans σ R] {f : α → Step ε σ β} (hx : Ensures R x)
    (hf : ∀ a, Ensures R (f a)) : Ensures R (x >>= f) := by
  intro s
  have h := hx s
  rw [bind_apply]
  generalize x s = r at h ⊢
  obtain ⟨_ | a, s'⟩ := r
  · exact h
  · exact trans_of R h (hf a s')

theorem Ensures.each [Std.Refl R] [IsTrans σ R] {f : β → Step ε σ Unit} (hf : ∀ b, Ensures R (f b))
    (l : List β) : Ensures R (Step.each f l) := by
  induction l with
  | nil => exact .pure ()
  | cons b l ih => exact .bind (hf b) fun _ => ih

end Rules

/-! ## Pre- and postconditions -/

/-- From a state that satisfies `p`, the operation ends in one that satisfies
    `q` of its result, or fails in one that satisfies `f`. -/
def Triple (p : σ → Prop) (x : Step ε σ α) (q : α → σ → Prop) (f : σ → Prop) : Prop :=
  ∀ s, p s → match x s with
    | (.ok a, s') => q a s'
    | (.error _, s') => f s'

namespace Triple

variable {p p' : σ → Prop} {q q' : α → σ → Prop} {f : σ → Prop} {x : Step ε σ α}

theorem bind {r : β → σ → Prop} {g : α → Step ε σ β} (hx : Triple p x q f)
    (hg : ∀ a, Triple (q a) (g a) r f) : Triple p (x >>= g) r f := by
  intro s hs
  have h := hx s hs
  rw [bind_apply]
  generalize x s = result at h ⊢
  obtain ⟨_ | a, s'⟩ := result
  · exact h
  · exact hg a s' h

theorem conseq (hx : Triple p x q f) (hp : ∀ s, p' s → p s) (hq : ∀ a s, q a s → q' a s) :
    Triple p' x q' f := by
  intro s hs
  have h := hx s (hp s hs)
  generalize x s = result at h ⊢
  obtain ⟨_ | a, s'⟩ := result
  · exact h
  · exact hq a s' h

/-- A fact that does not depend on the state is available throughout. -/
theorem of_fact {φ : Prop} (hx : φ → Triple p x q f) : Triple (fun s => p s ∧ φ) x q f :=
  fun s hs => hx hs.2 s hs.1

variable {e : ε} {y : Step ε' σ α}

/-- What a run that failed says. -/
theorem of_error (hx : Triple p x q f) {s s' : σ} (hs : p s) (h : x s = (.error e, s')) : f s' := by
  have hrun := hx s hs
  rwa [h] at hrun

theorem weaken {g : σ → Prop} (hx : Triple p x q f) (hf : ∀ s, f s → g s) : Triple p x q g := by
  intro s hs
  have h := hx s hs
  generalize x s = result at h ⊢
  obtain ⟨_ | a, s'⟩ := result
  · exact hf s' h
  · exact h

theorem pure (a : α) (h : ∀ s, p s → q a s) : Triple p (pure a : Step ε σ α) q f := h

theorem read {g : σ → α} (h : ∀ s, p s → q (g s) s) : Triple p (Step.read g : Step ε σ α) q f := h

theorem update {g : σ → σ} {r : Unit → σ → Prop} (h : ∀ s, p s → r () (g s)) :
    Triple p (Step.update g : Step ε σ Unit) r f := h

theorem check {g : σ → Except ε α} (hok : ∀ s a, p s → g s = .ok a → q a s)
    (herror : ∀ s e, p s → g s = .error e → f s) : Triple p (Step.check g) q f := by
  intro s hs
  unfold Step.check
  cases hg : g s with
  | error e => exact herror s e hs hg
  | ok a => exact hok s a hs hg

theorem guard {b : σ → Bool} {r : Unit → σ → Prop} (htrue : ∀ s, p s → b s = true → r () s)
    (hfalse : ∀ s, p s → b s = false → f s) : Triple p (Step.guard e b) r f := by
  intro s hs
  unfold Step.guard
  by_cases hb : b s = true
  · rw [if_pos hb]
    exact htrue s hs hb
  · rw [if_neg hb]
    exact hfalse s hs (Bool.eq_false_iff.mpr hb)

theorem need {g : σ → Option α} (hsome : ∀ s a, p s → g s = some a → q a s)
    (hnone : ∀ s, p s → f s) : Triple p (Step.need e g) q f := by
  intro s hs
  unfold Step.need
  cases hg : g s with
  | none => exact hnone s hs
  | some a => exact hsome s a hs hg

theorem mapError (hy : Triple p y q f) (g : ε' → ε) : Triple p (y.mapError g) q f := by
  intro s hs
  have h := hy s hs
  unfold Step.mapError
  generalize y s = result at h ⊢
  obtain ⟨_ | a, s'⟩ := result
  · exact h
  · exact h

theorem attempt {g : σ → Prop} (hy : Triple p y q f) :
    Triple p (y.attempt : Step ε σ (Except ε' α))
      (fun result s => match result with
        | .ok a => q a s
        | .error _ => f s) g := by
  intro s hs
  have h := hy s hs
  unfold Step.attempt
  generalize y s = result at h ⊢
  obtain ⟨_ | a, s'⟩ := result
  · exact h
  · exact h

theorem onError {cleanup : σ → σ} {g : σ → Prop} (hx : Triple p x q g)
    (hcleanup : ∀ s, g s → f (cleanup s)) : Triple p (x.onError cleanup) q f := by
  intro s hs
  have h := hx s hs
  unfold Step.onError
  generalize x s = result at h ⊢
  obtain ⟨_ | a, s'⟩ := result
  · exact hcleanup s' h
  · exact h

theorem ignore {r : σ → Prop} (hx : Triple p x (fun _ => r) r) {s : σ} (hs : p s) :
    r (x.ignore s) := by
  have h := hx s hs
  unfold Step.ignore
  generalize x s = result at h ⊢
  obtain ⟨_ | a, s'⟩ := result
  · exact h
  · exact h

/-- An operation that keeps `p` and implies no more ends in `p` either way. -/
theorem of_ensures {R : σ → σ → Prop} (hx : Ensures R x) (hR : ∀ s s', R s s' → p s → p s')
    (hf : ∀ s, p s → f s) : Triple p x (fun _ => p) f := by
  intro s hs
  have h := hR s (x s).2 (hx s) hs
  generalize x s = result at h ⊢
  obtain ⟨_ | a, s'⟩ := result
  · exact hf s' h
  · exact h

end Triple

end Step

end SoftwareKvm.Lib
