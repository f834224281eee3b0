import Mathlib.Data.List.Sort
import Mathlib.Data.Prod.Lex
import Mathlib.Order.Bounds.Basic

/-!
# Choosing a best candidate

The first of a list sorted by a key is a candidate with the least key
(`head?_insertionSort`). A key may rank candidates by a score and break ties by two
attributes, one after the other; whether the order of the two attributes matters is
decided by the candidates of the greatest score (`least_swap_iff`).
-/

namespace SoftwareKvm.Lib

section

variable {α κ : Type*} [LinearOrder κ] {key : α → κ} {l : List α} {a : α}

/-- `a` is in `s`, and nothing in `s` has a lesser key. -/
def Least (key : α → κ) (s : Set α) (a : α) : Prop := a ∈ s ∧ ∀ b ∈ s, key a ≤ key b

theorem head?_insertionSort (h : (l.insertionSort fun a b => key a ≤ key b).head? = some a) :
    Least key { b | b ∈ l } a := by
  obtain ⟨rest, hsorted⟩ := List.head?_eq_some_iff.mp h
  have hmem : ∀ b, b ∈ a :: rest ↔ b ∈ l := fun b => by
    rw [← hsorted, List.mem_insertionSort]
  have hpairwise : (a :: rest).Pairwise fun a b => key a ≤ key b := by
    rw [← hsorted]
    exact List.pairwise_insertionSort (α := α) (fun a b => key a ≤ key b) l
  refine ⟨(hmem a).mp List.mem_cons_self, fun b hb => ?_⟩
  rcases List.mem_cons.mp ((hmem b).mpr hb) with rfl | hrest
  · exact le_rfl
  · exact (List.pairwise_cons.mp hpairwise).1 b hrest

end

/-! ## Ties -/

section

variable {α σ β γ : Type*} [LinearOrder σ] [LinearOrder β] [LinearOrder γ]

/-- Ranks by a score, the greatest first, then by two attributes. -/
def rank (score : α → σ) (first : α → β) (second : α → γ) (a : α) : σᵒᵈ ×ₗ β ×ₗ γ :=
  toLex (OrderDual.toDual (score a), toLex (first a, second a))

variable {score : α → σ} {first : α → β} {second : α → γ} {s : Set α} {a b : α}

theorem rank_le_iff :
    rank score first second a ≤ rank score first second b ↔
      score b < score a ∨ score b = score a ∧
        (first a < first b ∨ first a = first b ∧ second a ≤ second b) := by
  simp only [rank, Prod.Lex.toLex_le_toLex, OrderDual.toDual_lt_toDual, OrderDual.toDual_inj,
    eq_comm]

/-- Among the candidates of the greatest score, one is first in both attributes. -/
def Undisputed (score : α → σ) (first : α → β) (second : α → γ) (s : Set α) (a : α) : Prop :=
  a ∈ s ∧ (∀ b ∈ s, score b ≤ score a) ∧
    ∀ b ∈ s, score b = score a → first a ≤ first b ∧ second a ≤ second b

theorem Least.score_le (h : Least (rank score first second) s a) (hb : b ∈ s) :
    score b ≤ score a := by
  rcases rank_le_iff.mp (h.2 b hb) with hlt | ⟨heq, -⟩
  · exact hlt.le
  · exact heq.le

theorem Least.first_le (h : Least (rank score first second) s a) (hb : b ∈ s)
    (hscore : score b = score a) : first a ≤ first b := by
  rcases rank_le_iff.mp (h.2 b hb) with hlt | ⟨-, hlt | ⟨heq, -⟩⟩
  · exact absurd hscore hlt.ne
  · exact hlt.le
  · exact heq.le

theorem Least.second_le (h : Least (rank score first second) s a) (hb : b ∈ s)
    (hscore : score b = score a) (hfirst : first b = first a) : second a ≤ second b := by
  rcases rank_le_iff.mp (h.2 b hb) with hlt | ⟨-, hlt | ⟨-, hle⟩⟩
  · exact absurd hscore hlt.ne
  · exact absurd hfirst hlt.ne'
  · exact hle

/-- An undisputed candidate has the attributes of the one that ranks first. -/
theorem Undisputed.eq_least (h : Undisputed score first second s a)
    (hb : Least (rank score first second) s b) : first b = first a ∧ second b = second a := by
  have hscore : score a = score b := le_antisymm (hb.score_le h.1) (h.2.1 b hb.1)
  have hleast := h.2.2 b hb.1 hscore.symm
  have hfirst := le_antisymm (hb.first_le h.1 hscore) hleast.1
  exact ⟨hfirst, le_antisymm (hb.second_le h.1 hscore hfirst.symm) hleast.2⟩

theorem Undisputed.swap (h : Undisputed score first second s a) :
    Undisputed score second first s a :=
  ⟨h.1, h.2.1, fun b hb hscore => (h.2.2 b hb hscore).symm⟩

/-- The two orders of the attributes choose the same, up to the attributes, exactly if
    some candidate is undisputed. -/
theorem least_swap_iff (ha : Least (rank score first second) s a)
    (hb : Least (rank score second first) s b) :
    (first b = first a ∧ second b = second a) ↔ Undisputed score first second s a := by
  constructor
  · rintro ⟨-, hsecond⟩
    refine ⟨ha.1, fun c hc => ha.score_le hc, fun c hc hscore => ⟨ha.first_le hc hscore, ?_⟩⟩
    have hbscore : score b = score a := le_antisymm (ha.score_le hb.1) (hb.score_le ha.1)
    exact hsecond ▸ hb.first_le hc (hscore.trans hbscore.symm)
  · intro h
    exact (h.swap.eq_least hb).symm

end

end SoftwareKvm.Lib
