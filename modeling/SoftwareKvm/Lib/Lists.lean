import Mathlib.Data.List.Forall2
import SoftwareKvm.Lib.OrdMap
import SoftwareKvm.Lib.Step

/-!
# Loops over lists that can fail

A loop that maps every element of a list and stops at the first failure is
`List.mapM` in `Except`; `mapM_eq_ok` says what it returns, and `forM_eq_ok` the same of
a loop of checks. `OrdMap.ofList` is the map collected from a list of pairs.
-/

namespace SoftwareKvm.Lib

section

variable {ε α β γ : Type} {f : α → Except ε β} {l : List α} {l' : List β}

theorem mapM_eq_ok : l.mapM f = .ok l' ↔ List.Forall₂ (fun a b => f a = .ok b) l l' := by
  induction l generalizing l' with
  | nil =>
    rw [List.mapM_nil, List.forall₂_nil_left_iff]
    exact ⟨fun h => (Except.ok.inj h).symm, fun h => h ▸ rfl⟩
  | cons a l ih =>
    rw [List.mapM_cons, except_bind_eq_ok, List.forall₂_cons_left_iff]
    simp only [except_bind_eq_ok]
    constructor
    · rintro ⟨b, hb, rest, hrest, h⟩
      exact ⟨b, rest, hb, ih.mp hrest, (Except.ok.inj h).symm⟩
    · rintro ⟨b, rest, hb, hrest, rfl⟩
      exact ⟨b, hb, rest, ih.mpr hrest, rfl⟩

/-- A loop that goes on with each result of a loop that succeeds. -/
theorem mapM_bind_ok (h : l.mapM f = .ok l') (g : β → γ) :
    (l.mapM fun a => f a >>= fun b => .ok (g b)) = .ok (l'.map g) := by
  rw [mapM_eq_ok] at h ⊢
  rw [List.forall₂_map_right_iff]
  refine h.imp fun a b hb => ?_
  rw [hb]
  rfl

theorem mapM_append_inv {k : List α} {m : List β} (h : (l ++ k).mapM f = .ok m) :
    ∃ l' k', l.mapM f = .ok l' ∧ k.mapM f = .ok k' ∧ m = l' ++ k' := by
  rw [List.mapM_append] at h
  obtain ⟨l', hl, h⟩ := except_bind_eq_ok.mp h
  obtain ⟨k', hk, h⟩ := except_bind_eq_ok.mp h
  exact ⟨l', k', hl, hk, (Except.ok.inj h).symm⟩

theorem length_of_mapM_eq_ok (h : l.mapM f = .ok l') : l'.length = l.length :=
  (mapM_eq_ok.mp h).length_eq.symm

/-- What `find?` finds is what `eraseP` erases. -/
theorem perm_cons_eraseP {p : α → Bool} {a : α} (h : l.find? p = some a) :
    l.Perm (a :: l.eraseP p) := by
  induction l with
  | nil => cases h
  | cons b l ih =>
    rw [List.find?_cons] at h
    rw [List.eraseP_cons]
    cases hb : p b with
    | true =>
      rw [hb] at h
      cases h
      rfl
    | false =>
      rw [hb] at h
      exact ((ih h).cons b).trans (.swap ..)

/-- A loop of checks succeeds exactly if every check does. -/
theorem forM_eq_ok {g : α → Except ε Unit} {u : Unit} :
    l.forM g = .ok u ↔ ∀ a ∈ l, g a = .ok () := by
  induction l with
  | nil => exact ⟨fun _ _ hmem => absurd hmem List.not_mem_nil, fun _ => rfl⟩
  | cons a l ih =>
    change (g a >>= fun _ => l.forM g) = .ok u ↔ _
    rw [except_bind_eq_ok, List.forall_mem_cons]
    exact ⟨fun ⟨_, ha, h⟩ => ⟨ha, ih.mp h⟩, fun ⟨ha, h⟩ => ⟨(), ha, ih.mpr h⟩⟩

theorem mem_of_mapM_eq_ok {b : β} (h : l.mapM f = .ok l') : b ∈ l' ↔ ∃ a ∈ l, f a = .ok b := by
  rw [mapM_eq_ok] at h
  induction h with
  | nil => simp
  | @cons a b' l l' hb _ ih =>
    have hresult : f a = .ok b ↔ b = b' := by
      rw [hb, Except.ok.injEq, eq_comm]
    simp only [List.mem_cons, ih, exists_eq_or_imp, hresult]

end

/-! ## Related lists -/

section

variable {α β : Type*} {R : α → β → Prop} {l : List α} {l' : List β}

theorem forall₂_mem_right {b : β} (h : List.Forall₂ R l l') (hb : b ∈ l') : ∃ a ∈ l, R a b := by
  induction h with
  | nil => cases hb
  | @cons a b' l l' hab _ ih =>
    rcases List.mem_cons.mp hb with rfl | hb
    · exact ⟨a, List.mem_cons_self, hab⟩
    · obtain ⟨a', ha', hab'⟩ := ih hb
      exact ⟨a', List.mem_cons_of_mem _ ha', hab'⟩

theorem forall₂_mem_left {a : α} (h : List.Forall₂ R l l') (ha : a ∈ l) : ∃ b ∈ l', R a b :=
  forall₂_mem_right h.flip ha

theorem exists_forall₂ (h : ∀ a ∈ l, ∃ b, R a b) : ∃ l', List.Forall₂ R l l' := by
  induction l with
  | nil => exact ⟨[], .nil⟩
  | cons a l ih =>
    rw [List.forall_mem_cons] at h
    obtain ⟨b, hb⟩ := h.1
    obtain ⟨l', hl'⟩ := ih h.2
    exact ⟨b :: l', .cons hb hl'⟩

/-- A list related by a function of the keys has the same keys. -/
theorem forall₂_map_eq {κ : Type*} {f : α → κ} {g : β → κ} (h : List.Forall₂ R l l')
    (hkey : ∀ a b, R a b → f a = g b) : l.map f = l'.map g := by
  induction h with
  | nil => rfl
  | cons hab _ ih => rw [List.map_cons, List.map_cons, hkey _ _ hab, ih]

end

namespace OrdMap

variable {K V : Type*} [LinearOrder K]

/-- The map collected from a list of pairs. -/
def ofList (l : List (K × V)) : OrdMap K V := l.foldl (fun m e => m.insert e.1 e.2) ∅

variable {l : List (K × V)}

theorem get?_foldl_insert {m : OrdMap K V} (hnodup : (l.map Prod.fst).Nodup) (k : K) (v : V) :
    (l.foldl (fun m e => m.insert e.1 e.2) m).get? k = some v ↔
      (k, v) ∈ l ∨ k ∉ l.map Prod.fst ∧ m.get? k = some v := by
  induction l generalizing m with
  | nil => simp
  | cons e l ih =>
    obtain ⟨k₀, v₀⟩ := e
    rw [List.map_cons, List.nodup_cons] at hnodup
    rw [List.foldl_cons, ih hnodup.2, get?_insert]
    by_cases hk : k = k₀
    · subst hk
      have hfresh : (k, v) ∉ l := fun hmem => hnodup.1 (List.mem_map.mpr ⟨_, hmem, rfl⟩)
      simp [hfresh, hnodup.1, eq_comm]
    · simp [hk]

/-- A list with distinct keys is looked up as it stands. -/
theorem get?_ofList (hnodup : (l.map Prod.fst).Nodup) (k : K) (v : V) :
    (ofList l).get? k = some v ↔ (k, v) ∈ l := by
  rw [ofList, get?_foldl_insert hnodup]
  simp

/-- The order of a list with distinct keys does not matter. -/
theorem ofList_congr {l' : List (K × V)} (hperm : l.Perm l') (hnodup : (l.map Prod.fst).Nodup) :
    ofList l = ofList l' := by
  refine ext fun k => Option.ext fun v => ?_
  rw [get?_ofList hnodup, get?_ofList ((hperm.map Prod.fst).nodup_iff.mp hnodup), hperm.mem_iff]

theorem size_foldl_insert {m : OrdMap K V} (hnodup : (l.map Prod.fst).Nodup)
    (hfresh : ∀ k ∈ l.map Prod.fst, m.contains k = false) :
    (l.foldl (fun m e => m.insert e.1 e.2) m).size = m.size + l.length := by
  induction l generalizing m with
  | nil => rfl
  | cons e l ih =>
    rw [List.map_cons, List.nodup_cons] at hnodup
    rw [List.map_cons, List.forall_mem_cons] at hfresh
    rw [List.foldl_cons, ih hnodup.2, size_insert, if_neg (by simp [hfresh.1]), List.length_cons]
    · omega
    · intro k hk
      rw [Bool.eq_false_iff, ne_eq, contains_insert, hfresh.2 k hk]
      rintro (rfl | h)
      · exact hnodup.1 hk
      · cases h

theorem size_ofList (hnodup : (l.map Prod.fst).Nodup) : (ofList l).size = l.length := by
  rw [ofList, size_foldl_insert hnodup fun _ _ => rfl, size_empty, Nat.zero_add]

theorem length_values (m : OrdMap K V) : m.values.length = m.size := List.length_map _

theorem mem_values {m : OrdMap K V} {v : V} : v ∈ m.values ↔ ∃ k, m.get? k = some v := by
  simp only [values, List.mem_map, Prod.exists, exists_eq_right, mem_entries]

section

variable {α ε : Type} {K V : Type} [LinearOrder K] {step : OrdMap K V → α → Except ε (OrdMap K V)}
  {R : α → K × V → Prop}

/-- A loop whose every step adds one entry under a fresh key, or fails. -/
theorem foldlM_insert_eq_ok (hstep : ∀ m a m', step m a = .ok m' ↔
      ∃ e, R a e ∧ m.contains e.1 = false ∧ m' = m.insert e.1 e.2)
    {l : List α} {m m' : OrdMap K V} :
    l.foldlM step m = .ok m' ↔ ∃ entries, List.Forall₂ R l entries ∧
      (entries.map Prod.fst).Nodup ∧ (∀ k ∈ entries.map Prod.fst, m.contains k = false) ∧
      m' = entries.foldl (fun m e => m.insert e.1 e.2) m := by
  induction l generalizing m with
  | nil =>
    simp only [List.foldlM_nil, List.forall₂_nil_left_iff, exists_eq_left, List.map_nil,
      List.nodup_nil, List.not_mem_nil, false_imp_iff, implies_true, true_and, List.foldl_nil]
    exact ⟨fun h => (Except.ok.inj h).symm, fun h => h ▸ rfl⟩
  | cons a l ih =>
    rw [List.foldlM_cons, except_bind_eq_ok]
    simp only [hstep, ih, List.forall₂_cons_left_iff]
    constructor
    · rintro ⟨_, ⟨e, he, hfresh, rfl⟩, entries, hentries, hnodup, hrest, rfl⟩
      have hnew : e.1 ∉ entries.map Prod.fst := fun hmem => by
        have hcontains := hrest e.1 hmem
        rw [Bool.eq_false_iff, ne_eq, contains_insert] at hcontains
        exact hcontains (.inl rfl)
      refine ⟨e :: entries, ⟨e, entries, he, hentries, rfl⟩, ?_, ?_, rfl⟩
      · exact List.nodup_cons.mpr ⟨hnew, hnodup⟩
      · rw [List.map_cons, List.forall_mem_cons]
        refine ⟨hfresh, fun k hk => ?_⟩
        have hcontains := hrest k hk
        rw [Bool.eq_false_iff, ne_eq, contains_insert, not_or] at hcontains
        exact Bool.eq_false_iff.mpr hcontains.2
    · rintro ⟨_, ⟨e, entries, he, hentries, rfl⟩, hnodup, hfresh, rfl⟩
      rw [List.map_cons, List.nodup_cons] at hnodup
      rw [List.map_cons, List.forall_mem_cons] at hfresh
      refine ⟨_, ⟨e, he, hfresh.1, rfl⟩, entries, hentries, hnodup.2, fun k hk => ?_, rfl⟩
      rw [Bool.eq_false_iff, ne_eq, contains_insert, hfresh.2 k hk]
      rintro (rfl | h)
      · exact hnodup.1 hk
      · cases h

/-- The same loop, from the empty map. -/
theorem foldlM_insert_empty (hstep : ∀ m a m', step m a = .ok m' ↔
      ∃ e, R a e ∧ m.contains e.1 = false ∧ m' = m.insert e.1 e.2)
    {l : List α} {m' : OrdMap K V} :
    l.foldlM step ∅ = .ok m' ↔ ∃ entries, List.Forall₂ R l entries ∧
      (entries.map Prod.fst).Nodup ∧ m' = ofList entries := by
  rw [foldlM_insert_eq_ok hstep]
  refine exists_congr fun entries => and_congr_right fun _ => and_congr_right fun _ => ?_
  exact and_iff_right fun _ _ => rfl

end

end OrdMap

end SoftwareKvm.Lib
