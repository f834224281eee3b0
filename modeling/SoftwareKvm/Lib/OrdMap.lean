import Mathlib.Algebra.GroupWithZero.Nat
import Mathlib.Data.Finset.Card
import Mathlib.Data.Finset.Image
import Mathlib.Data.List.Sort
import Mathlib.Data.Prod.Lex
import Mathlib.Tactic.Common

/-!
# Finite ordered maps

A finite map over a linearly ordered key type, kept as a list of entries with
strictly increasing keys. This is what an ordered map of a programming
language's standard library is for its user: look-up, insertion, removal,
filtering, and iteration in key order.

The sortedness proof is a field of the structure, so two maps with the same
look-ups are equal (`OrdMap.ext`) and `size` is the number of keys.

* `get?_insert`, `get?_erase`, `get?_filter`, `get?_mapVals`: look-up after
  each operation.
* `mem_entries`: iteration visits exactly the look-ups that succeed.
* `size_insert`, `size_insert_le`, `size_filter_le`: sizes.
* `itemSet`, `card_itemSet`, `card_itemSet_at`: the items of a map with several
  items per key.
-/

namespace SoftwareKvm.Lib

/-- A finite map from `K` to `V`: entries in strictly increasing key order. -/
structure OrdMap (K V : Type*) [LinearOrder K] where
  entries : List (K × V)
  sorted : entries.Pairwise fun a b => a.1 < b.1

namespace OrdMap

variable {K V : Type*} [LinearOrder K]

/-! ## Entry lists -/

/-- The value stored for `k` in an entry list. -/
def lookup (k : K) : List (K × V) → Option V
  | [] => none
  | (k', v) :: rest => if k = k' then some v else lookup k rest

/-- Ordered insertion, replacing the value of an existing key. -/
def insertEntry (k : K) (v : V) : List (K × V) → List (K × V)
  | [] => [(k, v)]
  | (k', v') :: rest =>
    if k < k' then (k, v) :: (k', v') :: rest
    else if k = k' then (k, v) :: rest
    else (k', v') :: insertEntry k v rest

theorem lookup_insertEntry (k k' : K) (v : V) (l : List (K × V)) :
    lookup k' (insertEntry k v l) = if k' = k then some v else lookup k' l := by
  induction l with
  | nil => simp [insertEntry, lookup]
  | cons e rest ih =>
    simp only [insertEntry]
    split
    · rfl
    · split <;> simp only [lookup, ih] <;> grind

variable {l : List (K × V)}

theorem mem_insertEntry {k : K} {v : V} {e : K × V}
    (h : e ∈ insertEntry k v l) : e = (k, v) ∨ e ∈ l := by
  induction l with
  | nil => simpa [insertEntry] using h
  | cons e' rest ih =>
    unfold insertEntry at h
    grind

theorem sorted_insertEntry {k : K} {v : V} (h : l.Pairwise fun a b => a.1 < b.1) :
    (insertEntry k v l).Pairwise fun a b => a.1 < b.1 := by
  induction l with
  | nil => simp [insertEntry]
  | cons e rest ih =>
    rw [List.pairwise_cons] at h
    unfold insertEntry
    split_ifs with h1 h2
    · refine List.pairwise_cons.mpr ⟨?_, List.pairwise_cons.mpr h⟩
      rintro e he
      rcases List.mem_cons.mp he with rfl | he
      · exact h1
      · exact h1.trans (h.1 e he)
    · subst h2
      exact List.pairwise_cons.mpr h
    · refine List.pairwise_cons.mpr ⟨?_, ih h.2⟩
      intro e he
      rcases mem_insertEntry he with rfl | he
      · exact lt_of_le_of_ne (not_lt.mp h1) (Ne.symm h2)
      · exact h.1 e he

theorem lookup_eq_none_of_lt {k : K} (h : ∀ e ∈ l, k < e.1) : lookup k l = none := by
  induction l with
  | nil => rfl
  | cons e rest ih =>
    have hne : k ≠ e.1 := (h e (by simp)).ne
    simp only [lookup, if_neg hne]
    exact ih fun e' he' => h e' (by simp [he'])

/-! ## Operations -/

/-- The map without entries. -/
def empty : OrdMap K V := ⟨[], List.Pairwise.nil⟩

instance : EmptyCollection (OrdMap K V) := ⟨empty⟩
instance : Inhabited (OrdMap K V) := ⟨empty⟩

variable (m : OrdMap K V) (k : K)

/-- The value stored for `k`. -/
def get? : Option V := lookup k m.entries

/-- Whether `k` has a value. -/
def contains : Bool := (m.get? k).isSome

/-- Store `v` for `k`. -/
def insert (v : V) : OrdMap K V :=
  ⟨insertEntry k v m.entries, sorted_insertEntry m.sorted⟩

/-- Keep the entries that satisfy `p`. -/
def filter (p : K → V → Bool) : OrdMap K V :=
  ⟨m.entries.filter fun e => p e.1 e.2, m.sorted.filter _⟩

/-- Remove `k`. -/
def erase : OrdMap K V := m.filter fun k' _ => k' ≠ k

/-- Replace every value, keeping the keys. -/
def mapVals {W : Type*} (f : K → V → W) : OrdMap K W :=
  ⟨m.entries.map fun e => (e.1, f e.1 e.2), List.pairwise_map.mpr m.sorted⟩

/-- Replace the value stored for `k`, if there is one. -/
def modify (f : V → V) : OrdMap K V :=
  m.mapVals fun k' v => if k' = k then f v else v

/-- The keys in order. -/
def keys : List K := m.entries.map Prod.fst

/-- The values in key order. -/
def values : List V := m.entries.map Prod.snd

/-- The number of entries. -/
def size : ℕ := m.entries.length

/-- Whether the map has no entries. -/
def isEmpty : Bool := m.entries.isEmpty

instance [DecidableEq V] : DecidableEq (OrdMap K V) := fun a b =>
  decidable_of_iff (a.entries = b.entries) (by cases a; cases b; simp)

/-! ## Look-up -/

theorem mem_entries {m : OrdMap K V} {k : K} {v : V} : (k, v) ∈ m.entries ↔ m.get? k = some v := by
  obtain ⟨l, h⟩ := m
  change (k, v) ∈ l ↔ lookup k l = some v
  induction l with
  | nil => simp [lookup]
  | cons e rest ih =>
    obtain ⟨k₀, v₀⟩ := e
    rw [List.pairwise_cons] at h
    by_cases hk : k = k₀
    · subst hk
      have hfresh : (k, v) ∉ rest := fun hmem => (h.1 _ hmem).false
      simp [lookup, hfresh, eq_comm]
    · simp [lookup, hk, ih h.2]

theorem nodup_entries : m.entries.Nodup :=
  m.sorted.imp fun h heq => by simp [heq] at h

theorem nodup_keys : m.keys.Nodup :=
  List.pairwise_map.mpr (m.sorted.imp fun h => h.ne)

theorem mem_keys {m : OrdMap K V} {k : K} : k ∈ m.keys ↔ ∃ v, m.get? k = some v := by
  simp only [keys, List.mem_map, Prod.exists, exists_and_right, exists_eq_right, mem_entries]

/-- Maps with the same look-ups are equal. -/
theorem ext {a b : OrdMap K V} (h : ∀ k, a.get? k = b.get? k) : a = b := by
  have hperm : a.entries.Perm b.entries := by
    refine (List.perm_ext_iff_of_nodup a.nodup_entries b.nodup_entries).mpr ?_
    rintro ⟨k, v⟩
    rw [mem_entries, mem_entries, h]
  have heq : a.entries = b.entries := by
    refine hperm.eq_of_pairwise ?_ a.sorted b.sorted
    intro x y _ _ hxy hyx
    exact absurd hxy hyx.asymm
  cases a; cases b; simp_all

@[simp, grind =] theorem get?_empty : (∅ : OrdMap K V).get? k = none := rfl

@[grind =] theorem get?_insert (k k' : K) (v : V) :
    (m.insert k v).get? k' = if k' = k then some v else m.get? k' :=
  lookup_insertEntry k k' v m.entries

/-- An entry after an insertion is the new one or an old one. -/
theorem get?_insert_cases {m : OrdMap K V} {k k' : K} {v v' : V}
    (h : (m.insert k v).get? k' = some v') : (k' = k ∧ v' = v) ∨ m.get? k' = some v' := by
  rw [get?_insert] at h
  split_ifs at h with hk
  · exact Or.inl ⟨hk, (Option.some.inj h).symm⟩
  · exact Or.inr h

/-- What holds of every entry and of the new one holds after an insertion. -/
theorem forall_insert {P : K → V → Prop} {k : K} {v : V} (h : ∀ k v, m.get? k = some v → P k v)
    (hnew : P k v) (k' : K) (v' : V) (hget : (m.insert k v).get? k' = some v') : P k' v' := by
  rcases get?_insert_cases hget with ⟨rfl, rfl⟩ | hold
  · exact hnew
  · exact h k' v' hold

@[simp] theorem get?_insert_self (v : V) : (m.insert k v).get? k = some v := by
  simp [get?_insert]

@[grind =] theorem get?_filter (p : K → V → Bool) (k : K) :
    (m.filter p).get? k = (m.get? k).filter (p k) := by
  cases h : m.get? k with
  | none =>
    by_contra hne
    obtain ⟨v, hv⟩ := Option.ne_none_iff_exists'.mp hne
    rw [← mem_entries, filter, List.mem_filter, mem_entries, h] at hv
    simp at hv
  | some v =>
    by_cases hp : p k v
    · rw [Option.filter_some, if_pos hp, ← mem_entries, filter, List.mem_filter, mem_entries]
      exact ⟨h, hp⟩
    · rw [Option.filter_some, if_neg hp]
      by_contra hne
      obtain ⟨w, hw⟩ := Option.ne_none_iff_exists'.mp hne
      rw [← mem_entries, filter, List.mem_filter, mem_entries, h] at hw
      grind

@[grind =] theorem get?_erase (k k' : K) :
    (m.erase k).get? k' = if k' = k then none else m.get? k' := by
  rw [erase, get?_filter]
  by_cases h : k' = k <;> cases m.get? k' <;> simp [h]

theorem forall_erase {P : K → V → Prop} (h : ∀ k v, m.get? k = some v → P k v) (k k' : K) (v : V)
    (hget : (m.erase k).get? k' = some v) : P k' v := by
  rw [get?_erase] at hget
  split_ifs at hget
  exact h k' v hget

@[grind =] theorem get?_mapVals {W : Type*} (f : K → V → W) (k : K) :
    (m.mapVals f).get? k = (m.get? k).map (f k) := by
  obtain ⟨l, hl⟩ := m
  unfold mapVals get?
  induction l with
  | nil => rfl
  | cons e rest ih =>
    by_cases h : k = e.1
    · simp [lookup, h]
    · simpa [lookup, h] using ih (List.pairwise_cons.mp hl).2

@[grind =] theorem get?_modify (k k' : K) (f : V → V) :
    (m.modify k f).get? k' = if k' = k then (m.get? k').map f else m.get? k' := by
  rw [modify, get?_mapVals]
  by_cases h : k' = k <;> cases m.get? k' <;> simp [h]

theorem forall_modify {P : K → V → Prop} {k : K} {f : V → V} (h : ∀ k v, m.get? k = some v → P k v)
    (hnew : ∀ v, P k v → P k (f v)) (k' : K) (v : V) (hget : (m.modify k f).get? k' = some v) :
    P k' v := by
  rw [get?_modify] at hget
  split_ifs at hget with hk
  · obtain ⟨old, hold, rfl⟩ := Option.map_eq_some_iff.mp hget
    exact hk ▸ hnew old (hk ▸ h k' old hold)
  · exact h k' v hget

theorem contains_insert {m : OrdMap K V} {k k' : K} {v : V} :
    (m.insert k v).contains k' = true ↔ k' = k ∨ m.contains k' = true := by
  rw [contains, get?_insert, contains]
  by_cases h : k' = k <;> simp [h]

theorem contains_erase {m : OrdMap K V} {k k' : K} :
    (m.erase k).contains k' = true ↔ k' ≠ k ∧ m.contains k' = true := by
  rw [contains, get?_erase, contains]
  by_cases h : k' = k <;> simp [h]

@[simp] theorem contains_modify (k k' : K) (f : V → V) :
    (m.modify k f).contains k' = m.contains k' := by
  rw [contains, get?_modify, contains]
  split_ifs
  · exact Option.isSome_map
  · rfl

/-! ## Sizes -/

@[simp] theorem size_empty : (∅ : OrdMap K V).size = 0 := rfl

/-- Insertion adds an entry exactly for a new key. -/
theorem size_insert (v : V) :
    (m.insert k v).size = if m.contains k then m.size else m.size + 1 := by
  obtain ⟨l, h⟩ := m
  change (insertEntry k v l).length = if (lookup k l).isSome then l.length else l.length + 1
  induction l with
  | nil => simp [insertEntry, lookup]
  | cons e rest ih =>
    obtain ⟨k₀, v₀⟩ := e
    rw [List.pairwise_cons] at h
    simp only [insertEntry, lookup]
    by_cases h1 : k < k₀
    · have hnone : lookup k rest = none :=
        lookup_eq_none_of_lt fun e he => h1.trans (h.1 e he)
      simp [h1, h1.ne, hnone]
    · by_cases h2 : k = k₀
      · simp [h2]
      · have hlen := ih h.2
        simp only [h1, h2, if_false, List.length_cons, hlen]
        split_ifs <;> rfl

theorem size_insert_le (v : V) : (m.insert k v).size ≤ m.size + 1 := by
  rw [size_insert]; split_ifs <;> omega

theorem size_filter_le (p : K → V → Bool) : (m.filter p).size ≤ m.size :=
  List.length_filter_le _ _

@[simp] theorem size_mapVals {W : Type*} (f : K → V → W) : (m.mapVals f).size = m.size := by
  simp [size, mapVals]

@[simp] theorem size_modify (f : V → V) : (m.modify k f).size = m.size :=
  size_mapVals m _

theorem isEmpty_iff {m : OrdMap K V} : m.isEmpty = true ↔ ∀ k, m.get? k = none := by
  constructor
  · intro h k
    rw [isEmpty, List.isEmpty_iff] at h
    rw [get?, h, lookup]
  · intro h
    rw [isEmpty, List.isEmpty_iff, List.eq_nil_iff_forall_not_mem]
    rintro ⟨k, v⟩ hmem
    rw [mem_entries, h] at hmem
    cases hmem

theorem isEmpty_of_get? {m : OrdMap K V} {k : K} {v : V} (h : m.get? k = some v) :
    m.isEmpty = false := by
  rw [Bool.eq_false_iff]
  intro hempty
  rw [isEmpty_iff.mp hempty k] at h
  cases h

@[simp] theorem isEmpty_mapVals {W : Type*} (f : K → V → W) :
    (m.mapVals f).isEmpty = m.isEmpty := by
  simp [isEmpty, mapVals]

theorem length_keys : m.keys.length = m.size := List.length_map _

theorem mem_keys_iff_contains {m : OrdMap K V} {k : K} : k ∈ m.keys ↔ m.contains k = true := by
  rw [mem_keys, contains, Option.isSome_iff_exists]

/-! ## Maps with several items per key -/

section Items

variable {β : Type*} (m : OrdMap K V)

/-- The items that `f` lists for each value, paired with their key. -/
def items (f : V → List β) : List (K × β) :=
  m.entries.flatMap fun e => (f e.2).map (e.1, ·)

variable {f : V → List β}

theorem nodup_items (hf : ∀ v, (f v).Nodup) : (m.items f).Nodup := by
  rw [items, List.nodup_flatMap]
  refine ⟨fun e _ => (hf e.2).map fun a b hab => (Prod.mk.inj hab).2, ?_⟩
  refine m.sorted.imp fun {a b} hlt => ?_
  simp only [Function.onFun, List.disjoint_left, List.mem_map]
  rintro x ⟨_, _, rfl⟩ ⟨_, _, heq⟩
  exact hlt.ne (Prod.mk.inj heq).1.symm

variable [DecidableEq β]

/-- The items as a set. -/
def itemSet (f : V → List β) : Finset (K × β) := (m.items f).toFinset

theorem mem_itemSet {m : OrdMap K V} {k : K} {b : β} :
    (k, b) ∈ m.itemSet f ↔ ∃ v, m.get? k = some v ∧ b ∈ f v := by
  simp only [itemSet, items, List.mem_toFinset, List.mem_flatMap, List.mem_map, Prod.exists,
    Prod.mk.injEq]
  constructor
  · rintro ⟨k', v, hmem, b', hb, rfl, rfl⟩
    exact ⟨v, mem_entries.mp hmem, hb⟩
  · rintro ⟨v, hget, hb⟩
    exact ⟨k, v, mem_entries.mpr hget, b, hb, rfl, rfl⟩

theorem card_itemSet (hf : ∀ v, (f v).Nodup) :
    (m.itemSet f).card = (m.values.map fun v => (f v).length).sum := by
  rw [itemSet, List.toFinset_card_of_nodup (m.nodup_items hf)]
  simp [items, values, List.length_flatMap, Function.comp_def]

/-- The items of one key. -/
theorem card_itemSet_at (hf : ∀ v, (f v).Nodup) (k : K) [DecidablePred fun x : K × β => x.1 = k] :
    ((m.itemSet f).filter (·.1 = k)).card = ((m.get? k).map fun v => (f v).length).getD 0 := by
  have hset : (m.itemSet f).filter (·.1 = k)
      = (((m.get? k).map f).getD []).toFinset.image (k, ·) := by
    ext ⟨k', b⟩
    simp only [Finset.mem_filter, mem_itemSet, Finset.mem_image, List.mem_toFinset, Prod.mk.injEq]
    cases hget : m.get? k with
    | none =>
      simp only [Option.map_none, Option.getD_none, List.not_mem_nil, false_and, exists_false,
        iff_false]
      rintro ⟨⟨v, hv, -⟩, rfl⟩
      rw [hget] at hv
      cases hv
    | some v =>
      constructor
      · rintro ⟨⟨v', hv, hb⟩, rfl⟩
        rw [hget] at hv
        cases hv
        exact ⟨b, hb, rfl, rfl⟩
      · rintro ⟨b', hb, rfl, rfl⟩
        exact ⟨⟨v, hget, hb⟩, rfl⟩
  rw [hset, Finset.card_image_of_injective _ (Prod.mk_right_injective k)]
  cases m.get? k with
  | none => rfl
  | some v => exact List.toFinset_card_of_nodup (hf v)

theorem card_image_fst_itemSet_le [DecidableEq K] (f : V → List β) :
    ((m.itemSet f).image Prod.fst).card ≤ m.size := by
  have hsubset : (m.itemSet f).image Prod.fst ⊆ m.keys.toFinset := by
    intro k hk
    obtain ⟨⟨k', b⟩, hmem, rfl⟩ := Finset.mem_image.mp hk
    obtain ⟨v, hget, -⟩ := mem_itemSet.mp hmem
    exact List.mem_toFinset.mpr (mem_keys.mpr ⟨v, hget⟩)
  calc ((m.itemSet f).image Prod.fst).card
      ≤ m.keys.toFinset.card := Finset.card_le_card hsubset
    _ ≤ m.keys.length := List.toFinset_card_le _
    _ = m.size := m.length_keys

/-- When every key has an item, the items count the keys. -/
theorem card_image_fst_itemSet [DecidableEq K] {m : OrdMap K V}
    (h : ∀ k v, m.get? k = some v → f v ≠ []) : ((m.itemSet f).image Prod.fst).card = m.size := by
  refine le_antisymm (m.card_image_fst_itemSet_le f) ?_
  rw [← m.length_keys, ← List.toFinset_card_of_nodup m.nodup_keys]
  refine Finset.card_le_card fun k hk => ?_
  obtain ⟨v, hget⟩ := mem_keys.mp (List.mem_toFinset.mp hk)
  obtain ⟨b, hb⟩ := List.exists_mem_of_ne_nil _ (h k v hget)
  exact Finset.mem_image.mpr ⟨(k, b), mem_itemSet.mpr ⟨v, hget, hb⟩, rfl⟩

end Items

end OrdMap

end SoftwareKvm.Lib
