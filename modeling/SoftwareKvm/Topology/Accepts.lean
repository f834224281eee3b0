import SoftwareKvm.Lib.Lists
import SoftwareKvm.Topology.Compile

/-!
# What the workspace compiler accepts

One equation for each stage of `compile_workspace`: the inputs for which it
succeeds, and what it returns for them.

* `compileInventory_eq_ok`, `compilePlacements_eq_ok`, `validateWorkspaceExtent_eq_ok`
  and `compileLinks_eq_ok`: the stages;
* `compileWorkspace_eq_ok`: the whole compiler.
-/

namespace SoftwareKvm

open Lib

/-! ## Inventory -/

/-- `compile_inventory` takes this display. -/
def Compilable (display : Display) : Prop :=
  display.id.isNil = false ∧ display.hostId.isNil = false ∧ validInventoryGeometry display = true

/-- The entry that `compile_inventory` makes of a display. -/
def inventoryEntry (display : Display) : DisplayId × InventoryDisplay :=
  (display.id, ⟨display.hostId, display.logicalSize⟩)

/-- The hosts of a list of displays, added to some. -/
def addHosts (displays : List Display) (hosts : Finset HostId) : Finset HostId :=
  displays.foldl (fun hosts display => insert display.hostId hosts) hosts

theorem subset_addHosts (displays : List Display) (hosts : Finset HostId) :
    hosts ⊆ addHosts displays hosts := by
  induction displays generalizing hosts with
  | nil => exact Finset.Subset.refl _
  | cons display displays ih => exact (Finset.subset_insert _ _).trans (ih _)

variable {displays : List Display}

theorem addHosts_subset {hosts bound : Finset HostId}
    (hhosts : hosts ⊆ bound) (h : ∀ display ∈ displays, display.hostId ∈ bound) :
    addHosts displays hosts ⊆ bound := by
  induction displays generalizing hosts with
  | nil => exact hhosts
  | cons display displays ih =>
    rw [List.forall_mem_cons] at h
    exact ih (Finset.insert_subset h.1 hhosts) h.2

variable {acc acc' : OrdMap DisplayId InventoryDisplay × Finset HostId}
  {inventory : OrdMap DisplayId InventoryDisplay} {links : List WorkspaceLink}

theorem compileInventoryDisplay_eq_ok {display : Display} :
    compileInventoryDisplay acc display = .ok acc' ↔
      Compilable display ∧ acc.1.contains display.id = false ∧
        (insert display.hostId acc.2).card ≤ maxWorkspaceHosts ∧
        acc' = (acc.1.insert display.id (inventoryEntry display).2,
          insert display.hostId acc.2) := by
  unfold compileInventoryDisplay Compilable
  simp only [Bool.or_eq_true, Bool.not_eq_true']
  split_ifs with hinvalid hknown hhosts
  · simp only [false_iff]
    grind
  · simp [hknown]
  · simp only [false_iff]
    exact fun h => absurd h.2.2.1 (Nat.not_le.mpr hhosts)
  · simp only [Except.ok.injEq, inventoryEntry]
    grind

theorem foldlM_compileInventoryDisplay (hhosts : acc.2.card ≤ maxWorkspaceHosts) :
    displays.foldlM compileInventoryDisplay acc = .ok acc' ↔
      (∀ display ∈ displays, Compilable display) ∧ (displays.map (·.id)).Nodup ∧
      (∀ display ∈ displays, acc.1.contains display.id = false) ∧
      (addHosts displays acc.2).card ≤ maxWorkspaceHosts ∧
      acc' = ((displays.map inventoryEntry).foldl (fun m e => m.insert e.1 e.2) acc.1,
        addHosts displays acc.2) := by
  induction displays generalizing acc with
  | nil =>
    simp only [List.foldlM_nil, List.not_mem_nil, false_imp_iff, implies_true, List.map_nil,
      List.nodup_nil, true_and, List.foldl_nil, addHosts, hhosts]
    exact ⟨fun h => (Except.ok.inj h).symm, fun h => h ▸ rfl⟩
  | cons display displays ih =>
    rw [List.foldlM_cons, except_bind_eq_ok]
    simp only [compileInventoryDisplay_eq_ok]
    constructor
    · rintro ⟨_, ⟨hdisplay, hfresh, hcard, rfl⟩, hrest⟩
      obtain ⟨hall, hnodup, hnew, hbound, rfl⟩ := (ih hcard).mp hrest
      refine ⟨List.forall_mem_cons.mpr ⟨hdisplay, hall⟩, ?_, ?_, hbound, rfl⟩
      · rw [List.map_cons, List.nodup_cons]
        refine ⟨fun hmem => ?_, hnodup⟩
        obtain ⟨other, hother, heq⟩ := List.mem_map.mp hmem
        have hcontains := hnew other hother
        rw [Bool.eq_false_iff, ne_eq, OrdMap.contains_insert] at hcontains
        exact hcontains (.inl heq)
      · refine List.forall_mem_cons.mpr ⟨hfresh, fun other hother => ?_⟩
        have hcontains := hnew other hother
        rw [Bool.eq_false_iff, ne_eq, OrdMap.contains_insert, not_or] at hcontains
        exact Bool.eq_false_iff.mpr hcontains.2
    · rintro ⟨hall, hnodup, hfresh, hbound, rfl⟩
      rw [List.forall_mem_cons] at hall hfresh
      rw [List.map_cons, List.nodup_cons] at hnodup
      have hcard : (insert display.hostId acc.2).card ≤ maxWorkspaceHosts :=
        (Finset.card_le_card (subset_addHosts displays _)).trans hbound
      refine ⟨_, ⟨hall.1, hfresh.1, hcard, rfl⟩, (ih hcard).mpr ⟨hall.2, hnodup.2, ?_, hbound, rfl⟩⟩
      intro other hother
      rw [Bool.eq_false_iff, ne_eq, OrdMap.contains_insert, hfresh.2 other hother]
      rintro (heq | h)
      · exact hnodup.1 (heq ▸ List.mem_map_of_mem hother)
      · cases h

theorem compileInventory_eq_ok : compileInventory displays = .ok inventory ↔
      (∀ display ∈ displays, Compilable display) ∧ (displays.map (·.id)).Nodup ∧
      (addHosts displays ∅).card ≤ maxWorkspaceHosts ∧
      inventory = OrdMap.ofList (displays.map inventoryEntry) := by
  have hfold : ∀ acc', displays.foldlM compileInventoryDisplay (∅, ∅) = .ok acc' ↔ _ :=
    fun acc' => foldlM_compileInventoryDisplay (Nat.zero_le _)
  have hmap : compileInventory displays = .ok inventory ↔ ∃ acc',
      displays.foldlM compileInventoryDisplay (∅, ∅) = .ok acc' ∧ acc'.1 = inventory := by
    unfold compileInventory
    cases displays.foldlM compileInventoryDisplay (∅, ∅) <;> simp [Except.map]
  simp only [hmap, hfold]
  constructor
  · rintro ⟨_, ⟨hall, hnodup, -, hbound, rfl⟩, rfl⟩
    exact ⟨hall, hnodup, hbound, rfl⟩
  · rintro ⟨hall, hnodup, hbound, rfl⟩
    exact ⟨_, ⟨hall, hnodup, fun _ _ => rfl, hbound, rfl⟩, rfl⟩

/-! ## Placements -/

/-- What `compile_placements` makes of a placement. -/
structure CompiledAs (inventory : OrdMap DisplayId InventoryDisplay)
    (placement : WorkspacePlacement) (entry : DisplayId × CompiledDisplay) : Prop where
  name : entry.1 = placement.displayId
  known : inventory.get? placement.displayId = some ⟨entry.2.hostId, entry.2.logicalSize⟩
  bounds : entry.2.workspaceBounds = .fromOriginAndSize placement.origin entry.2.logicalSize
  valid : validWorkspaceBounds entry.2.workspaceBounds = true

theorem compilePlacement_eq_ok (inventory : OrdMap DisplayId InventoryDisplay)
    (compiled : DisplayTable) (placement : WorkspacePlacement) (compiled' : DisplayTable) :
    compilePlacement inventory compiled placement = .ok compiled' ↔
      ∃ entry, CompiledAs inventory placement entry ∧ compiled.contains entry.1 = false ∧
        compiled' = compiled.insert entry.1 entry.2 := by
  unfold compilePlacement
  cases hknown : inventory.get? placement.displayId with
  | none =>
    simp only [reduceCtorEq, false_iff, not_exists, not_and]
    exact fun entry h => by cases hknown.symm.trans h.known
  | some display =>
    simp only [Bool.not_eq_true']
    constructor
    · intro h
      split_ifs at h with hcontains hbounds
      cases h
      refine ⟨(placement.displayId, ⟨display.hostId, display.logicalSize,
        .fromOriginAndSize placement.origin display.logicalSize⟩), ⟨rfl, hknown, rfl, ?_⟩, ?_, rfl⟩
      · simpa using hbounds
      · simpa using hcontains
    · rintro ⟨⟨name, ⟨hostId, logicalSize, bounds⟩⟩, ⟨rfl, hentry, hbounds, hvalid⟩, hfresh, rfl⟩
      cases hknown.symm.trans hentry
      obtain rfl : bounds = .fromOriginAndSize placement.origin logicalSize := hbounds
      rw [if_neg (by simpa using hfresh), if_neg (by simpa using hvalid)]

theorem compilePlacements_eq_ok {placements : List WorkspacePlacement} {compiled : DisplayTable} :
    compilePlacements inventory placements = .ok compiled ↔
      ∃ entries, List.Forall₂ (CompiledAs inventory) placements entries ∧
        (entries.map Prod.fst).Nodup ∧ entries.length = inventory.size ∧
        compiled = OrdMap.ofList entries := by
  unfold compilePlacements
  simp only [except_bind_eq_ok, OrdMap.foldlM_insert_empty (compilePlacement_eq_ok inventory)]
  constructor
  · rintro ⟨_, ⟨entries, hentries, hnodup, rfl⟩, h⟩
    split_ifs at h with hsize
    cases h
    rw [OrdMap.size_ofList hnodup, not_not] at hsize
    exact ⟨entries, hentries, hnodup, hsize, rfl⟩
  · rintro ⟨entries, hentries, hnodup, hsize, rfl⟩
    refine ⟨_, ⟨entries, hentries, hnodup, rfl⟩, ?_⟩
    rw [OrdMap.size_ofList hnodup, if_neg (not_not.mpr hsize)]

/-! ## Extent -/

theorem foldl_min_le_iff {α : Type} (f : α → ℚ) (l : List α) (a b : ℚ) :
    b ≤ l.foldl (fun x r => min x (f r)) a ↔ b ≤ a ∧ ∀ r ∈ l, b ≤ f r := by
  induction l generalizing a with
  | nil => simp
  | cons r l ih => simp [ih, and_assoc]

theorem foldl_max_le_iff {α : Type} (f : α → ℚ) (l : List α) (a b : ℚ) :
    l.foldl (fun x r => max x (f r)) a ≤ b ↔ a ≤ b ∧ ∀ r ∈ l, f r ≤ b := by
  induction l generalizing a with
  | nil => simp
  | cons r l ih => simp [ih, and_assoc]

/-- The whole workspace is no larger than `MAX_WORKSPACE_EXTENT`. -/
def WithinExtent (rects : List Rect) : Prop :=
  ∀ r ∈ rects, ∀ r' ∈ rects, r.maxX - r'.x ≤ maxWorkspaceExtent ∧
    r.maxY - r'.y ≤ maxWorkspaceExtent

theorem foldl_max_sub_min_le_iff {α : Type} (f g : α → ℚ) (first : α) (rest : List α) (bound : ℚ) :
    rest.foldl (fun x r => max x (f r)) (f first) - rest.foldl (fun x r => min x (g r)) (g first)
        ≤ bound ↔
      ∀ r ∈ first :: rest, ∀ r' ∈ first :: rest, f r - g r' ≤ bound := by
  rw [sub_le_iff_le_add, foldl_max_le_iff, ← List.forall_mem_cons (p := fun r => f r ≤ _)]
  refine forall₂_congr fun r _ => ?_
  rw [← sub_le_iff_le_add', foldl_min_le_iff, ← List.forall_mem_cons (p := fun r' => _ ≤ g r')]
  refine forall₂_congr fun r' _ => ?_
  rw [sub_le_comm]

theorem validateWorkspaceExtent_eq_ok {rects : List Rect} {u : Unit} :
    validateWorkspaceExtent rects = .ok u ↔ rects ≠ [] ∧ WithinExtent rects := by
  cases rects with
  | nil => simp [validateWorkspaceExtent]
  | cons first rest =>
    have hx := foldl_max_sub_min_le_iff Rect.maxX Rect.x first rest maxWorkspaceExtent
    have hy := foldl_max_sub_min_le_iff Rect.maxY Rect.y first rest maxWorkspaceExtent
    simp only [validateWorkspaceExtent, Bool.or_eq_true, decide_eq_true_eq, ← not_le, hx, hy,
      WithinExtent, imp_and, forall_and, ne_eq, reduceCtorEq, not_false_eq_true, true_and]
    split_ifs with hout
    · rw [← not_and_or] at hout
      exact ⟨nofun, fun h => absurd h hout⟩
    · rw [← not_and_or, not_not] at hout
      exact ⟨fun _ => hout, fun _ => rfl⟩

/-! ## Links -/

/-- What `compile_links` makes of a link. -/
structure LinkedAs (displays : DisplayTable) (link : WorkspaceLink)
    (entry : (DisplayId ×ₗ ℕ) × LinkTarget) : Prop where
  key : entry.1 = toLex (link.sourceDisplay, edgeKey link.sourceEdge)
  target : entry.2 = ⟨link.destinationDisplay, link.destinationEdge⟩
  distinct : link.sourceDisplay ≠ link.destinationDisplay
  opposite : link.destinationEdge = link.sourceEdge.opposite
  touching : ∃ source destination, displays.get? link.sourceDisplay = some source ∧
    displays.get? link.destinationDisplay = some destination ∧
    touches source.workspaceBounds destination.workspaceBounds link.sourceEdge = true ∧
    geometryEpsilon < overlapLength source.workspaceBounds destination.workspaceBounds
      link.sourceEdge

theorem compileLink_eq_ok (displays : DisplayTable) (compiled : LinkTable) (link : WorkspaceLink)
    (compiled' : LinkTable) :
    compileLink displays compiled link = .ok compiled' ↔
      ∃ entry, LinkedAs displays link entry ∧ compiled.contains entry.1 = false ∧
        compiled' = compiled.insert entry.1 entry.2 := by
  unfold compileLink
  constructor
  · intro h
    split_ifs at h with hself
    split at h
    · rename_i source destination hsource hdestination
      dsimp only at h
      split_ifs at h with hgeometry hknown
      cases h
      simp only [Bool.or_eq_true, decide_eq_true_eq, Bool.not_eq_true', not_or, not_not, not_le,
        Bool.not_eq_false] at hgeometry
      exact ⟨(_, _), ⟨rfl, rfl, hself, hgeometry.1.1, source, destination, hsource, hdestination,
        hgeometry.1.2, hgeometry.2⟩, Bool.eq_false_iff.mpr hknown, rfl⟩
    · cases h
  · rintro ⟨⟨key, target⟩, ⟨rfl, rfl, hself, hopposite, source, destination, hsource,
      hdestination, htouches, hoverlap⟩, hfresh, rfl⟩
    rw [if_neg hself, hsource, hdestination]
    dsimp only
    rw [if_neg (by simp [hopposite, htouches, hoverlap]), if_neg (by simpa using hfresh)]

theorem edgeFromKey_edgeKey (e : Edge) : edgeFromKey (edgeKey e) = e := by cases e <;> rfl

/-- A link back is the exact reverse. -/
def Reciprocal (links : LinkTable) : Prop :=
  ∀ key target, links.get? key = some target → ∀ back,
    links.get? (toLex (target.displayId, edgeKey target.edge)) = some back →
      back = ⟨(ofLex key).1, edgeFromKey (ofLex key).2⟩

theorem compileLinks_eq_ok {displays : DisplayTable} {compiled : LinkTable} :
    compileLinks displays links = .ok compiled ↔
      ∃ entries, List.Forall₂ (LinkedAs displays) links entries ∧
        (entries.map Prod.fst).Nodup ∧ Reciprocal (OrdMap.ofList entries) ∧
        compiled = OrdMap.ofList entries := by
  unfold compileLinks
  have hreciprocal : ∀ links : LinkTable,
      (links.entries.all fun entry =>
        (links.get? (toLex (entry.2.displayId, edgeKey entry.2.edge))).all
          (· == ⟨(ofLex entry.1).1, edgeFromKey (ofLex entry.1).2⟩)) = true ↔ Reciprocal links := by
    intro links
    simp only [List.all_eq_true, Prod.forall, OrdMap.mem_entries, Reciprocal, Option.all_eq_true,
      beq_iff_eq]
  simp only [except_bind_eq_ok, OrdMap.foldlM_insert_empty (compileLink_eq_ok displays)]
  constructor
  · rintro ⟨_, ⟨entries, hentries, hnodup, rfl⟩, h⟩
    split_ifs at h with hback
    cases h
    rw [Bool.not_eq_true, Bool.not_eq_false', hreciprocal] at hback
    exact ⟨entries, hentries, hnodup, hback, rfl⟩
  · rintro ⟨entries, hentries, hnodup, hback, rfl⟩
    refine ⟨_, ⟨entries, hentries, hnodup, rfl⟩, ?_⟩
    rw [if_neg]
    rw [Bool.not_eq_true, Bool.not_eq_false', hreciprocal]
    exact hback

/-! ## The compiler -/

/-- What `compile_workspace` accepts, with the entries it compiles. -/
structure Compiled (displays : List Display) (placements : List WorkspacePlacement)
    (links : List WorkspaceLink) (compiledDisplays : List (DisplayId × CompiledDisplay))
    (compiledLinks : List ((DisplayId ×ₗ ℕ) × LinkTarget)) : Prop where
  few_displays : displays.length ≤ maxWorkspaceDisplays
  some_display : displays ≠ []
  few_placements : placements.length ≤ maxWorkspaceDisplays
  few_links : links.length ≤ maxWorkspaceLinks
  compilable : ∀ display ∈ displays, Compilable display
  distinct : (displays.map (·.id)).Nodup
  few_hosts : (addHosts displays ∅).card ≤ maxWorkspaceHosts
  placed : List.Forall₂ (CompiledAs (OrdMap.ofList (displays.map inventoryEntry))) placements
    compiledDisplays
  placed_once : (compiledDisplays.map Prod.fst).Nodup
  placed_all : compiledDisplays.length = displays.length
  within : WithinExtent (compiledDisplays.map (·.2.workspaceBounds))
  linked : List.Forall₂ (LinkedAs (OrdMap.ofList compiledDisplays)) links compiledLinks
  linked_once : (compiledLinks.map Prod.fst).Nodup
  reciprocal : Reciprocal (OrdMap.ofList compiledLinks)

theorem nodup_inventory (h : (displays.map (·.id)).Nodup) :
    ((displays.map inventoryEntry).map Prod.fst).Nodup := by
  rwa [List.map_map]

/-- The compiled form of a display at a place. -/
def compiledDisplay (display : Display) (origin : Point) : CompiledDisplay :=
  ⟨display.hostId, display.logicalSize, .fromOriginAndSize origin display.logicalSize⟩

/-- A placement is compiled to the display of its id, at its place. -/
theorem compiledAs_iff (hdistinct : (displays.map (·.id)).Nodup)
    {placement : WorkspacePlacement} {entry : DisplayId × CompiledDisplay} :
    CompiledAs (OrdMap.ofList (displays.map inventoryEntry)) placement entry ↔
      ∃ display ∈ displays, display.id = placement.displayId ∧
        entry = (display.id, compiledDisplay display placement.origin) ∧
        validWorkspaceBounds (compiledDisplay display placement.origin).workspaceBounds = true := by
  have hknown : ∀ id (d : InventoryDisplay),
      (OrdMap.ofList (displays.map inventoryEntry)).get? id = some d ↔
        ∃ display ∈ displays, display.id = id ∧ ⟨display.hostId, display.logicalSize⟩ = d := by
    intro id d
    rw [OrdMap.get?_ofList (nodup_inventory hdistinct)]
    simp only [List.mem_map, inventoryEntry, Prod.mk.injEq]
  constructor
  · rintro ⟨hname, hget, hbounds, hvalid⟩
    obtain ⟨display, hmem, hid, hd⟩ := (hknown _ _).mp hget
    rw [InventoryDisplay.mk.injEq] at hd
    have hentry : entry = (display.id, compiledDisplay display placement.origin) := by
      obtain ⟨name, ⟨hostId, logicalSize, bounds⟩⟩ := entry
      simp only at hname hd hbounds
      rw [compiledDisplay, hid, hd.1, hd.2, hname, hbounds]
    exact ⟨display, hmem, hid, hentry, by rw [hentry] at hvalid; exact hvalid⟩
  · rintro ⟨display, hmem, hid, rfl, hvalid⟩
    exact ⟨hid, (hknown _ _).mpr ⟨display, hmem, hid, rfl⟩, rfl, hvalid⟩

/-- Links of which each has its reverse among them are reciprocal. -/
theorem reciprocal_of_reversed {displays : DisplayTable}
    {entries : List ((DisplayId ×ₗ ℕ) × LinkTarget)}
    (hlinked : List.Forall₂ (LinkedAs displays) links entries)
    (honce : (entries.map Prod.fst).Nodup)
    (hreversed : ∀ link ∈ links, (⟨link.destinationDisplay, link.destinationEdge,
      link.sourceDisplay, link.sourceEdge⟩ : WorkspaceLink) ∈ links) :
    Reciprocal (OrdMap.ofList entries) := by
  intro key target hget back hback
  rw [OrdMap.get?_ofList honce] at hget
  obtain ⟨link, hlink, h⟩ := forall₂_mem_right hlinked hget
  obtain ⟨entry, hentry, h'⟩ := forall₂_mem_left hlinked (hreversed link hlink)
  obtain rfl : target = ⟨link.destinationDisplay, link.destinationEdge⟩ := h.target
  obtain rfl : key = toLex (link.sourceDisplay, edgeKey link.sourceEdge) := h.key
  have hreverse : (OrdMap.ofList entries).get?
      (toLex (link.destinationDisplay, edgeKey link.destinationEdge)) =
        some ⟨link.sourceDisplay, link.sourceEdge⟩ := by
    rw [OrdMap.get?_ofList honce, ← h'.key, ← h'.target]
    exact hentry
  cases hback.symm.trans hreverse
  rw [ofLex_toLex, edgeFromKey_edgeKey]

/-- The rectangles of the compiled displays, in whatever order. -/
theorem mem_compiled_bounds {entries : List (DisplayId × CompiledDisplay)}
    (hnodup : (entries.map Prod.fst).Nodup) (r : Rect) :
    r ∈ (OrdMap.ofList entries).values.map (·.workspaceBounds) ↔
      r ∈ entries.map (·.2.workspaceBounds) := by
  simp only [List.mem_map, OrdMap.mem_values, OrdMap.get?_ofList hnodup, Prod.exists]
  exact ⟨fun ⟨d, ⟨id, hmem⟩, hr⟩ => ⟨id, d, hmem, hr⟩, fun ⟨id, d, hmem, hr⟩ => ⟨d, ⟨id, hmem⟩, hr⟩⟩

theorem withinExtent_congr {l l' : List Rect} (h : ∀ r, r ∈ l ↔ r ∈ l') :
    WithinExtent l ↔ WithinExtent l' := by
  simp only [WithinExtent, h]

theorem compileWorkspace_eq_ok {compiler : ConfiguredWorkspaceCompiler} {epoch : ℕ}
    {placements : List WorkspacePlacement} {w : ConfiguredWorkspace} :
    compiler.compileWorkspace epoch displays placements links = .ok w ↔
      ∃ compiledDisplays compiledLinks,
        Compiled displays placements links compiledDisplays compiledLinks ∧
        w = ⟨epoch, max (compiler.digest (.ofList compiledDisplays) (.ofList compiledLinks)) 1,
          .ofList compiledDisplays, .ofList compiledLinks⟩ := by
  unfold ConfiguredWorkspaceCompiler.compileWorkspace
  constructor
  · intro h
    split_ifs at h with hdisplays hempty hcounts
    obtain ⟨inventory, hinventory, h⟩ := except_bind_eq_ok.mp h
    obtain ⟨compiled, hcompiled, h⟩ := except_bind_eq_ok.mp h
    obtain ⟨_, hextent, h⟩ := except_bind_eq_ok.mp h
    obtain ⟨compiledLinks, hlinks, h⟩ := except_bind_eq_ok.mp h
    cases h
    obtain ⟨hcompilable, hdistinct, hhosts, rfl⟩ := compileInventory_eq_ok.mp hinventory
    obtain ⟨entries, hplaced, honce, hall, rfl⟩ := compilePlacements_eq_ok.mp hcompiled
    obtain ⟨linkEntries, hlinked, hlinkedOnce, hback, rfl⟩ := compileLinks_eq_ok.mp hlinks
    rw [OrdMap.size_ofList (nodup_inventory hdistinct), List.length_map] at hall
    simp only [Bool.or_eq_true, decide_eq_true_eq, not_or, not_lt] at hcounts
    refine ⟨entries, linkEntries, ?_, rfl⟩
    exact {
      few_displays := not_lt.mp hdisplays
      some_display := fun hnil => hempty (List.isEmpty_iff.mpr hnil)
      few_placements := hcounts.1
      few_links := hcounts.2
      compilable := hcompilable
      distinct := hdistinct
      few_hosts := hhosts
      placed := hplaced
      placed_once := honce
      placed_all := hall
      within := (withinExtent_congr (mem_compiled_bounds honce)).mp
        (validateWorkspaceExtent_eq_ok.mp hextent).2
      linked := hlinked
      linked_once := hlinkedOnce
      reciprocal := hback }
  · rintro ⟨entries, linkEntries, h, rfl⟩
    rw [if_neg (not_lt.mpr h.few_displays),
      if_neg (fun hempty => h.some_display (List.isEmpty_iff.mp hempty)), if_neg]
    · simp only [except_bind_eq_ok]
      refine ⟨_, compileInventory_eq_ok.mpr ⟨h.compilable, h.distinct, h.few_hosts, rfl⟩, _,
        compilePlacements_eq_ok.mpr ⟨entries, h.placed, h.placed_once, ?_, rfl⟩, (),
        validateWorkspaceExtent_eq_ok.mpr ⟨?_, ?_⟩, _,
        compileLinks_eq_ok.mpr ⟨linkEntries, h.linked, h.linked_once, h.reciprocal, rfl⟩, rfl⟩
      · rw [OrdMap.size_ofList (nodup_inventory h.distinct), List.length_map]
        exact h.placed_all
      · intro hnil
        have hlength : entries.length = 0 := by
          have hsize := OrdMap.size_ofList h.placed_once
          rw [List.map_eq_nil_iff] at hnil
          rw [← hsize, ← OrdMap.length_values, hnil, List.length_nil]
        rw [h.placed_all, List.length_eq_zero_iff] at hlength
        exact h.some_display hlength
      · exact (withinExtent_congr (mem_compiled_bounds h.placed_once)).mpr h.within
    · simp only [Bool.or_eq_true, decide_eq_true_eq, not_or, not_lt]
      exact ⟨h.few_placements, h.few_links⟩

end SoftwareKvm
