import Mathlib.Algebra.Order.BigOperators.Group.List
import Mathlib.Data.List.Perm.Basic
import SoftwareKvm.Setup.Layout
import SoftwareKvm.Topology.Accepts

/-!
# Setup topologies in the workspace compiler

The daemon compiles the topology that the setup wrote (`kvm-runtime/src/active.rs`,
lines 1476–1503) with its own geometry checks. Both sides are modelled in exact
rationals; the displays of the two hosts are those that their DTOs describe.

* `buildConfig_compiles`: when a topology of `build_config` compiles. The setup takes
  displays to touch within `0.001`, the compiler within `10⁻⁹`
  (`Sample.gap_not_compiled`); a row of default positions may be wider than the
  compiler's limit; and the setup does not count displays.
-/

namespace SoftwareKvm

open Lib PanelCodec

/-! ## The topology for the compiler -/

namespace TopologyConfig

/-- The placement for the compiler; a configuration that was validated has only finite
    coordinates. -/
def workspacePlacement (placement : DisplayPlacement) : Option WorkspacePlacement :=
  match placement.x, placement.y with
  | .finite x, .finite y => some ⟨placement.displayId, ⟨x, y⟩⟩
  | _, _ => none

def workspacePlacements (topology : TopologyConfig) : List WorkspacePlacement :=
  topology.displays.filterMap workspacePlacement

def workspaceLinks (topology : TopologyConfig) : List WorkspaceLink :=
  topology.links.map fun link => ⟨link.fromDisplay, link.fromEdge, link.toDisplay, link.toEdge⟩

end TopologyConfig

/-- The display of a host that a DTO describes. -/
structure Describes (codec : PanelCodec) (host : HostId) (dto : DisplayDto) (display : Display) :
    Prop where
  id : codec.parseDisplayId dto.id = some display.id
  hostId : display.hostId = host
  logicalSize : display.logicalSize = ⟨dto.width, dto.height⟩

/-- A display takes this rectangle in a topology. -/
def BoundsIn (displays : List Display) (topology : TopologyConfig) (id : DisplayId) (r : Rect) :
    Prop :=
  ∃ display ∈ displays, ∃ placement ∈ topology.workspacePlacements, display.id = id ∧
    placement.displayId = id ∧ r = .fromOriginAndSize placement.origin display.logicalSize

/-- The displays of every link touch within the compiler's tolerance. -/
def LinksMeet (displays : List Display) (topology : TopologyConfig) : Prop :=
  ∀ link ∈ topology.links, ∀ source destination,
    BoundsIn displays topology link.fromDisplay source →
    BoundsIn displays topology link.toDisplay destination →
    touches source destination link.fromEdge = true

/-- The pair of displays of the two hosts that ranks first in a layout touches within the
    compiler's tolerance. -/
def FirstPairMeets (codec : PanelCodec) (layout : List DisplayLayoutDto)
    (localDisplays peerDisplays : List DisplayDto) : Prop :=
  ∀ pair : DisplayPair, Least (rank pairLength (·.1.1) (·.2.1))
      (facingPairs codec layout localDisplays peerDisplays) pair →
    ∀ touching ∈ touchingEdges pair.1.2 pair.2.2, touches pair.1.2 pair.2.2 touching.1 = true

section

variable {codec : PanelCodec} {layout : List DisplayLayoutDto} {edge : CrossHostEdge}

theorem topologyOf_workspacePlacements :
    (topologyOf layout edge).workspacePlacements =
      layout.map fun display => ⟨display.displayId, ⟨display.x, display.y⟩⟩ := by
  unfold TopologyConfig.workspacePlacements topologyOf
  rw [List.filterMap_map]
  exact List.filterMap_eq_map' (f := fun display : DisplayLayoutDto =>
    (⟨display.displayId, ⟨display.x, display.y⟩⟩ : WorkspacePlacement)) ▸ rfl

/-! ## Edges -/

theorem Edge.opposite_opposite (e : Edge) : e.opposite.opposite = e := by cases e <;> rfl

theorem overlapLength_opposite (first second : Rect) (e : Edge) :
    overlapLength second first e.opposite = overlapLength first second e := by
  cases e <;> simp only [overlapLength, Edge.opposite, edgeExtent, min_comm, max_comm]

theorem touches_opposite (first second : Rect) (e : Edge) :
    touches second first e.opposite = touches first second e := by
  cases e <;> simp only [touches, Edge.opposite, close, abs_sub_comm]

/-- Edges that touch for the setup face each other, over more than the compiler asks for. -/
theorem facing_of_touching {first second : Rect} {localEdge remoteEdge : Edge} {overlap : ℚ}
    (h : touchingEdges first second = some (localEdge, remoteEdge, overlap)) :
    remoteEdge = localEdge.opposite ∧ geometryEpsilon < overlapLength first second localEdge := by
  have hepsilon : geometryEpsilon < layoutEpsilon := by
    unfold geometryEpsilon layoutEpsilon
    norm_num
  unfold touchingEdges at h
  split_ifs at h with hright hleft hbottom htop
  all_goals
    obtain ⟨hfrom, hto, -⟩ := by simpa using h
    rw [← hfrom, ← hto]
    refine ⟨rfl, ?_⟩
  · exact hepsilon.trans hright.1
  · exact hepsilon.trans hleft.1
  · exact hepsilon.trans hbottom.1
  · exact hepsilon.trans htop.1

/-! ## Compilation of a layout with a crossing edge -/

/-- Displays that the compiler takes, each with a place in a layout. -/
structure Placeable (displays : List Display) (layout : List DisplayLayoutDto) : Prop where
  compilable : ∀ display ∈ displays, Compilable display
  distinct : (displays.map (·.id)).Nodup
  few_hosts : (addHosts displays ∅).card ≤ maxWorkspaceHosts
  placed : (layout.map (·.displayId)).Perm (displays.map (·.id))

/-- A crossing edge between two of the displays that touch for the setup. -/
structure Crossing (displays : List Display) (layout : List DisplayLayoutDto)
    (edge : CrossHostEdge) : Prop where
  own_display : edge.localDisplay ∈ displays.map (·.id)
  remote_display : edge.remoteDisplay ∈ displays.map (·.id)
  ends_differ : edge.localDisplay ≠ edge.remoteDisplay
  edges_opposite : edge.remoteEdge = edge.localEdge.opposite
  long : ∀ r s, BoundsIn displays (topologyOf layout edge) edge.localDisplay r →
    BoundsIn displays (topologyOf layout edge) edge.remoteDisplay s →
    geometryEpsilon < overlapLength r s edge.localEdge

namespace Placeable

variable {displays : List Display} {entries : List (DisplayId × CompiledDisplay)}
  {linkEntries : List ((DisplayId ×ₗ ℕ) × LinkTarget)}

section

variable (h : Placeable displays layout)

include h

theorem placements_nodup :
    ((topologyOf layout edge).workspacePlacements.map (·.displayId)).Nodup := by
  rw [topologyOf_workspacePlacements, List.map_map]
  exact h.placed.nodup_iff.mpr h.distinct

theorem placements_length :
    (topologyOf layout edge).workspacePlacements.length = displays.length := by
  rw [topologyOf_workspacePlacements, List.length_map,
    ← List.length_map (f := fun d => d.displayId), h.placed.length_eq, List.length_map]

theorem exists_placement {id : DisplayId} (hid : id ∈ displays.map (·.id)) :
    ∃ placement ∈ (topologyOf layout edge).workspacePlacements, placement.displayId = id := by
  obtain ⟨display, hdisplay, rfl⟩ := List.mem_map.mp (h.placed.mem_iff.mpr hid)
  rw [topologyOf_workspacePlacements]
  exact ⟨_, List.mem_map_of_mem hdisplay, rfl⟩

/-- Every display takes one rectangle. -/
theorem exists_bounds {id : DisplayId}
    (hid : id ∈ displays.map (·.id)) : ∃ r, BoundsIn displays (topologyOf layout edge) id r := by
  obtain ⟨placement, hplacement, rfl⟩ := h.exists_placement hid
  obtain ⟨display, hdisplay, hname⟩ := List.mem_map.mp hid
  exact ⟨_, display, hdisplay, placement, hplacement, hname, rfl, rfl⟩

theorem bounds_unique {id : DisplayId} {r s : Rect}
    (hr : BoundsIn displays (topologyOf layout edge) id r)
    (hs : BoundsIn displays (topologyOf layout edge) id s) : r = s := by
  obtain ⟨display, hdisplay, placement, hplacement, hname, hplaced, rfl⟩ := hr
  obtain ⟨display', hdisplay', placement', hplacement', hname', hplaced', rfl⟩ := hs
  rw [List.inj_on_of_nodup_map h.distinct hdisplay hdisplay' (hname.trans hname'.symm),
    List.inj_on_of_nodup_map h.placements_nodup hplacement hplacement'
      (hplaced.trans hplaced'.symm)]

section

variable (hentries : List.Forall₂ (CompiledAs (OrdMap.ofList (displays.map inventoryEntry)))
    (topologyOf layout edge).workspacePlacements entries)

include hentries

/-- The compiled entries are the displays at their rectangles. -/
theorem mem_entries (id : DisplayId) (r : Rect) :
    (∃ c, (id, c) ∈ entries ∧ c.workspaceBounds = r) ↔
      BoundsIn displays (topologyOf layout edge) id r := by
  constructor
  · rintro ⟨c, hmem, rfl⟩
    obtain ⟨placement, hplacement, hcompiled⟩ := forall₂_mem_right hentries hmem
    obtain ⟨display, hdisplay, hid, hentry, -⟩ := (compiledAs_iff h.distinct).mp hcompiled
    cases hentry
    exact ⟨display, hdisplay, placement, hplacement, rfl, hid.symm, rfl⟩
  · intro hbounds
    have hrect := hbounds
    obtain ⟨-, -, placement, hplacement, -, rfl, -⟩ := hbounds
    obtain ⟨⟨id, c⟩, hmem, hcompiled⟩ := forall₂_mem_left hentries hplacement
    obtain ⟨display, hdisplay, hid, hentry, -⟩ := (compiledAs_iff h.distinct).mp hcompiled
    cases hentry
    refine ⟨_, hid ▸ hmem, h.bounds_unique ?_ hrect⟩
    exact ⟨display, hdisplay, placement, hplacement, hid, rfl, rfl⟩

theorem nodup_entries : (entries.map Prod.fst).Nodup := by
  rw [← forall₂_map_eq (f := fun p : WorkspacePlacement => p.displayId) hentries
    fun _ _ hcompiled => hcompiled.name.symm]
  exact h.placements_nodup

theorem exists_linkEntries (hcrossing : Crossing displays layout edge)
    (hmeet : LinksMeet displays (topologyOf layout edge)) :
    ∃ linkEntries, List.Forall₂ (LinkedAs (OrdMap.ofList entries))
      (topologyOf layout edge).workspaceLinks linkEntries := by
  refine exists_forall₂ fun workspaceLink hworkspaceLink => ?_
  obtain ⟨link, hlink, rfl⟩ := List.mem_map.mp hworkspaceLink
  -- the two ends of a link are the two ends of the crossing edge
  obtain ⟨hfrom, hto, hne, hopposite, hlong⟩ : link.fromDisplay ∈ displays.map (·.id)
      ∧ link.toDisplay ∈ displays.map (·.id) ∧ link.fromDisplay ≠ link.toDisplay
      ∧ link.toEdge = link.fromEdge.opposite
      ∧ ∀ r s, BoundsIn displays (topologyOf layout edge) link.fromDisplay r →
        BoundsIn displays (topologyOf layout edge) link.toDisplay s →
        geometryEpsilon < overlapLength r s link.fromEdge := by
    rcases mem_topologyOf_links.mp hlink with rfl | rfl
    · exact ⟨hcrossing.own_display, hcrossing.remote_display, hcrossing.ends_differ,
        hcrossing.edges_opposite, hcrossing.long⟩
    · refine ⟨hcrossing.remote_display, hcrossing.own_display, hcrossing.ends_differ.symm, ?_,
        fun r s hr hs => ?_⟩
      · exact hcrossing.edges_opposite ▸ (Edge.opposite_opposite _).symm
      · have hlong := hcrossing.long s r hs hr
        rw [hcrossing.edges_opposite]
        exact (overlapLength_opposite s r edge.localEdge).symm ▸ hlong
  obtain ⟨source, hsource⟩ := h.exists_bounds hfrom
  obtain ⟨destination, hdestination⟩ := h.exists_bounds hto
  obtain ⟨c, hc, hcs⟩ := (h.mem_entries hentries _ _).mpr hsource
  obtain ⟨c', hc', hcd⟩ := (h.mem_entries hentries _ _).mpr hdestination
  have hget := fun id c => (OrdMap.get?_ofList (h.nodup_entries hentries) id c).mpr
  refine ⟨(toLex (link.fromDisplay, edgeKey link.fromEdge), ⟨link.toDisplay, link.toEdge⟩),
    rfl, rfl, hne, hopposite, c, c', hget _ _ hc, hget _ _ hc', ?_, ?_⟩
  · rw [hcs, hcd]
    exact hmeet link hlink source destination hsource hdestination
  · rw [hcs, hcd]
    exact hlong source destination hsource hdestination

end

/-- Every rectangle is within the compiler's limits. -/
def Fits (displays : List Display) (topology : TopologyConfig) : Prop :=
  (∀ id r, BoundsIn displays topology id r → validWorkspaceBounds r = true) ∧
    ∀ id r id' r', BoundsIn displays topology id r → BoundsIn displays topology id' r' →
      r.maxX - r'.x ≤ maxWorkspaceExtent ∧ r.maxY - r'.y ≤ maxWorkspaceExtent

/-- The compiler accepts no more than what fits and meets. -/
theorem of_compiled (hcompiled : Compiled displays (topologyOf layout edge).workspacePlacements
      (topologyOf layout edge).workspaceLinks entries linkEntries) :
    displays.length ≤ maxWorkspaceDisplays ∧ Fits displays (topologyOf layout edge) ∧
      LinksMeet displays (topologyOf layout edge) := by
  have hmem := h.mem_entries hcompiled.placed
  refine ⟨hcompiled.few_displays, ⟨fun id r hr => ?_, fun id r id' r' hr hr' => ?_⟩, ?_⟩
  · obtain ⟨c, hc, rfl⟩ := (hmem id r).mpr hr
    obtain ⟨placement, -, has⟩ := forall₂_mem_right hcompiled.placed hc
    exact has.valid
  · obtain ⟨c, hc, rfl⟩ := (hmem id r).mpr hr
    obtain ⟨c', hc', rfl⟩ := (hmem id' r').mpr hr'
    exact hcompiled.within _ (List.mem_map_of_mem hc) _ (List.mem_map_of_mem hc')
  · intro link hlink source destination hsource hdestination
    obtain ⟨entry, -, has⟩ := forall₂_mem_left hcompiled.linked (List.mem_map_of_mem hlink)
    obtain ⟨c, c', hc, hc', htouches, -⟩ := has.touching
    rw [OrdMap.get?_ofList hcompiled.placed_once] at hc hc'
    rw [h.bounds_unique hsource ((hmem _ _).mp ⟨c, hc, rfl⟩),
      h.bounds_unique hdestination ((hmem _ _).mp ⟨c', hc', rfl⟩)]
    exact htouches

theorem exists_entries (hfits : Fits displays (topologyOf layout edge)) :
    ∃ entries, List.Forall₂ (CompiledAs (OrdMap.ofList (displays.map inventoryEntry)))
      (topologyOf layout edge).workspacePlacements entries := by
  refine exists_forall₂ fun placement hplacement => ?_
  have hid : placement.displayId ∈ displays.map (·.id) := by
    rw [← h.placed.mem_iff]
    rw [topologyOf_workspacePlacements] at hplacement
    obtain ⟨display, hdisplay, rfl⟩ := List.mem_map.mp hplacement
    exact List.mem_map_of_mem hdisplay
  obtain ⟨display, hdisplay, hname⟩ := List.mem_map.mp hid
  exact ⟨_, (compiledAs_iff h.distinct).mpr ⟨display, hdisplay, hname, rfl, hfits.1 _ _
    ⟨display, hdisplay, placement, hplacement, hname, rfl, rfl⟩⟩⟩

end

theorem nodup_linkEntries (h : Crossing displays layout edge) {compiled : DisplayTable}
    (hlinked : List.Forall₂ (LinkedAs compiled) (topologyOf layout edge).workspaceLinks
      linkEntries) : (linkEntries.map Prod.fst).Nodup := by
  rw [← forall₂_map_eq (f := fun link : WorkspaceLink =>
    toLex (link.sourceDisplay, edgeKey link.sourceEdge)) hlinked fun _ _ has => has.key.symm,
    TopologyConfig.workspaceLinks, List.map_map]
  refine ((List.perm_insertionSort _ _).map _).nodup_iff.mpr ?_
  simp [h.ends_differ]

/-- A topology of the setup compiles exactly if it is not too large, its rectangles fit
    and the displays of its links meet. -/
theorem compiles_iff (h : Placeable displays layout) (hcrossing : Crossing displays layout edge)
    (compiler : ConfiguredWorkspaceCompiler) (epoch : ℕ) :
    (∃ w, compiler.compileWorkspace epoch displays (topologyOf layout edge).workspacePlacements
        (topologyOf layout edge).workspaceLinks = .ok w) ↔
      displays.length ≤ maxWorkspaceDisplays ∧ Fits displays (topologyOf layout edge) ∧
        LinksMeet displays (topologyOf layout edge) := by
  simp only [compileWorkspace_eq_ok]
  constructor
  · rintro ⟨w, entries, linkEntries, hcompiled, -⟩
    exact h.of_compiled hcompiled
  · rintro ⟨hfew, hfits, hmeet⟩
    obtain ⟨entries, hentries⟩ := h.exists_entries hfits
    obtain ⟨linkEntries, hlinked⟩ := h.exists_linkEntries hentries hcrossing hmeet
    refine ⟨_, entries, linkEntries, ?_, rfl⟩
    exact {
      few_displays := hfew
      some_display := by
        rintro rfl
        cases hcrossing.own_display
      few_placements := h.placements_length.trans_le hfew
      few_links := by
        rw [TopologyConfig.workspaceLinks, List.length_map, topologyOf, List.length_insertionSort]
        exact show 2 ≤ maxWorkspaceLinks by decide
      compilable := h.compilable
      distinct := h.distinct
      few_hosts := h.few_hosts
      placed := hentries
      placed_once := h.nodup_entries hentries
      placed_all := hentries.length_eq.symm.trans h.placements_length
      within := by
        intro r hr r' hr'
        obtain ⟨⟨id, c⟩, hc, rfl⟩ := List.mem_map.mp hr
        obtain ⟨⟨id', c'⟩, hc', rfl⟩ := List.mem_map.mp hr'
        exact hfits.2 id _ id' _ ((h.mem_entries hentries _ _).mp ⟨c, hc, rfl⟩)
          ((h.mem_entries hentries _ _).mp ⟨c', hc', rfl⟩)
      linked := hlinked
      linked_once := nodup_linkEntries hcrossing hlinked
      reciprocal := by
        refine reciprocal_of_reversed hlinked (nodup_linkEntries hcrossing hlinked)
          fun link hlink => ?_
        obtain ⟨link, hmem, rfl⟩ := List.mem_map.mp hlink
        refine List.mem_map.mpr ⟨⟨link.toDisplay, link.toEdge, link.fromDisplay, link.fromEdge⟩,
          mem_topologyOf_links.mpr ?_, rfl⟩
        rcases mem_topologyOf_links.mp hmem with rfl | rfl
        · exact .inr rfl
        · exact .inl rfl }

end Placeable

/-! ## What the setup builds -/

/-- The id and the size of a display are those of a DTO. -/
def SameShape (codec : PanelCodec) (dto : DisplayDto) (display : Display) : Prop :=
  codec.parseDisplayId dto.id = some display.id ∧ display.logicalSize = ⟨dto.width, dto.height⟩

/-- The sum of the widths. -/
def totalWidth (displays : List Display) : ℚ := (displays.map (·.logicalSize.width)).sum

variable {dtos localDisplays peerDisplays : List DisplayDto} {displays : List Display}

theorem dimension_of_sameShape (h : List.Forall₂ (SameShape codec) dtos displays) :
    dtos.mapM codec.dimension = .ok (displays.map fun display =>
      (display.id, display.logicalSize)) := by
  rw [mapM_eq_ok, List.forall₂_map_right_iff]
  exact h.imp fun _ _ hshape => dimension_eq_ok.mpr ⟨hshape.1, hshape.2⟩

/-- The position of a display in a row that starts at `x`. -/
structure InRow (x : ℚ) (row : List Display) (position : DisplayLayoutDto) (display : Display) :
    Prop where
  name : position.displayId = display.id
  after : x ≤ position.x
  before : position.x + display.logicalSize.width ≤ x + totalWidth row
  top : position.y = 0

theorem totalWidth_cons (display : Display) (row : List Display) :
    totalWidth (display :: row) = display.logicalSize.width + totalWidth row := rfl

theorem placeInRow_cons {x : ℚ} {dto : DisplayDto} {display : Display}
    (hshape : SameShape codec dto display) (h : codec.placeInRow x (dto :: dtos) = .ok layout) :
    ∃ rest, codec.placeInRow (x + display.logicalSize.width) dtos = .ok rest ∧
      layout = ⟨display.id, x, 0⟩ :: rest := by
  obtain ⟨id, hid, h⟩ := except_bind_eq_ok.mp h
  obtain ⟨rest, hrest, h⟩ := except_bind_eq_ok.mp h
  cases h
  rw [Option.some.inj ((need_eq_ok hid).symm.trans hshape.1), hshape.2]
  exact ⟨rest, hrest, rfl⟩

section

variable {row : List Display} {x : ℚ} (h : codec.placeInRow x dtos = .ok layout)
  (hrow : List.Forall₂ (SameShape codec) dtos row)

include h hrow

theorem placeInRow_ok (hwidth : ∀ display ∈ row, 0 ≤ display.logicalSize.width) :
    List.Forall₂ (InRow x row) layout row := by
  induction hrow generalizing x layout with
  | nil =>
    cases h
    exact .nil
  | @cons dto display dtos row hshape _ ih =>
    rw [List.forall_mem_cons] at hwidth
    obtain ⟨rest, hrest, rfl⟩ := placeInRow_cons hshape h
    have htotal := totalWidth_cons display row
    have hnonneg : 0 ≤ totalWidth row := List.sum_nonneg fun width hmem => by
      obtain ⟨other, hother, rfl⟩ := List.mem_map.mp hmem
      exact hwidth.2 other hother
    refine .cons ⟨rfl, le_rfl, ?_, rfl⟩ ((ih hrest hwidth.2).imp fun position other hother => ?_)
    · rw [htotal]
      linarith
    · refine ⟨hother.name, ?_, ?_, hother.top⟩
      · linarith [hother.after, hwidth.1]
      · rw [htotal, ← add_assoc]
        exact hother.before

/-- The last display of a row reaches its end. -/
theorem placeInRow_reaches (hne : row ≠ []) :
    ∃ position ∈ layout, ∃ display ∈ row, position.displayId = display.id ∧
      position.x + display.logicalSize.width = x + totalWidth row := by
  induction hrow generalizing x layout with
  | nil => exact absurd rfl hne
  | @cons dto display dtos row hshape hrow ih =>
    obtain ⟨rest, hrest, rfl⟩ := placeInRow_cons hshape h
    rw [totalWidth_cons]
    cases row with
    | nil =>
      refine ⟨_, List.mem_cons_self, display, List.mem_cons_self, rfl, ?_⟩
      rw [totalWidth, List.map_nil, List.sum_nil, add_zero]
    | cons next row =>
      obtain ⟨position, hposition, other, hother, hids, hreach⟩ := ih hrest nofun
      refine ⟨position, List.mem_cons_of_mem _ hposition, other,
        List.mem_cons_of_mem _ hother, hids, ?_⟩
      rw [hreach, add_assoc]

end

theorem displaysLeftToRight_perm (dtos : List DisplayDto) :
    (displaysLeftToRight dtos).Perm dtos := by
  unfold displaysLeftToRight
  split_ifs
  · exact List.perm_insertionSort _ _
  · exact List.perm_insertionSort _ _

/-- A display at its place in a layout takes that rectangle in the topology. -/
theorem boundsIn_of_placed (edge : CrossHostEdge)
    (hdisplays : List.Forall₂ (SameShape codec) dtos displays) {dto : DisplayDto}
    (hdto : dto ∈ dtos) {entry : DisplayId × Rect} (hplaced : codec.placed layout dto = .ok entry) :
    BoundsIn displays (topologyOf layout edge) entry.1 entry.2 := by
  obtain ⟨display, hdisplay, hshape⟩ := forall₂_mem_left hdisplays hdto
  obtain ⟨hid, position, hposition, hrect⟩ := placed_eq_ok.mp hplaced
  have hname := List.find?_some hposition
  refine ⟨display, hdisplay, ⟨position.displayId, ⟨position.x, position.y⟩⟩, ?_, ?_, ?_, ?_⟩
  · rw [topologyOf_workspacePlacements]
    exact List.mem_map_of_mem (List.mem_of_find?_eq_some hposition)
  · exact Option.some.inj (hshape.1.symm.trans hid)
  · exact beq_iff_eq.mp hname
  · rw [hrect, hshape.2]
    rfl

section

variable (hdisplays : List.Forall₂ (SameShape codec) (localDisplays ++ peerDisplays) displays)

include hdisplays

/-- The default layout is a row of all displays. -/
theorem defaultDisplayLayout_ok {placement : Placement}
    (h : codec.defaultDisplayLayout localDisplays peerDisplays placement = .ok layout) :
    ∃ dtos row, codec.placeInRow 0 dtos = .ok layout ∧ List.Forall₂ (SameShape codec) dtos row ∧
      row.Perm displays := by
  have hperm : ∃ dtos, codec.placeInRow 0 dtos = .ok layout ∧
      dtos.Perm (localDisplays ++ peerDisplays) := by
    cases placement with
    | localLeft => exact ⟨_, h, (displaysLeftToRight_perm _).append (displaysLeftToRight_perm _)⟩
    | localRight =>
      exact ⟨_, h, ((displaysLeftToRight_perm _).append (displaysLeftToRight_perm _)).trans
        List.perm_append_comm⟩
  obtain ⟨dtos, hrow, hperm⟩ := hperm
  have hcomp : Relation.Comp List.Perm (List.Forall₂ (SameShape codec)) dtos displays :=
    ⟨_, hperm, hdisplays⟩
  rw [← List.forall₂_comp_perm_eq_perm_comp_forall₂] at hcomp
  obtain ⟨row, hshapes, hrowPerm⟩ := hcomp
  exact ⟨dtos, row, hrow, hshapes, hrowPerm⟩

/-- The layout that `build_config` goes on with places exactly the displays. -/
theorem chosenLayout_perm {placement : Placement} {requestedLayout : List DisplayLayoutDto}
    (h : codec.chosenLayout localDisplays peerDisplays placement requestedLayout = .ok layout)
    (hwidth : ∀ display ∈ displays, 0 ≤ display.logicalSize.width) :
    (layout.map (·.displayId)).Perm (displays.map (·.id)) := by
  unfold chosenLayout at h
  split_ifs at h
  · obtain ⟨dtos, row, hrow, hshapes, hperm⟩ := defaultDisplayLayout_ok hdisplays h
    rw [forall₂_map_eq (g := fun d : Display => d.id)
      (placeInRow_ok hrow hshapes fun display hmem =>
      hwidth display (hperm.mem_iff.mp hmem)) fun _ _ hin => hin.name]
    exact hperm.map _
  · obtain ⟨_, hvalid, h⟩ := except_bind_eq_ok.mp h
    cases h
    obtain ⟨dimensions, haccepted⟩ := validateDisplayLayout_eq_ok.mp hvalid
    cases (dimension_of_sameShape hdisplays).symm.trans haccepted.measured
    have hids := haccepted.complete
    have hseparate := haccepted.separate
    rw [List.map_map] at hids hseparate
    exact (List.perm_ext_iff_of_nodup haccepted.distinct hseparate).mpr hids

/-- The edge that `build_config` selects is that of the pair that ranks first. -/
theorem selected_pair (hplaceable : Placeable displays layout)
    (hedge : codec.selectedCrossHostEdge layout localDisplays peerDisplays = .ok edge) :
    ∃ own remote pair, PlacedIn codec layout localDisplays peerDisplays own remote ∧
      Least (rank pairLength (·.1.1) (·.2.1)) (facingPairs codec layout localDisplays peerDisplays)
        pair ∧
      candidate pair.1 pair.2 = some (pairLength pair, edge) ∧
      BoundsIn displays (topologyOf layout edge) edge.localDisplay pair.1.2 ∧
      BoundsIn displays (topologyOf layout edge) edge.remoteDisplay pair.2.2 := by
  have hmeasured := dimension_of_sameShape hdisplays
  have hids : (displays.map fun display => (display.id, display.logicalSize)).map Prod.fst =
      displays.map (·.id) := List.map_map
  obtain ⟨own, remote, hplaced⟩ := placedIn_of_complete hmeasured (hids ▸ hplaceable.distinct)
    fun id => hids ▸ hplaceable.placed.mem_iff
  obtain ⟨pair, hleast, hcandidate⟩ := selectedCrossHostEdge_eq_ok hplaced hedge
  obtain ⟨-, hown, hremote⟩ := candidate_eq_some.mp hcandidate
  obtain ⟨⟨dto, hdto, hdtoPlaced⟩, ⟨dto', hdto', hdtoPlaced'⟩, -⟩ := hleast.1
  refine ⟨own, remote, pair, hplaced, hleast, hcandidate, ?_, ?_⟩
  · exact hown ▸ boundsIn_of_placed edge hdisplays (List.mem_append_left _ hdto) hdtoPlaced
  · exact hremote ▸ boundsIn_of_placed edge hdisplays (List.mem_append_right _ hdto') hdtoPlaced'

/-- The edge that `build_config` selects is a crossing of its layout. -/
theorem crossing_of_selected (hplaceable : Placeable displays layout)
    (hedge : codec.selectedCrossHostEdge layout localDisplays peerDisplays = .ok edge) :
    Crossing displays layout edge := by
  obtain ⟨own, remote, pair, hplaced, hleast, hcandidate, hbounds, hbounds'⟩ :=
    selected_pair hdisplays hplaceable hedge
  obtain ⟨htouching, hown, hremote⟩ := candidate_eq_some.mp hcandidate
  obtain ⟨hopposite, hlong⟩ := facing_of_touching htouching
  refine ⟨?_, ?_, ?_, hopposite, fun r s hr hs => ?_⟩
  · obtain ⟨display, hdisplay, -, -, hname, -⟩ := hbounds
    exact hname ▸ List.mem_map_of_mem hdisplay
  · obtain ⟨display, hdisplay, -, -, hname, -⟩ := hbounds'
    exact hname ▸ List.mem_map_of_mem hdisplay
  · rw [hown, hremote]
    exact hplaced.ne hleast.1 hleast.1
  · rw [hplaceable.bounds_unique hr hbounds, hplaceable.bounds_unique hs hbounds']
    exact hlong

/-- The two links of a topology meet exactly if the pair that ranks first in its layout does. -/
theorem linksMeet_iff (hplaceable : Placeable displays layout)
    (hedge : codec.selectedCrossHostEdge layout localDisplays peerDisplays = .ok edge) :
    LinksMeet displays (topologyOf layout edge) ↔
      FirstPairMeets codec layout localDisplays peerDisplays := by
  obtain ⟨own, remote, pair, hplaced, hleast, hcandidate, hbounds, hbounds'⟩ :=
    selected_pair hdisplays hplaceable hedge
  obtain ⟨htouching, -, -⟩ := candidate_eq_some.mp hcandidate
  constructor
  · intro hmeet other hother touching htouching'
    -- only one pair ranks first
    have hrank := le_antisymm (hleast.2 other hother.1) (hother.2 pair hleast.1)
    obtain rfl : pair = other := hplaced.pair_ext hleast.1 hother.1
      (congrArg (fun key => (ofLex (ofLex key).2).1) hrank)
      (congrArg (fun key => (ofLex (ofLex key).2).2) hrank)
    cases htouching.symm.trans htouching'
    exact hmeet _ (mem_topologyOf_links.mpr (.inl rfl)) _ _ hbounds hbounds'
  · intro hfirst link hlink source destination hsource hdestination
    have htouches := hfirst pair hleast _ htouching
    rcases mem_topologyOf_links.mp hlink with rfl | rfl
    · rw [hplaceable.bounds_unique hsource hbounds,
        hplaceable.bounds_unique hdestination hbounds']
      exact htouches
    · rw [hplaceable.bounds_unique hsource hbounds',
        hplaceable.bounds_unique hdestination hbounds, (facing_of_touching htouching).1]
      exact (touches_opposite ..).trans htouches

end

/-! ## Sizes -/

theorem Compilable.size {display : Display} (h : Compilable display) :
    0 < display.logicalSize.width ∧ display.logicalSize.width ≤ 131072 ∧
      0 < display.logicalSize.height ∧ display.logicalSize.height ≤ 131072 := by
  have hgeometry := h.2.2
  simp only [validInventoryGeometry, Display.isValid, Bool.and_eq_true,
    decide_eq_true_eq] at hgeometry
  exact ⟨hgeometry.1.1.1.1.1.1.1.2, hgeometry.1.2, hgeometry.1.1.1.1.1.1.2, hgeometry.2⟩

/-- Rectangles inside a square of the compiler's extent fit. -/
theorem fits_of_framed {topology : TopologyConfig} (lo : ℚ) (hlo : -100000 ≤ lo) (hlo' : lo ≤ 0)
    (h : ∀ id r, BoundsIn displays topology id r → 0 < r.width ∧ 0 < r.height ∧ lo ≤ r.x ∧
      r.maxX ≤ lo + 1000000 ∧ lo ≤ r.y ∧ r.maxY ≤ lo + 1000000) :
    Placeable.Fits displays topology := by
  refine ⟨fun id r hr => ?_, fun id r id' r' hr hr' => ?_⟩
  · obtain ⟨hwidth, hheight, hx, hmaxX, hy, hmaxY⟩ := h id r hr
    simp only [Rect.maxX, Rect.maxY] at hmaxX hmaxY
    simp only [validWorkspaceBounds, Rect.isValid, Rect.size, Size.isValid, Rect.maxX, Rect.maxY,
      maxWorkspaceCoordinate, Bool.and_eq_true, decide_eq_true_eq, abs_le]
    refine ⟨⟨⟨⟨⟨⟨⟨decide_eq_true hwidth.le, decide_eq_true hheight.le⟩, hwidth⟩, hheight⟩, ?_, ?_⟩,
      ?_, ?_⟩, ?_, ?_⟩, ?_, ?_⟩ <;> linarith
  · obtain ⟨-, -, -, hmaxX, -, hmaxY⟩ := h id r hr
    obtain ⟨-, -, hx, -, hy, -⟩ := h id' r' hr'
    simp only [maxWorkspaceExtent]
    constructor <;> linarith

/-- The positions of a map that `validate_display_layout` accepts leave room for every display. -/
theorem fits_of_accepted (hcompilable : ∀ display ∈ displays, Compilable display)
    (hbounded : ∀ position ∈ layout, |position.x| ≤ 100000 ∧ |position.y| ≤ 100000) :
    Placeable.Fits displays (topologyOf layout edge) := by
  refine fits_of_framed (-100000) le_rfl (by norm_num) ?_
  rintro id _ ⟨display, hdisplay, placement, hplacement, -, -, rfl⟩
  rw [topologyOf_workspacePlacements] at hplacement
  obtain ⟨position, hposition, rfl⟩ := List.mem_map.mp hplacement
  obtain ⟨hx, hy⟩ := hbounded position hposition
  rw [abs_le] at hx hy
  obtain ⟨hwidth, hwidth', hheight, hheight'⟩ := (hcompilable display hdisplay).size
  simp only [Rect.fromOriginAndSize, Rect.maxX, Rect.maxY]
  refine ⟨hwidth, hheight, ?_, ?_, ?_, ?_⟩ <;> linarith

/-- A row fits exactly if it is no wider than the compiler's extent. -/
theorem fits_row_iff {row : List Display}
    (hplaceable : Placeable displays layout) (hrow : codec.placeInRow 0 dtos = .ok layout)
    (hshapes : List.Forall₂ (SameShape codec) dtos row) (hperm : row.Perm displays)
    (hne : displays ≠ []) :
    Placeable.Fits displays (topologyOf layout edge) ↔
      totalWidth displays ≤ maxWorkspaceExtent := by
  have htotal : totalWidth row = totalWidth displays := (hperm.map _).sum_eq
  have hwidth : ∀ display ∈ row, 0 ≤ display.logicalSize.width := fun display hmem =>
    (hplaceable.compilable display (hperm.mem_iff.mp hmem)).size.1.le
  have hin := placeInRow_ok hrow hshapes hwidth
  constructor
  · intro hfits
    have hrowNe : row ≠ [] := fun hnil => hne (List.nil_perm.mp (hnil ▸ hperm))
    obtain ⟨position, hposition, display, hdisplay, hname, hreach⟩ :=
      placeInRow_reaches hrow hshapes hrowNe
    have hbounds : BoundsIn displays (topologyOf layout edge) display.id
        (.fromOriginAndSize ⟨position.x, position.y⟩ display.logicalSize) :=
      ⟨display, hperm.mem_iff.mp hdisplay, ⟨position.displayId, ⟨position.x, position.y⟩⟩,
        topologyOf_workspacePlacements ▸ List.mem_map_of_mem hposition, rfl, hname, rfl⟩
    have hvalid := hfits.1 _ _ hbounds
    simp only [validWorkspaceBounds, Bool.and_eq_true, decide_eq_true_eq, Rect.fromOriginAndSize,
      Rect.maxX, hreach, zero_add, htotal] at hvalid
    exact (abs_le.mp hvalid.1.2).2
  · intro hextent
    refine fits_of_framed 0 (by norm_num) le_rfl ?_
    rintro id _ ⟨display, hdisplay, placement, hplacement, hname, hplaced, rfl⟩
    rw [topologyOf_workspacePlacements] at hplacement
    obtain ⟨position, hposition, rfl⟩ := List.mem_map.mp hplacement
    obtain ⟨other, hother, hinRow⟩ := forall₂_mem_left hin hposition
    obtain rfl : other = display := List.inj_on_of_nodup_map hplaceable.distinct
      (hperm.mem_iff.mp hother) hdisplay (hinRow.name.symm.trans (hplaced.trans hname.symm))
    obtain ⟨hwidth, -, hheight, hheight'⟩ := (hplaceable.compilable other hdisplay).size
    have hbefore := hinRow.before
    have hafter := hinRow.after
    have htop := hinRow.top
    unfold maxWorkspaceExtent at hextent
    simp only [Rect.fromOriginAndSize, Rect.maxX, Rect.maxY]
    refine ⟨hwidth, hheight, ?_, ?_, ?_, ?_⟩ <;> linarith

theorem sameShape_of_describes {host : HostId}
    (h : List.Forall₂ (Describes codec host) dtos displays) :
    List.Forall₂ (SameShape codec) dtos displays :=
  h.imp fun _ _ hdescribes => ⟨hdescribes.id, hdescribes.logicalSize⟩

/-- A topology of `build_config` compiles exactly if there are no more displays than the
    compiler takes, a row of default positions is no wider than it takes, and the
    facing pair of displays that ranks first in the layout meets within its tolerance. -/
theorem buildConfig_compiles {peer : PairingBundle} {localDisplays : List DisplayDto}
    {placement : Placement} {requestedLayout : List DisplayLayoutDto} {config : Config}
    {host host' : HostId} {own remote : List Display} (compiler : ConfiguredWorkspaceCompiler)
    (epoch : ℕ) (hown : List.Forall₂ (Describes codec host) localDisplays own)
    (hremote : List.Forall₂ (Describes codec host') peer.displays remote)
    (hcompilable : ∀ display ∈ own ++ remote, Compilable display)
    (hbuilt : codec.buildConfig peer localDisplays placement requestedLayout = .ok config) :
    (∃ w, compiler.compileWorkspace epoch (own ++ remote) config.topology.workspacePlacements
        config.topology.workspaceLinks = .ok w) ↔
      (own ++ remote).length ≤ maxWorkspaceDisplays ∧
      (requestedLayout = [] → totalWidth (own ++ remote) ≤ maxWorkspaceExtent) ∧
      ∀ layout, codec.chosenLayout localDisplays peer.displays placement requestedLayout =
        .ok layout → FirstPairMeets codec layout localDisplays peer.displays := by
  have hhosts : (addHosts (own ++ remote) ∅).card ≤ maxWorkspaceHosts := by
    have hsubset : addHosts (own ++ remote) ∅ ⊆ {host, host'} := by
      refine addHosts_subset (Finset.empty_subset _) fun display hdisplay => ?_
      rcases List.mem_append.mp hdisplay with hmem | hmem
      · obtain ⟨dto, -, hdescribes⟩ := forall₂_mem_right hown hmem
        simp [hdescribes.hostId]
      · obtain ⟨dto, -, hdescribes⟩ := forall₂_mem_right hremote hmem
        simp [hdescribes.hostId]
    exact (Finset.card_le_card hsubset).trans (Finset.card_le_two.trans (by decide))
  obtain ⟨layout, hlayout, hbuilt⟩ := except_bind_eq_ok.mp hbuilt
  obtain ⟨edge, hedge, hbuilt⟩ := except_bind_eq_ok.mp hbuilt
  obtain ⟨host, -, hbuilt⟩ := except_bind_eq_ok.mp hbuilt
  dsimp only at hbuilt
  split at hbuilt
  swap
  · cases hbuilt
  rename_i hok
  have hvalid := (configOf_validate.mp hok).2
  cases hbuilt
  have hshapes : List.Forall₂ (SameShape codec) (localDisplays ++ peer.displays) (own ++ remote) :=
    List.rel_append (sameShape_of_describes hown) (sameShape_of_describes hremote)
  have hperm := chosenLayout_perm hshapes hlayout fun display hdisplay =>
    (hcompilable display hdisplay).size.1.le
  simp only [Config.validateTopology, Config.ensureUnique, except_bind_eq_ok, configRequire_eq_ok,
    forM_eq_ok, exists_const, decide_eq_true_eq, Bool.and_eq_true, Bool.not_eq_true',
    topologyOf_displayIds] at hvalid
  have hplaceable : Placeable (own ++ remote) layout :=
    ⟨hcompilable, hperm.nodup_iff.mp hvalid.1, hhosts, hperm⟩
  have hcrossing := crossing_of_selected hshapes hplaceable hedge
  have hne : own ++ remote ≠ [] := fun hnil => by
    have hmem := hcrossing.own_display
    rw [hnil] at hmem
    cases hmem
  have hfits : Placeable.Fits (own ++ remote) (topologyOf layout edge) ↔
      (requestedLayout = [] → totalWidth (own ++ remote) ≤ maxWorkspaceExtent) := by
    unfold chosenLayout at hlayout
    split_ifs at hlayout with hempty
    · obtain ⟨dtos, row, hrow, hrowShapes, hrowPerm⟩ := defaultDisplayLayout_ok hshapes hlayout
      rw [fits_row_iff hplaceable hrow hrowShapes hrowPerm hne]
      exact ⟨fun h _ => h, fun h => h (List.isEmpty_iff.mp hempty)⟩
    · obtain ⟨_, haccepted, h⟩ := except_bind_eq_ok.mp hlayout
      cases h
      obtain ⟨dimensions, haccepted⟩ := validateDisplayLayout_eq_ok.mp haccepted
      exact ⟨fun _ hnil => absurd (List.isEmpty_iff.mpr hnil) hempty,
        fun _ => fits_of_accepted hcompilable haccepted.bounded⟩
  have hmeets : LinksMeet (own ++ remote) (topologyOf layout edge) ↔
      ∀ chosen, codec.chosenLayout localDisplays peer.displays placement requestedLayout =
        .ok chosen → FirstPairMeets codec chosen localDisplays peer.displays := by
    rw [linksMeet_iff hshapes hplaceable hedge, hlayout]
    simp
  exact (hplaceable.compiles_iff hcrossing compiler epoch).trans (by rw [hfits, hmeets])

end

/-! ## Two sample topologies -/

namespace PanelCodec.Sample

/-- A display that `square` describes. -/
def squareDisplay (id host : ℕ) : Display where
  id := ⟨id⟩
  hostId := ⟨host⟩
  name := "D"
  logicalSize := ⟨100, 100⟩
  physicalSize := none
  scaleFactor := 1
  refreshRate := none
  nativeBounds := ⟨0, 0, 100, 100⟩
  primary := true

/-- A host with display 3 only. -/
def single : PairingBundle := { bundle 'B' with displays := [square '3'] }

/-- Display 3 to the right of display 1, at a distance. -/
def apart (gap : ℚ) : List DisplayLayoutDto := [⟨⟨1⟩, 0, 0⟩, ⟨⟨3⟩, 100 + gap, 0⟩]

/-- The result of the compiler for what the setup builds of a layout. -/
def compiledLayout (layout : List DisplayLayoutDto) :
    Option (Except WorkspaceCompileError ConfiguredWorkspace) :=
  (layoutCodec.buildConfig single [square '1'] .localLeft layout).toOption.map fun config =>
    (ConfiguredWorkspaceCompiler.new fun _ _ => 1).compileWorkspace 1
      [squareDisplay 1 1, squareDisplay 3 2] config.topology.workspacePlacements
      config.topology.workspaceLinks

/-- Half a thousandth apart, the displays touch for the setup and not for the compiler. -/
theorem gap_not_compiled : (compiledLayout (apart (1 / 2000))).map (fun
      | .ok _ => none
      | .error error => some error) = some (some .invalidLinkGeometry) := by
  decide +kernel

/-- Side by side, they compile. -/
theorem buildConfig_compiles_adjacent :
    (∃ config, layoutCodec.buildConfig single [square '1'] .localLeft (apart 0) = .ok config) ∧
      ∀ layout, layoutCodec.chosenLayout [square '1'] single.displays .localLeft (apart 0) =
        .ok layout → FirstPairMeets layoutCodec layout [square '1'] single.displays := by
  have hbuilt : (layoutCodec.buildConfig single [square '1'] .localLeft
      (apart 0)).toOption.isSome := by decide +kernel
  refine ⟨⟨_, Except.eq_ok_get hbuilt⟩, ?_⟩
  have hcompiled : ((ConfiguredWorkspaceCompiler.new fun _ _ => 1).compileWorkspace 1
      ([squareDisplay 1 1] ++ [squareDisplay 3 2])
      ((layoutCodec.buildConfig single [square '1'] .localLeft (apart 0)).toOption.get
        hbuilt).topology.workspacePlacements
      ((layoutCodec.buildConfig single [square '1'] .localLeft (apart 0)).toOption.get
        hbuilt).topology.workspaceLinks).toOption.isSome := by decide +kernel +revert
  have hown : List.Forall₂ (Describes layoutCodec ⟨1⟩) [square '1'] [squareDisplay 1 1] :=
    .cons ⟨rfl, rfl, rfl⟩ .nil
  have hremote : List.Forall₂ (Describes layoutCodec ⟨2⟩) single.displays [squareDisplay 3 2] :=
    .cons ⟨rfl, rfl, rfl⟩ .nil
  have hcompilable : ∀ display ∈ [squareDisplay 1 1] ++ [squareDisplay 3 2],
      Compilable display := by
    unfold Compilable
    decide +kernel
  exact ((buildConfig_compiles _ 1 hown hremote hcompilable (Except.eq_ok_get hbuilt)).mp
    ⟨_, Except.eq_ok_get hcompiled⟩).2.2

end PanelCodec.Sample

end SoftwareKvm
