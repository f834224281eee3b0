import Mathlib.Algebra.Order.Group.Abs
import Mathlib.Data.Char
import Mathlib.Data.List.Lex
import Mathlib.Data.List.ReduceOption
import Mathlib.Tactic.Linarith
import SoftwareKvm.Lib.Lists
import SoftwareKvm.Lib.Selection
import SoftwareKvm.Setup.State

/-!
# From a display map to a topology

Models of `build_config` and of what it is made of (`setup.rs`, lines 1606–1696 and
1884–2042): `validate_display_layout`, `default_display_layout`,
`selected_cross_host_edge` and `touching_edges`. Coordinates are exact rationals.

* `buildConfig_eq_ok`: what `build_config` returns for a map that it accepts;
* `buildConfig_agree`: when the two hosts of one map derive the same topology from
  it. The crossing edge is the longest one, and of several the one whose *local*
  display has the least id, so two longest edges can be ranked differently by the two
  hosts (`Sample.different_links`).
-/

namespace SoftwareKvm

open Lib

/-! ## Model -/

/-- The tolerance of `touching_edges` and of `validate_display_layout`. -/
def layoutEpsilon : ℚ := 1 / 1000

/-- The overlap of two rectangles in the direction of `y`. -/
def verticalOverlap (first second : Rect) : ℚ :=
  min first.maxY second.maxY - max first.y second.y

/-- The overlap of two rectangles in the direction of `x`. -/
def horizontalOverlap (first second : Rect) : ℚ :=
  min first.maxX second.maxX - max first.x second.x

/-- `touching_edges`, with each display at its position: the edge of the first, the edge
    of the second and their common length. -/
def touchingEdges (first second : Rect) : Option (Edge × Edge × ℚ) :=
  if layoutEpsilon < verticalOverlap first second ∧ |first.maxX - second.x| ≤ layoutEpsilon then
    some (.right, .left, verticalOverlap first second)
  else if layoutEpsilon < verticalOverlap first second
      ∧ |first.x - second.maxX| ≤ layoutEpsilon then
    some (.left, .right, verticalOverlap first second)
  else if layoutEpsilon < horizontalOverlap first second
      ∧ |first.maxY - second.y| ≤ layoutEpsilon then
    some (.bottom, .top, horizontalOverlap first second)
  else if layoutEpsilon < horizontalOverlap first second
      ∧ |first.y - second.maxY| ≤ layoutEpsilon then
    some (.top, .bottom, horizontalOverlap first second)
  else none

/-- What `selected_cross_host_edge` returns. -/
structure CrossHostEdge where
  localDisplay : DisplayId
  localEdge : Edge
  remoteDisplay : DisplayId
  remoteEdge : Edge

namespace PanelCodec

variable (codec : PanelCodec) (layout : List DisplayLayoutDto)

/-- The id of a display and the rectangle it takes in a layout. -/
def placed (display : DisplayDto) : Except SetupError (DisplayId × Rect) := do
  let id ← need (codec.parseDisplayId display.id)
  let position ← need (layout.find? fun position => position.displayId == id)
  .ok (id, ⟨position.x, position.y, display.width, display.height⟩)

/-- The candidate for the crossing edge that two placed displays give. -/
def candidate (own remote : DisplayId × Rect) : Option (ℚ × CrossHostEdge) :=
  (touchingEdges own.2 remote.2).map fun (localEdge, remoteEdge, overlap) =>
    (overlap, ⟨own.1, localEdge, remote.1, remoteEdge⟩)

/-- The order in which `selected_cross_host_edge` sorts its candidates. -/
def candidateRank : ℚ × CrossHostEdge → ℚᵒᵈ ×ₗ DisplayId ×ₗ DisplayId :=
  rank (·.1) (·.2.localDisplay) (·.2.remoteDisplay)

/-- The first candidate in that order. -/
def firstCandidate (candidates : List (ℚ × CrossHostEdge)) : Except SetupError CrossHostEdge :=
  need ((candidates.insertionSort fun a b => candidateRank a ≤ candidateRank b).head?.map Prod.snd)

def selectedCrossHostEdge
    (localDisplays peerDisplays : List DisplayDto) : Except SetupError CrossHostEdge := do
  let rows ← localDisplays.mapM fun display => do
    let own ← codec.placed layout display
    peerDisplays.mapM fun display => do
      let remote ← codec.placed layout display
      .ok (candidate own remote)
  firstCandidate rows.flatten.reduceOption

/-- The loop over all pairs of positions in `validate_display_layout`. -/
def checkOverlaps (dimensions : OrdMap DisplayId Size) :
    List DisplayLayoutDto → Except SetupError Unit
  | [] => .ok ()
  | first :: rest => do
    let firstSize ← need (dimensions.get? first.displayId)
    rest.forM fun second => do
      let secondSize ← need (dimensions.get? second.displayId)
      let firstBounds : Rect := .fromOriginAndSize ⟨first.x, first.y⟩ firstSize
      let secondBounds : Rect := .fromOriginAndSize ⟨second.x, second.y⟩ secondSize
      require !(layoutEpsilon < horizontalOverlap firstBounds secondBounds
        && layoutEpsilon < verticalOverlap firstBounds secondBounds)
    checkOverlaps dimensions rest

/-- The id and the size of a display. -/
def dimension (display : DisplayDto) : Except SetupError (DisplayId × Size) := do
  let id ← need (codec.parseDisplayId display.id)
  .ok (id, ⟨display.width, display.height⟩)

def validateDisplayLayout
    (localDisplays peerDisplays : List DisplayDto) : Except SetupError Unit := do
  require (layout.length == localDisplays.length + peerDisplays.length
    && layout.all fun display =>
      !display.displayId.isNil && |display.x| ≤ 100000 && |display.y| ≤ 100000)
  let dimensions ← (localDisplays ++ peerDisplays).mapM codec.dimension
  let actual := layout.map (·.displayId)
  require (decide actual.Nodup && decide (actual.toFinset = (dimensions.map Prod.fst).toFinset))
  checkOverlaps (.ofList dimensions) layout

/-- The key by which `displays_left_to_right` sorts displays with native bounds. -/
def nativeOrder (display : DisplayDto) : ℚ ×ₗ ℚ ×ₗ Bool ×ₗ List Char :=
  let bounds := display.nativeBounds.getD ⟨0, 0, 0, 0⟩
  toLex (bounds.x, toLex (bounds.y, toLex (!display.primary, display.id)))

def displaysLeftToRight (displays : List DisplayDto) : List DisplayDto :=
  if displays.all (·.nativeBounds.isSome) then
    displays.insertionSort fun left right => nativeOrder left ≤ nativeOrder right
  else displays.insertionSort fun left right => (!left.primary) ≤ (!right.primary)

/-- The loop of `default_display_layout`. -/
def placeInRow : ℚ → List DisplayDto → Except SetupError (List DisplayLayoutDto)
  | _, [] => .ok []
  | x, display :: rest => do
    let id ← need (codec.parseDisplayId display.id)
    let layout ← placeInRow (x + display.width) rest
    .ok (⟨id, x, 0⟩ :: layout)

def defaultDisplayLayout (localDisplays peerDisplays : List DisplayDto) (placement : Placement) :
    Except SetupError (List DisplayLayoutDto) :=
  let orderedLocal := displaysLeftToRight localDisplays
  let orderedPeer := displaysLeftToRight peerDisplays
  codec.placeInRow 0 (match placement with
    | .localLeft => orderedLocal ++ orderedPeer
    | .localRight => orderedPeer ++ orderedLocal)

/-- The one paired host of the configuration. -/
def pairedHost (peer : PairingBundle) : Except SetupError PairedHostConfig := do
  let hostId ← need (codec.parseHostId peer.hostId)
  let address ← need (codec.parseSocketAddr peer.address)
  let peerId ← need (codec.parsePeerId peer.peerId)
  .ok ⟨hostId, peerId, peer.displayName, peer.platform, peer.certificateFingerprint, some address⟩

/-- The topology of a layout with its crossing edge, in both directions. -/
def topologyOf (edge : CrossHostEdge) : TopologyConfig where
  displays := layout.map fun display => ⟨display.displayId, .finite display.x, .finite display.y⟩
  links :=
    [⟨edge.localDisplay, edge.localEdge, edge.remoteDisplay, edge.remoteEdge⟩,
      ⟨edge.remoteDisplay, edge.remoteEdge, edge.localDisplay, edge.localEdge⟩].insertionSort
      fun a b => a.fromDisplay ≤ b.fromDisplay

/-- The configuration that the setup makes of them. -/
def configOf (host : PairedHostConfig) (topology : TopologyConfig) : Config where
  pairedHosts := [host]
  topology := topology
  network := { discoveryEnabled := false, listenPort := kvmPort }

/-- The layout that `build_config` goes on with. -/
def chosenLayout (localDisplays peerDisplays : List DisplayDto) (placement : Placement)
    (requestedLayout : List DisplayLayoutDto) : Except SetupError (List DisplayLayoutDto) :=
  if requestedLayout.isEmpty then codec.defaultDisplayLayout localDisplays peerDisplays placement
  else do
    codec.validateDisplayLayout requestedLayout localDisplays peerDisplays
    .ok requestedLayout

/-- `build_config`. Every failure is `coarse_error`, so the host is read at the end. -/
def buildConfig (peer : PairingBundle) (localDisplays : List DisplayDto) (placement : Placement)
    (requestedLayout : List DisplayLayoutDto) : Except SetupError Config := do
  let layout ← codec.chosenLayout localDisplays peer.displays placement requestedLayout
  let edge ← codec.selectedCrossHostEdge layout localDisplays peer.displays
  let host ← codec.pairedHost peer
  let config := configOf host (topologyOf layout edge)
  match config.validate with
  | .ok () => .ok config
  | .error _ => .error .coarse

end PanelCodec

/-! ## Touching edges, from either side -/

section

variable {first second : Rect}

theorem verticalOverlap_comm (first second : Rect) :
    verticalOverlap first second = verticalOverlap second first := by
  rw [verticalOverlap, verticalOverlap, min_comm, max_comm]

theorem horizontalOverlap_comm (first second : Rect) :
    horizontalOverlap first second = horizontalOverlap second first := by
  rw [horizontalOverlap, horizontalOverlap, min_comm, max_comm]

/-- The length of the common edge of two displays, if they touch. -/
def touchLength (first second : Rect) : Option ℚ := (touchingEdges first second).map (·.2.2)

/-- Both displays see a common edge, of the same length. -/
theorem touchLength_comm (first second : Rect) :
    touchLength first second = touchLength second first := by
  have hright := abs_sub_comm first.maxX second.x
  have hleft := abs_sub_comm first.x second.maxX
  have hbottom := abs_sub_comm first.maxY second.y
  have htop := abs_sub_comm first.y second.maxY
  unfold touchLength touchingEdges
  rw [verticalOverlap_comm second first, horizontalOverlap_comm second first, hright, hleft,
    hbottom, htop]
  grind

/-- The second display sees the edges of the first exchanged. -/
def Mirrored (first second : Rect) : Prop :=
  touchingEdges second first = (touchingEdges first second).map fun (e, e', overlap) =>
    (e', e, overlap)

end

namespace PanelCodec

section

variable {codec : PanelCodec} {layout : List DisplayLayoutDto}
  {displays localDisplays peerDisplays : List DisplayDto}

theorem require_eq_ok {check : Bool} {u : Unit} : require check = .ok u ↔ check = true := by
  cases check <;> simp [require]

theorem need_eq_ok_iff {α : Type} {value : Option α} {a : α} :
    need value = .ok a ↔ value = some a :=
  ⟨need_eq_ok, fun h => h ▸ rfl⟩

theorem dimension_eq_ok {display : DisplayDto} {entry : DisplayId × Size} :
    codec.dimension display = .ok entry ↔
      codec.parseDisplayId display.id = some entry.1
        ∧ entry.2 = ⟨display.width, display.height⟩ := by
  simp only [dimension, except_bind_eq_ok, need_eq_ok_iff]
  constructor
  · rintro ⟨id, hid, h⟩
    cases h
    exact ⟨hid, rfl⟩
  · rintro ⟨hid, hsize⟩
    exact ⟨entry.1, hid, by rw [← hsize]⟩

/-- What `validate_display_layout` accepts. -/
structure Accepted (codec : PanelCodec) (layout : List DisplayLayoutDto)
    (localDisplays peerDisplays : List DisplayDto) (dimensions : List (DisplayId × Size)) :
    Prop where
  named : ∀ display ∈ layout, display.displayId.isNil = false
  bounded : ∀ display ∈ layout, |display.x| ≤ 100000 ∧ |display.y| ≤ 100000
  distinct : (layout.map (·.displayId)).Nodup
  measured : (localDisplays ++ peerDisplays).mapM codec.dimension = .ok dimensions
  separate : (dimensions.map Prod.fst).Nodup
  complete : ∀ id, id ∈ layout.map (·.displayId) ↔ id ∈ dimensions.map Prod.fst
  apart : checkOverlaps (.ofList dimensions) layout = .ok ()

theorem validateDisplayLayout_eq_ok :
    codec.validateDisplayLayout layout localDisplays peerDisplays = .ok () ↔
      ∃ dimensions, Accepted codec layout localDisplays peerDisplays dimensions := by
  simp only [validateDisplayLayout, except_bind_eq_ok, require_eq_ok, Bool.and_eq_true, beq_iff_eq,
    List.all_eq_true, decide_eq_true_eq, Bool.not_eq_true', exists_const]
  constructor
  · rintro ⟨⟨hlength, hall⟩, dimensions, hmeasured, ⟨hdistinct, hsame⟩, hapart⟩
    refine ⟨dimensions, fun display h => (hall display h).1.1,
      fun display h => ⟨(hall display h).1.2, (hall display h).2⟩, hdistinct, hmeasured, ?_,
      fun id => by rw [← List.mem_toFinset, hsame, List.mem_toFinset], hapart⟩
    -- as many names as displays: no two displays share one
    have hcard := congrArg Finset.card hsame
    rw [List.toFinset_card_of_nodup hdistinct, List.length_map, hlength, ← List.length_append,
      ← length_of_mapM_eq_ok hmeasured, ← List.length_map] at hcard
    exact Multiset.toFinset_card_eq_card_iff_nodup.mp hcard.symm
  · rintro ⟨dimensions, h⟩
    have hsame : (layout.map (·.displayId)).toFinset = (dimensions.map Prod.fst).toFinset := by
      ext id
      rw [List.mem_toFinset, List.mem_toFinset]
      exact h.complete id
    have hcard := congrArg Finset.card hsame
    rw [List.toFinset_card_of_nodup h.distinct, List.toFinset_card_of_nodup h.separate,
      List.length_map, List.length_map, length_of_mapM_eq_ok h.measured,
      List.length_append] at hcard
    exact ⟨⟨hcard, fun display hdisplay => ⟨⟨h.named display hdisplay,
      (h.bounded display hdisplay).1⟩, (h.bounded display hdisplay).2⟩⟩, dimensions, h.measured,
      ⟨h.distinct, hsame⟩, h.apart⟩

/-- The hosts of a map accept it together. -/
theorem validateDisplayLayout_comm
    (h : codec.validateDisplayLayout layout localDisplays peerDisplays = .ok ()) :
    codec.validateDisplayLayout layout peerDisplays localDisplays = .ok () := by
  obtain ⟨dimensions, h⟩ := validateDisplayLayout_eq_ok.mp h
  obtain ⟨own, remote, hown, hremote, rfl⟩ := mapM_append_inv h.measured
  have hperm : (own ++ remote).Perm (remote ++ own) := List.perm_append_comm
  have hids := hperm.map Prod.fst
  refine validateDisplayLayout_eq_ok.mpr ⟨remote ++ own, h.named, h.bounded, h.distinct,
    by rw [List.mapM_append, hremote, hown]; rfl, hids.nodup_iff.mp h.separate,
    fun id => (h.complete id).trans hids.mem_iff, ?_⟩
  rw [← OrdMap.ofList_congr hperm h.separate]
  exact h.apart

theorem placed_eq_ok {display : DisplayDto} {entry : DisplayId × Rect} :
    codec.placed layout display = .ok entry ↔
      codec.parseDisplayId display.id = some entry.1 ∧ ∃ position,
        layout.find? (fun position => position.displayId == entry.1) = some position ∧
        entry.2 = ⟨position.x, position.y, display.width, display.height⟩ := by
  simp only [placed, except_bind_eq_ok, need_eq_ok_iff]
  constructor
  · rintro ⟨id, hid, position, hposition, h⟩
    cases h
    exact ⟨hid, position, hposition, rfl⟩
  · rintro ⟨hid, position, hposition, hrect⟩
    exact ⟨entry.1, hid, position, hposition, by rw [← hrect]⟩

/-- Displays whose ids a layout has are placed in it, under those ids. -/
theorem mapM_placed {entries : List (DisplayId × Size)}
    (hentries : displays.mapM codec.dimension = .ok entries)
    (hcomplete : ∀ id ∈ entries.map Prod.fst, id ∈ layout.map (·.displayId)) :
    ∃ rects, displays.mapM (codec.placed layout) = .ok rects ∧
      rects.map Prod.fst = entries.map Prod.fst := by
  rw [mapM_eq_ok] at hentries
  induction hentries with
  | nil => exact ⟨[], rfl, rfl⟩
  | @cons display entry displays entries hentry hrest ih =>
    rw [List.map_cons, List.forall_mem_cons] at hcomplete
    obtain ⟨rects, hrects, hids⟩ := ih hcomplete.2
    obtain ⟨hid, -⟩ := dimension_eq_ok.mp hentry
    obtain ⟨position, hposition⟩ : ∃ position,
        layout.find? (fun position => position.displayId == entry.1) = some position := by
      rw [← Option.isSome_iff_exists, List.find?_isSome]
      obtain ⟨position, hmem, hname⟩ := List.mem_map.mp hcomplete.1
      exact ⟨position, hmem, beq_iff_eq.mpr hname⟩
    refine ⟨(entry.1, ⟨position.x, position.y, display.width, display.height⟩) :: rects, ?_, ?_⟩
    · exact mapM_eq_ok.mpr (.cons (placed_eq_ok.mpr ⟨hid, position, hposition, rfl⟩)
        (mapM_eq_ok.mp hrects))
    · rw [List.map_cons, List.map_cons, hids]

/-- The candidates for the crossing edge, from displays at their places. -/
def candidates (own remote : List (DisplayId × Rect)) : List (ℚ × CrossHostEdge) :=
  (own.map fun display => remote.map (candidate display)).flatten.reduceOption

theorem mem_candidates {own remote : List (DisplayId × Rect)} {c : ℚ × CrossHostEdge} :
    c ∈ candidates own remote ↔ ∃ a ∈ own, ∃ b ∈ remote, candidate a b = some c := by
  simp [candidates, List.reduceOption_mem_iff]

theorem selectedCrossHostEdge_eq {own remote : List (DisplayId × Rect)}
    (hown : localDisplays.mapM (codec.placed layout) = .ok own)
    (hremote : peerDisplays.mapM (codec.placed layout) = .ok remote) :
    codec.selectedCrossHostEdge layout localDisplays peerDisplays =
      firstCandidate (candidates own remote) := by
  unfold selectedCrossHostEdge
  simp only [mapM_bind_ok hremote]
  rw [mapM_bind_ok hown]
  rfl

/-! ## The configuration -/

theorem configRequire_eq_ok {check : Bool} {detail : String} {u : Unit} :
    Config.require check detail = .ok u ↔ check = true := by
  cases check <;> simp [Config.require]

/-- The settings that the setup leaves at their defaults are valid. -/
theorem configOf_validate {host : PairedHostConfig} {topology : TopologyConfig} :
    (configOf host topology).validate = .ok () ↔
      Config.validatePairedHosts [host] = .ok () ∧ Config.validateTopology topology = .ok () := by
  have hroutes : Config.validateDeviceRoutes (configOf host topology) = .ok () := rfl
  have hnetwork : Config.validateNetwork (configOf host topology).network = .ok () := by
    simp [Config.validateNetwork, Config.require, configOf, kvmPort, bind, Except.bind]
  simp only [Config.validate, Config.ensureUnique, except_bind_eq_ok, configRequire_eq_ok,
    hroutes, hnetwork, exists_const, and_true]
  constructor
  · rintro ⟨-, ⟨⟩, hhost, ⟨⟩, htopology, -⟩
    exact ⟨hhost, htopology⟩
  · rintro ⟨hhost, htopology⟩
    exact ⟨rfl, (), hhost, (), htopology, trivial, rfl, rfl, rfl, by simp [configOf]⟩

variable {edge : CrossHostEdge} {placement : Placement} {dimensions : List (DisplayId × Size)}
  {pair : DisplayPair} {peer : PairingBundle}

theorem mem_topologyOf_links {link : TopologyLink} : link ∈ (topologyOf layout edge).links ↔
      link = ⟨edge.localDisplay, edge.localEdge, edge.remoteDisplay, edge.remoteEdge⟩ ∨
      link = ⟨edge.remoteDisplay, edge.remoteEdge, edge.localDisplay, edge.localEdge⟩ := by
  rw [topologyOf, List.mem_insertionSort, List.mem_pair]

theorem topologyOf_displayIds :
    (topologyOf layout edge).displays.map (·.displayId) = layout.map (·.displayId) := by
  simp [topologyOf, Function.comp_def]

/-- A crossing edge between two displays of a layout makes a valid topology. -/
theorem validateTopology_topologyOf (edge : CrossHostEdge)
    (hown : edge.localDisplay ∈ layout.map (·.displayId))
    (hremote : edge.remoteDisplay ∈ layout.map (·.displayId))
    (hne : edge.localDisplay ≠ edge.remoteDisplay) (hnodup : (layout.map (·.displayId)).Nodup)
    (hnamed : ∀ display ∈ layout, display.displayId.isNil = false) :
    Config.validateTopology (topologyOf layout edge) = .ok () := by
  have hlinks : ((topologyOf layout edge).links.map fun link =>
      (link.fromDisplay, link.fromEdge)).Nodup := by
    refine ((List.perm_insertionSort _ _).map _).nodup_iff.mpr ?_
    simp [hne]
  have hmember : ∀ id ∈ layout.map (·.displayId), id.isNil = false := by
    intro id hid
    obtain ⟨display, hdisplay, rfl⟩ := List.mem_map.mp hid
    exact hnamed display hdisplay
  simp only [Config.validateTopology, Config.ensureUnique, except_bind_eq_ok, configRequire_eq_ok,
    forM_eq_ok, exists_const, decide_eq_true_eq, Bool.and_eq_true, Bool.not_eq_true',
    topologyOf_displayIds]
  refine ⟨hnodup, ?_, hlinks, ?_⟩
  · intro placement hplacement
    obtain ⟨display, hdisplay, rfl⟩ := List.mem_map.mp hplacement
    exact ⟨hnamed display hdisplay, rfl, rfl⟩
  · intro link hlink
    simp only [bne_iff_ne, List.contains_iff_mem]
    rcases mem_topologyOf_links.mp hlink with rfl | rfl
    · exact ⟨⟨hmember _ hown, hmember _ hremote⟩, hne, hown, hremote⟩
    · exact ⟨⟨hmember _ hremote, hmember _ hown⟩, hne.symm, hremote, hown⟩

/-- The setup can make a paired host of the bundle that the configuration accepts. -/
def Usable (codec : PanelCodec) (peer : PairingBundle) : Prop :=
  ∃ host, codec.pairedHost peer = .ok host ∧ Config.validatePairedHosts [host] = .ok ()

/-- The displays of both hosts, as they are placed in a map. -/
structure PlacedIn (codec : PanelCodec) (layout : List DisplayLayoutDto)
    (localDisplays peerDisplays : List DisplayDto) (own remote : List (DisplayId × Rect)) :
    Prop where
  own_placed : localDisplays.mapM (codec.placed layout) = .ok own
  remote_placed : peerDisplays.mapM (codec.placed layout) = .ok remote
  distinct : ((own ++ remote).map Prod.fst).Nodup
  present : ∀ id ∈ (own ++ remote).map Prod.fst, id ∈ layout.map (·.displayId)

/-- Displays with distinct ids are placed in a map that has exactly those. -/
theorem placedIn_of_complete
    (measured : (localDisplays ++ peerDisplays).mapM codec.dimension = .ok dimensions)
    (separate : (dimensions.map Prod.fst).Nodup)
    (complete : ∀ id, id ∈ layout.map (·.displayId) ↔ id ∈ dimensions.map Prod.fst) :
    ∃ own remote, PlacedIn codec layout localDisplays peerDisplays own remote := by
  obtain ⟨ownSizes, remoteSizes, hown, hremote, rfl⟩ := mapM_append_inv measured
  have hpresent := fun id => (complete id).mpr
  rw [List.map_append] at hpresent
  obtain ⟨own, howns, hownIds⟩ := mapM_placed hown fun id hid =>
    hpresent id (List.mem_append_left _ hid)
  obtain ⟨remote, hremotes, hremoteIds⟩ := mapM_placed hremote fun id hid =>
    hpresent id (List.mem_append_right _ hid)
  have hids : (own ++ remote).map Prod.fst = ownSizes.map Prod.fst ++ remoteSizes.map Prod.fst := by
    rw [List.map_append, hownIds, hremoteIds]
  refine ⟨own, remote, howns, hremotes, ?_, ?_⟩
  · rw [hids, ← List.map_append]
    exact separate
  · rw [hids]
    exact hpresent

theorem Accepted.placedIn (h : Accepted codec layout localDisplays peerDisplays dimensions) :
    ∃ own remote, PlacedIn codec layout localDisplays peerDisplays own remote :=
  placedIn_of_complete h.measured h.separate h.complete

/-! ## The choice of the crossing edge -/

/-- Two displays of the two hosts, each with its id and its place. -/
abbrev DisplayPair := (DisplayId × Rect) × (DisplayId × Rect)

/-- The length of the common edge of a pair. -/
def pairLength (pair : DisplayPair) : ℚ := (touchLength pair.1.2 pair.2.2).getD 0

/-- The pairs of displays of the two hosts that touch in a map. -/
def facingPairs (codec : PanelCodec) (layout : List DisplayLayoutDto)
    (localDisplays peerDisplays : List DisplayDto) : Set DisplayPair :=
  { pair | (∃ display ∈ localDisplays, codec.placed layout display = .ok pair.1) ∧
    (∃ display ∈ peerDisplays, codec.placed layout display = .ok pair.2) ∧
    (touchLength pair.1.2 pair.2.2).isSome }

variable {own remote : List (DisplayId × Rect)}

theorem candidate_eq_some {a b : DisplayId × Rect} {overlap : ℚ} :
    candidate a b = some (overlap, edge) ↔
      touchingEdges a.2 b.2 = some (edge.localEdge, edge.remoteEdge, overlap) ∧
        edge.localDisplay = a.1 ∧ edge.remoteDisplay = b.1 := by
  unfold candidate
  cases touchingEdges a.2 b.2 with
  | none => simp
  | some touching =>
    obtain ⟨localDisplay, localEdge', remoteDisplay, remoteEdge'⟩ := edge
    grind

theorem facingPairs_swap : pair.swap ∈ facingPairs codec layout peerDisplays localDisplays ↔
      pair ∈ facingPairs codec layout localDisplays peerDisplays := by
  simp only [facingPairs, Set.mem_ofPred_eq, Prod.fst_swap, Prod.snd_swap,
    touchLength_comm pair.2.2 pair.1.2]
  tauto

theorem pairLength_swap (pair : DisplayPair) : pairLength pair.swap = pairLength pair := by
  rw [pairLength, pairLength, touchLength_comm]
  rfl

/-- The pair that ranks first for one host ranks first for the other with the ids in the
    other order. -/
theorem least_swap (h : Least (rank pairLength (·.1.1) (·.2.1))
      (facingPairs codec layout peerDisplays localDisplays) pair) :
    Least (rank pairLength (·.2.1) (·.1.1)) (facingPairs codec layout localDisplays peerDisplays)
      pair.swap := by
  refine ⟨facingPairs_swap.mp (by rw [Prod.swap_swap]; exact h.1), fun other hother => ?_⟩
  have hle := h.2 other.swap (facingPairs_swap.mpr hother)
  simp only [rank, pairLength_swap] at hle ⊢
  exact hle

section

variable (h : PlacedIn codec layout localDisplays peerDisplays own remote)

include h

theorem PlacedIn.mem_facingPairs : pair ∈ facingPairs codec layout localDisplays peerDisplays ↔
      pair.1 ∈ own ∧ pair.2 ∈ remote ∧ (touchLength pair.1.2 pair.2.2).isSome := by
  rw [mem_of_mapM_eq_ok h.own_placed, mem_of_mapM_eq_ok h.remote_placed]
  rfl

/-- What `selected_cross_host_edge` returns comes from the touching pair that ranks first. -/
theorem selectedCrossHostEdge_eq_ok
    (hedge : codec.selectedCrossHostEdge layout localDisplays peerDisplays = .ok edge) :
    ∃ pair : DisplayPair,
      Least (rank pairLength (·.1.1) (·.2.1)) (facingPairs codec layout localDisplays peerDisplays)
        pair ∧
      candidate pair.1 pair.2 = some (pairLength pair, edge) := by
  rw [selectedCrossHostEdge_eq h.own_placed h.remote_placed, firstCandidate, need_eq_ok_iff,
    Option.map_eq_some_iff] at hedge
  obtain ⟨⟨overlap, edge⟩, hfirst, rfl⟩ := hedge
  obtain ⟨hmem, hleast⟩ := head?_insertionSort hfirst
  obtain ⟨a, ha, b, hb, hcandidate⟩ := mem_candidates.mp hmem
  -- a pair and its candidate have the same rank
  have hrank : ∀ (pair : DisplayPair) (c : ℚ × CrossHostEdge), candidate pair.1 pair.2 = some c →
      (touchLength pair.1.2 pair.2.2).isSome ∧ pairLength pair = c.1 ∧
        candidateRank c = rank pairLength (·.1.1) (·.2.1) pair := by
    intro pair c hc
    obtain ⟨htouching, hown, hremote⟩ := candidate_eq_some.mp hc
    have hlength : touchLength pair.1.2 pair.2.2 = some c.1 := by rw [touchLength, htouching]; rfl
    have hpair : pairLength pair = c.1 := by rw [pairLength, hlength]; rfl
    exact ⟨by rw [hlength]; rfl, hpair, by simp only [candidateRank, rank, hpair, hown, hremote]⟩
  obtain ⟨hsome, hlength, hown⟩ := hrank (a, b) _ hcandidate
  refine ⟨(a, b), ⟨h.mem_facingPairs.mpr ⟨ha, hb, hsome⟩, fun pair hpair => ?_⟩,
    hlength ▸ hcandidate⟩
  obtain ⟨ha', hb', hsome'⟩ := h.mem_facingPairs.mp hpair
  obtain ⟨c, hc⟩ : ∃ c, candidate pair.1 pair.2 = some c := by
    rw [← Option.isSome_iff_exists, candidate, Option.isSome_map]
    rwa [touchLength, Option.isSome_map] at hsome'
  rw [← hown, ← (hrank pair c hc).2.2]
  exact hleast c (mem_candidates.mpr ⟨pair.1, ha', pair.2, hb', hc⟩)

theorem exists_selectedCrossHostEdge :
    (∃ edge, codec.selectedCrossHostEdge layout localDisplays peerDisplays = .ok edge) ↔
      (facingPairs codec layout localDisplays peerDisplays).Nonempty := by
  constructor
  · rintro ⟨edge, hedge⟩
    obtain ⟨pair, hleast, -⟩ := selectedCrossHostEdge_eq_ok h hedge
    exact ⟨pair, hleast.1⟩
  · rintro ⟨pair, hpair⟩
    obtain ⟨ha, hb, hsome⟩ := h.mem_facingPairs.mp hpair
    rw [selectedCrossHostEdge_eq h.own_placed h.remote_placed, firstCandidate]
    obtain ⟨c, hc⟩ : ∃ c, candidate pair.1 pair.2 = some c := by
      rw [← Option.isSome_iff_exists, candidate, Option.isSome_map]
      rwa [touchLength, Option.isSome_map] at hsome
    cases hfirst : ((candidates own remote).insertionSort fun a b =>
        candidateRank a ≤ candidateRank b).head? with
    | none =>
      rw [List.head?_eq_none_iff, ← List.length_eq_zero_iff, List.length_insertionSort,
        List.length_eq_zero_iff] at hfirst
      exact absurd (mem_candidates.mpr ⟨pair.1, ha, pair.2, hb, hc⟩)
        (hfirst ▸ List.not_mem_nil)
    | some first => exact ⟨first.2, rfl⟩

/-! ## The two hosts of one map -/

theorem PlacedIn.swap : PlacedIn codec layout peerDisplays localDisplays remote own := by
  have hperm : ((own ++ remote).map Prod.fst).Perm ((remote ++ own).map Prod.fst) :=
    List.perm_append_comm.map Prod.fst
  exact ⟨h.remote_placed, h.own_placed, hperm.nodup_iff.mp h.distinct,
    fun id hid => h.present id (hperm.mem_iff.mpr hid)⟩

theorem PlacedIn.pair_ext {pair' : DisplayPair}
    (hpair : pair ∈ facingPairs codec layout localDisplays peerDisplays)
    (hpair' : pair' ∈ facingPairs codec layout localDisplays peerDisplays)
    (hown : pair.1.1 = pair'.1.1) (hremote : pair.2.1 = pair'.2.1) : pair = pair' := by
  have hdistinct := h.distinct
  rw [List.map_append, List.nodup_append'] at hdistinct
  obtain ⟨ha, hb, -⟩ := h.mem_facingPairs.mp hpair
  obtain ⟨ha', hb', -⟩ := h.mem_facingPairs.mp hpair'
  exact Prod.ext (List.inj_on_of_nodup_map hdistinct.1 ha ha' hown)
    (List.inj_on_of_nodup_map hdistinct.2.1 hb hb' hremote)

/-- Displays of the two hosts have different ids. -/
theorem PlacedIn.ne {pair' : DisplayPair}
    (hpair : pair ∈ facingPairs codec layout localDisplays peerDisplays)
    (hpair' : pair' ∈ facingPairs codec layout localDisplays peerDisplays) :
    pair.1.1 ≠ pair'.2.1 := by
  have hdistinct := h.distinct
  rw [List.map_append, List.nodup_append'] at hdistinct
  intro heq
  exact hdistinct.2.2 (List.mem_map_of_mem (h.mem_facingPairs.mp hpair).1)
    (heq ▸ List.mem_map_of_mem (h.mem_facingPairs.mp hpair').2.1)

/-- A longest common edge whose displays have the least ids on both sides, and which
    both displays see. -/
def Unambiguous (codec : PanelCodec) (layout : List DisplayLayoutDto)
    (localDisplays peerDisplays : List DisplayDto) : Prop :=
  ∃ pair, Undisputed pairLength (·.1.1) (·.2.1)
    (facingPairs codec layout localDisplays peerDisplays) pair ∧ Mirrored pair.1.2 pair.2.2

/-- The crossing edges that the two hosts choose make the same links exactly if the
    longest edge is unambiguous. -/
theorem links_agree_iff {edge' : CrossHostEdge}
    (hedge : codec.selectedCrossHostEdge layout localDisplays peerDisplays = .ok edge)
    (hedge' : codec.selectedCrossHostEdge layout peerDisplays localDisplays = .ok edge') :
    (topologyOf layout edge).links.toFinset = (topologyOf layout edge').links.toFinset ↔
      Unambiguous codec layout localDisplays peerDisplays := by
  obtain ⟨pair, hleast, hcandidate⟩ := selectedCrossHostEdge_eq_ok h hedge
  obtain ⟨pair', hleast', hcandidate'⟩ := selectedCrossHostEdge_eq_ok h.swap hedge'
  obtain ⟨htouching, hown, hremote⟩ := candidate_eq_some.mp hcandidate
  obtain ⟨htouching', hown', hremote'⟩ := candidate_eq_some.mp hcandidate'
  have hswap := least_swap hleast'
  have hne : pair.1.1 ≠ pair'.1.1 := h.ne hleast.1 hswap.1
  have hlinks : (topologyOf layout edge).links.toFinset = (topologyOf layout edge').links.toFinset ↔
      edge' = ⟨edge.remoteDisplay, edge.remoteEdge, edge.localDisplay, edge.localEdge⟩ := by
    constructor
    · intro hsame
      have hmem : (⟨edge.localDisplay, edge.localEdge, edge.remoteDisplay, edge.remoteEdge⟩ :
          TopologyLink) ∈ (topologyOf layout edge').links := by
        rw [← List.mem_toFinset, ← hsame, List.mem_toFinset, mem_topologyOf_links]
        exact .inl rfl
      rcases mem_topologyOf_links.mp hmem with heq | heq
      · exact absurd (hown.symm.trans ((congrArg (·.fromDisplay) heq).trans hown')) hne
      · cases edge'
        cases heq
        rfl
    · rintro rfl
      ext link
      simp only [List.mem_toFinset, mem_topologyOf_links]
      exact or_comm
  have hundisputed := least_swap_iff hleast hswap
  rw [hlinks]
  constructor
  · rintro rfl
    have hids := hundisputed.mp ⟨hremote'.symm.trans hown, hown'.symm.trans hremote⟩
    have hpair : pair'.swap = pair :=
      h.pair_ext hswap.1 hleast.1 (hremote'.symm.trans hown) (hown'.symm.trans hremote)
    refine ⟨pair, hids, ?_⟩
    rw [← hpair] at htouching ⊢
    change touchingEdges pair'.1.2 pair'.2.2 = (touchingEdges pair'.2.2 pair'.1.2).map _
    rw [htouching', show touchingEdges pair'.2.2 pair'.1.2 = _ from htouching, Option.map_some,
      pairLength_swap]
  · rintro ⟨other, hother, hmirrored⟩
    obtain ⟨hfirst, hsecond⟩ := hother.eq_least hleast
    obtain rfl : pair = other := h.pair_ext hleast.1 hother.1 hfirst hsecond
    obtain ⟨hfirst', hsecond'⟩ := hundisputed.mpr hother
    have hpair : pair'.swap = pair := h.pair_ext hswap.1 hleast.1 hfirst' hsecond'
    rw [Mirrored, htouching, Option.map_some, ← hpair] at hmirrored
    change touchingEdges pair'.1.2 pair'.2.2 = _ at hmirrored
    rw [htouching', Option.some.injEq, Prod.mk.injEq, Prod.mk.injEq] at hmirrored
    obtain ⟨hlocalEdge, hremoteEdge, -⟩ := hmirrored
    rw [CrossHostEdge.mk.injEq]
    exact ⟨hown'.trans (hsecond'.trans hremote.symm), hlocalEdge,
      hremote'.trans (hfirst'.trans hown.symm), hremoteEdge⟩

end

/-- What `build_config` returns for a map that it accepts. -/
theorem buildConfig_eq_ok {config : Config}
    (h : codec.validateDisplayLayout layout localDisplays peer.displays = .ok ()) :
    codec.buildConfig peer localDisplays placement layout = .ok config ↔
      ∃ edge host, codec.selectedCrossHostEdge layout localDisplays peer.displays = .ok edge ∧
        codec.pairedHost peer = .ok host ∧ Config.validatePairedHosts [host] = .ok () ∧
        config = configOf host (topologyOf layout edge) := by
  obtain ⟨dimensions, haccepted⟩ := validateDisplayLayout_eq_ok.mp h
  obtain ⟨own, remote, hplaced⟩ := haccepted.placedIn
  have hvalid : ∀ edge host, codec.selectedCrossHostEdge layout localDisplays peer.displays =
      .ok edge → ((configOf host (topologyOf layout edge)).validate = .ok () ↔
        Config.validatePairedHosts [host] = .ok ()) := by
    intro edge host hedge
    obtain ⟨pair, hleast, hcandidate⟩ := selectedCrossHostEdge_eq_ok hplaced hedge
    obtain ⟨-, hown, hremote⟩ := candidate_eq_some.mp hcandidate
    obtain ⟨ha, hb, -⟩ := hplaced.mem_facingPairs.mp hleast.1
    have htopology := validateTopology_topologyOf edge
      (hown ▸ hplaced.present _ (List.mem_map_of_mem (List.mem_append_left _ ha)))
      (hremote ▸ hplaced.present _ (List.mem_map_of_mem (List.mem_append_right _ hb)))
      (hown ▸ hremote ▸ hplaced.ne hleast.1 hleast.1) haccepted.distinct haccepted.named
    rw [configOf_validate]
    exact and_iff_left htopology
  -- the accepted map is the one that is used
  have hchosen : codec.chosenLayout localDisplays peer.displays placement layout = .ok layout := by
    unfold chosenLayout
    split_ifs with hempty
    · -- an empty map is accepted for no displays at all
      rw [List.isEmpty_iff] at hempty
      subst hempty
      simp only [validateDisplayLayout, except_bind_eq_ok, require_eq_ok, exists_const,
        Bool.and_eq_true, beq_iff_eq, List.length_nil] at h
      have hlocal : localDisplays = [] := List.length_eq_zero_iff.mp (by omega)
      have hpeer : peer.displays = [] := List.length_eq_zero_iff.mp (by omega)
      subst hlocal
      rw [hpeer]
      cases placement <;> rfl
    · rw [h]
      rfl
  simp only [buildConfig, hchosen, except_bind_eq_ok, Except.ok.injEq, exists_eq_left']
  constructor
  · rintro ⟨edge, hedge, host, hhost, hconfig⟩
    split at hconfig
    · rename_i hok
      cases hconfig
      exact ⟨edge, host, hedge, hhost, (hvalid edge host hedge).mp hok, rfl⟩
    · cases hconfig
  · rintro ⟨edge, host, hedge, hhost, hok, rfl⟩
    refine ⟨edge, hedge, host, hhost, ?_⟩
    rw [(hvalid edge host hedge).mpr hok]

/-- `build_config` succeeds for an accepted map in which displays of the two hosts touch
    and with a bundle that it can use. -/
theorem exists_buildConfig (placement : Placement)
    (h : codec.validateDisplayLayout layout localDisplays peer.displays = .ok ()) :
    (∃ config, codec.buildConfig peer localDisplays placement layout = .ok config) ↔
      (facingPairs codec layout localDisplays peer.displays).Nonempty ∧ Usable codec peer := by
  obtain ⟨dimensions, haccepted⟩ := validateDisplayLayout_eq_ok.mp h
  obtain ⟨own, remote, hplaced⟩ := haccepted.placedIn
  simp only [buildConfig_eq_ok h, ← exists_selectedCrossHostEdge hplaced, Usable]
  constructor
  · rintro ⟨config, edge, host, hedge, hhost, hvalid, -⟩
    exact ⟨⟨edge, hedge⟩, host, hhost, hvalid⟩
  · rintro ⟨⟨edge, hedge⟩, host, hhost, hvalid⟩
    exact ⟨_, edge, host, hedge, hhost, hvalid, rfl⟩

/-- Two results of `build_config` agree: both failed, or both have the same placements
    and the same links. -/
def SameTopology : Except SetupError Config → Except SetupError Config → Prop
  | .ok config, .ok config' =>
    config.topology.displays.toFinset = config'.topology.displays.toFinset ∧
      config.topology.links.toFinset = config'.topology.links.toFinset
  | .error _, .error _ => True
  | .ok _, .error _ | .error _, .ok _ => False

instance : DecidableRel SameTopology
  | .ok _, .ok _ => inferInstanceAs (Decidable (_ ∧ _))
  | .error _, .error _ => .isTrue trivial
  | .ok _, .error _ | .error _, .ok _ => .isFalse id

/-- Two hosts derive the same topology from one display map exactly if no displays of
    theirs touch, or neither can use the other's bundle, or both can and the longest
    common edge is unambiguous. -/
theorem buildConfig_agree {first second : PairingBundle} {placement placement' : Placement}
    (h : codec.validateDisplayLayout layout first.displays second.displays = .ok ()) :
    SameTopology (codec.buildConfig second first.displays placement layout)
        (codec.buildConfig first second.displays placement' layout) ↔
      facingPairs codec layout first.displays second.displays = ∅ ∨
      ¬ Usable codec first ∧ ¬ Usable codec second ∨
      Usable codec first ∧ Usable codec second ∧
        Unambiguous codec layout first.displays second.displays := by
  obtain ⟨dimensions, haccepted⟩ := validateDisplayLayout_eq_ok.mp h
  obtain ⟨own, remote, hplaced⟩ := haccepted.placedIn
  have hcomm := validateDisplayLayout_comm h
  have hfirst := exists_buildConfig placement h
  have hsecond := exists_buildConfig placement' hcomm
  have hfacing : (facingPairs codec layout second.displays first.displays).Nonempty ↔
      (facingPairs codec layout first.displays second.displays).Nonempty :=
    ⟨fun ⟨pair, hpair⟩ => ⟨pair.swap, facingPairs_swap.mpr hpair⟩,
      fun ⟨pair, hpair⟩ => ⟨pair.swap, facingPairs_swap.mpr hpair⟩⟩
  rw [← Set.not_nonempty_iff_eq_empty]
  cases hown : codec.buildConfig second first.displays placement layout with
  | error _ =>
    cases hremote : codec.buildConfig first second.displays placement' layout with
    | error _ =>
      simp only [hown, hremote, reduceCtorEq, exists_false, false_iff] at hfirst hsecond
      tauto
    | ok _ =>
      simp only [hown, hremote, reduceCtorEq, exists_false, false_iff, Except.ok.injEq,
        exists_eq', true_iff] at hfirst hsecond
      tauto
  | ok config =>
    cases hremote : codec.buildConfig first second.displays placement' layout with
    | error _ =>
      simp only [hown, hremote, reduceCtorEq, exists_false, false_iff, Except.ok.injEq,
        exists_eq', true_iff] at hfirst hsecond
      tauto
    | ok config' =>
      simp only [hown, hremote, Except.ok.injEq, exists_eq', true_iff] at hfirst hsecond
      obtain ⟨edge, host, hedge, -, -, rfl⟩ := (buildConfig_eq_ok h).mp hown
      obtain ⟨edge', host', hedge', -, -, rfl⟩ := (buildConfig_eq_ok hcomm).mp hremote
      have hsame : SameTopology (.ok (configOf host (topologyOf layout edge)))
          (.ok (configOf host' (topologyOf layout edge'))) ↔
            Unambiguous codec layout first.displays second.displays :=
        (and_iff_right rfl).trans (links_agree_iff hplaced hedge hedge')
      tauto

end

/-! ## Two sample maps -/

namespace Sample

/-- The sample codec, with display ids of one character. -/
def layoutCodec : PanelCodec :=
  { codec with parseDisplayId := fun text => text.head?.map fun c => ⟨c.toNat - 48⟩ }

def square (id : Char) : DisplayDto := { display with id := [id] }

/-- The host with displays 1 and 2. -/
def mac : PairingBundle :=
  { bundle 'A' with platform := .macOS, displays := [square '1', square '2'] }

/-- The host with displays 3 and 4. -/
def pc : PairingBundle := { bundle 'B' with displays := [square '3', square '4'] }

/-- Two rows: display 1 next to 4, and display 2 next to 3. -/
def crossed : List DisplayLayoutDto :=
  [⟨⟨1⟩, 0, 0⟩, ⟨⟨4⟩, 100, 0⟩, ⟨⟨2⟩, 0, 100⟩, ⟨⟨3⟩, 100, 100⟩]

/-- Two rows: display 1 next to 3, and display 2 next to 4. -/
def straight : List DisplayLayoutDto :=
  [⟨⟨1⟩, 0, 0⟩, ⟨⟨3⟩, 100, 0⟩, ⟨⟨2⟩, 0, 100⟩, ⟨⟨4⟩, 100, 100⟩]

/-- One host links display 1 with 4, the other links 3 with 2. -/
theorem different_links :
    layoutCodec.validateDisplayLayout crossed mac.displays pc.displays = .ok () ∧
      (layoutCodec.buildConfig pc mac.displays .localLeft crossed).map (·.topology.links) =
        .ok [⟨⟨1⟩, .right, ⟨4⟩, .left⟩, ⟨⟨4⟩, .left, ⟨1⟩, .right⟩] ∧
      (layoutCodec.buildConfig mac pc.displays .localRight crossed).map (·.topology.links) =
        .ok [⟨⟨2⟩, .right, ⟨3⟩, .left⟩, ⟨⟨3⟩, .left, ⟨2⟩, .right⟩] ∧
      ¬ SameTopology (layoutCodec.buildConfig pc mac.displays .localLeft crossed)
        (layoutCodec.buildConfig mac pc.displays .localRight crossed) := by
  decide +kernel

/-- With display 1 next to 3 the longest edge is unambiguous. -/
theorem buildConfig_agree_straight :
    layoutCodec.validateDisplayLayout straight mac.displays pc.displays = .ok () ∧
      Unambiguous layoutCodec straight mac.displays pc.displays := by
  have hvalid : layoutCodec.validateDisplayLayout straight mac.displays pc.displays = .ok () := by
    decide +kernel
  have hsame : SameTopology (layoutCodec.buildConfig pc mac.displays .localLeft straight)
      (layoutCodec.buildConfig mac pc.displays .localRight straight) := by decide +kernel
  have hbuilt : (layoutCodec.buildConfig pc mac.displays .localLeft straight).toOption.isSome := by
    decide +kernel
  obtain ⟨hfacing, husable⟩ := (exists_buildConfig .localLeft hvalid).mp
    ⟨_, Except.eq_ok_get hbuilt⟩
  refine ⟨hvalid, ?_⟩
  rcases (buildConfig_agree hvalid).mp hsame with hempty | ⟨-, hunusable⟩ | ⟨-, -, hlongest⟩
  · exact absurd hempty hfacing.ne_empty
  · exact absurd husable hunusable
  · exact hlongest

end Sample

end PanelCodec

end SoftwareKvm
