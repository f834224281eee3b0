import SoftwareKvm.Topology.Workspace

/-!
# The workspace compiler

Models of `ConfiguredWorkspaceCompiler` and `compile_workspace`
(`kvm-topology/src/configured.rs`, lines 306–628): displays, placements and
links are checked and compiled to a `ConfiguredWorkspace`, which gets the next
local epoch and an epoch of the protocol that depends only on what was
compiled.

The protocol epoch is the beginning of a SHA-256 digest. The digest is code of
another library and a parameter here: a field of the compiler, from the
compiled displays and links to the first eight bytes of their digest.
-/

namespace SoftwareKvm

open Lib

def maxWorkspaceHosts : ℕ := 32
def maxWorkspaceDisplays : ℕ := 256
def maxWorkspaceLinks : ℕ := maxWorkspaceDisplays * 4
def maxLogicalDisplayExtent : ℚ := 131072
def maxWorkspaceCoordinate : ℚ := 1000000
def maxWorkspaceExtent : ℚ := 1000000

structure WorkspacePlacement where
  displayId : DisplayId
  origin : Point

structure WorkspaceLink where
  sourceDisplay : DisplayId
  sourceEdge : Edge
  destinationDisplay : DisplayId
  destinationEdge : Edge

inductive WorkspaceCompileError
  | capacityExceeded
  | missingDisplay
  | invalidDisplay
  | duplicateDisplay
  | danglingReference
  | duplicatePlacement
  | missingPlacement
  | invalidGeometry
  | selfLink
  | duplicateSourceEdge
  | conflictingReciprocalLink
  | invalidLinkGeometry
  | epochExhausted
  deriving DecidableEq

structure InventoryDisplay where
  hostId : HostId
  logicalSize : Size

def validInventoryGeometry (display : Display) : Bool :=
  display.isValid && display.logicalSize.width ≤ maxLogicalDisplayExtent
    && display.logicalSize.height ≤ maxLogicalDisplayExtent

/-- The loop body of `compile_inventory`. -/
def compileInventoryDisplay (acc : OrdMap DisplayId InventoryDisplay × Finset HostId)
    (display : Display) :
    Except WorkspaceCompileError (OrdMap DisplayId InventoryDisplay × Finset HostId) :=
  if display.id.isNil || display.hostId.isNil || !validInventoryGeometry display then
    .error .invalidDisplay
  else if acc.1.contains display.id then .error .duplicateDisplay
  else
    let hosts := insert display.hostId acc.2
    if maxWorkspaceHosts < hosts.card then .error .capacityExceeded
    else .ok (acc.1.insert display.id ⟨display.hostId, display.logicalSize⟩, hosts)

/-- `compile_inventory`, without the host count. -/
def compileInventory (displays : List Display) :
    Except WorkspaceCompileError (OrdMap DisplayId InventoryDisplay) :=
  (displays.foldlM compileInventoryDisplay (∅, ∅)).map Prod.fst

def validWorkspaceBounds (bounds : Rect) : Bool :=
  bounds.isValid && 0 < bounds.width && 0 < bounds.height
    && |bounds.x| ≤ maxWorkspaceCoordinate && |bounds.y| ≤ maxWorkspaceCoordinate
    && |bounds.maxX| ≤ maxWorkspaceCoordinate && |bounds.maxY| ≤ maxWorkspaceCoordinate

/-- The loop body of `compile_placements`. -/
def compilePlacement (inventory : OrdMap DisplayId InventoryDisplay)
    (compiled : DisplayTable) (placement : WorkspacePlacement) :
    Except WorkspaceCompileError DisplayTable :=
  match inventory.get? placement.displayId with
  | none => .error .danglingReference
  | some display =>
    if compiled.contains placement.displayId then .error .duplicatePlacement
    else
      let bounds := Rect.fromOriginAndSize placement.origin display.logicalSize
      if !validWorkspaceBounds bounds then .error .invalidGeometry
      else .ok (compiled.insert placement.displayId ⟨display.hostId, display.logicalSize, bounds⟩)

def compilePlacements (inventory : OrdMap DisplayId InventoryDisplay)
    (placements : List WorkspacePlacement) : Except WorkspaceCompileError DisplayTable := do
  let compiled ← placements.foldlM (compilePlacement inventory) ∅
  if compiled.size ≠ inventory.size then .error .missingPlacement else .ok compiled

def validateWorkspaceExtent : List Rect → Except WorkspaceCompileError Unit
  | [] => .error .missingDisplay
  | first :: rest =>
    let minX := rest.foldl (fun x r => min x r.x) first.x
    let minY := rest.foldl (fun y r => min y r.y) first.y
    let maxX := rest.foldl (fun x r => max x r.maxX) first.maxX
    let maxY := rest.foldl (fun y r => max y r.maxY) first.maxY
    if maxWorkspaceExtent < maxX - minX || maxWorkspaceExtent < maxY - minY then
      .error .invalidGeometry
    else .ok ()

def overlapLength (source destination : Rect) (edge : Edge) : ℚ :=
  min (edgeExtent source edge).2 (edgeExtent destination edge).2
    - max (edgeExtent source edge).1 (edgeExtent destination edge).1

/-- The loop body of `compile_links`. -/
def compileLink (displays : DisplayTable) (compiled : LinkTable) (link : WorkspaceLink) :
    Except WorkspaceCompileError LinkTable :=
  if link.sourceDisplay = link.destinationDisplay then .error .selfLink
  else match displays.get? link.sourceDisplay, displays.get? link.destinationDisplay with
    | some source, some destination =>
      if link.destinationEdge ≠ link.sourceEdge.opposite
          || !touches source.workspaceBounds destination.workspaceBounds link.sourceEdge
          || overlapLength source.workspaceBounds destination.workspaceBounds link.sourceEdge
            ≤ geometryEpsilon then
        .error .invalidLinkGeometry
      else
        let key := toLex (link.sourceDisplay, edgeKey link.sourceEdge)
        if compiled.contains key then .error .duplicateSourceEdge
        else .ok (compiled.insert key ⟨link.destinationDisplay, link.destinationEdge⟩)
    | _, _ => .error .danglingReference

def edgeFromKey : ℕ → Edge
  | 0 => .left
  | 1 => .right
  | 2 => .top
  | _ => .bottom

/-- `compile_links`: a link back, where there is one, is the exact reverse. -/
def compileLinks (displays : DisplayTable) (links : List WorkspaceLink) :
    Except WorkspaceCompileError LinkTable := do
  let compiled ← links.foldlM (compileLink displays) ∅
  let reciprocal := compiled.entries.all fun (key, target) =>
    let expected : LinkTarget := ⟨(ofLex key).1, edgeFromKey (ofLex key).2⟩
    (compiled.get? (toLex (target.displayId, edgeKey target.edge))).all (· == expected)
  if !reciprocal then .error .conflictingReciprocalLink else .ok compiled

/-- `ConfiguredWorkspaceCompiler`, with the digest as a parameter. -/
structure ConfiguredWorkspaceCompiler where
  active : Option ConfiguredWorkspace
  lastEpoch : ℕ
  digest : DisplayTable → LinkTable → ℕ

namespace ConfiguredWorkspaceCompiler

def new (digest : DisplayTable → LinkTable → ℕ) : ConfiguredWorkspaceCompiler := ⟨none, 0, digest⟩

def compileWorkspace (compiler : ConfiguredWorkspaceCompiler) (epoch : ℕ)
    (displays : List Display) (placements : List WorkspacePlacement) (links : List WorkspaceLink) :
    Except WorkspaceCompileError ConfiguredWorkspace := do
  if maxWorkspaceDisplays < displays.length then .error .capacityExceeded
  else if displays.isEmpty then .error .missingDisplay
  else if maxWorkspaceDisplays < placements.length || maxWorkspaceLinks < links.length then
    .error .capacityExceeded
  else
    let inventory ← compileInventory displays
    let compiledDisplays ← compilePlacements inventory placements
    validateWorkspaceExtent (compiledDisplays.values.map (·.workspaceBounds))
    let compiledLinks ← compileLinks compiledDisplays links
    .ok ⟨epoch, max (compiler.digest compiledDisplays compiledLinks) 1, compiledDisplays,
      compiledLinks⟩

def compileCandidate (compiler : ConfiguredWorkspaceCompiler) (displays : List Display)
    (placements : List WorkspacePlacement) (links : List WorkspaceLink) :
    Except WorkspaceCompileError ConfiguredWorkspace × ConfiguredWorkspaceCompiler :=
  match checkedAdd compiler.lastEpoch 1 with
  | none => (.error .epochExhausted, compiler)
  | some nextEpoch =>
    match compiler.compileWorkspace nextEpoch displays placements links with
    | .error error => (.error error, compiler)
    | .ok candidate =>
      (.ok candidate, { compiler with active := some candidate, lastEpoch := nextEpoch })

end ConfiguredWorkspaceCompiler

end SoftwareKvm
