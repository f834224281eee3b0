import Mathlib.Algebra.Order.Group.Abs
import Mathlib.Data.Rat.Defs
import SoftwareKvm.Types.Basic

/-!
# The compiled workspace

Models of `kvm-topology/src/configured.rs` (lines 125–301) and of the geometry
helpers it takes from `lib.rs` (lines 291–326): the displays a workspace was
compiled from, the directed links between their edges, and the crossing
`transition` that resolves one edge position of a source display to a point of
a destination display.

Coordinates are exact rationals, so the test that a computed destination point
is finite always passes and has no counterpart here.

* `transition_ok`: what a resolved crossing carries.
* `transition_congr`: a crossing depends only on the displays and links.
-/

namespace SoftwareKvm

open Lib

/-! ## Geometry -/

def geometryEpsilon : ℚ := 1 / 1000000000

def validPosition : F64 → Bool
  | .finite p => 0 ≤ p && p ≤ 1
  | .nonFinite => false

def close (left right : ℚ) : Bool := |left - right| ≤ geometryEpsilon

def touches (source candidate : Rect) : Edge → Bool
  | .left => close candidate.maxX source.x
  | .right => close candidate.x source.maxX
  | .top => close candidate.maxY source.y
  | .bottom => close candidate.y source.maxY

def perpendicularCoordinate (bounds : Rect) (edge : Edge) (position : ℚ) : ℚ :=
  match edge with
  | .left | .right => bounds.y + position * bounds.height
  | .top | .bottom => bounds.x + position * bounds.width

/-- The extent of a rectangle along an edge: the pair `(start, end)` of `covers`. -/
def edgeExtent (bounds : Rect) : Edge → ℚ × ℚ
  | .left | .right => (bounds.y, bounds.maxY)
  | .top | .bottom => (bounds.x, bounds.maxX)

/-- `covers`: the end of the extent is outside, except for a terminal crossing. -/
def covers (bounds : Rect) (edge : Edge) (coordinate : ℚ) (terminal : Bool) : Bool :=
  (edgeExtent bounds edge).1 - geometryEpsilon ≤ coordinate
    && (coordinate < (edgeExtent bounds edge).2 - geometryEpsilon
      || terminal && close coordinate (edgeExtent bounds edge).2)

/-! ## Compiled workspaces -/

structure CompiledDisplay where
  hostId : HostId
  logicalSize : Size
  workspaceBounds : Rect
  deriving DecidableEq

structure LinkTarget where
  displayId : DisplayId
  edge : Edge
  deriving DecidableEq

def edgeKey : Edge → ℕ
  | .left => 0
  | .right => 1
  | .top => 2
  | .bottom => 3

abbrev DisplayTable := OrdMap DisplayId CompiledDisplay

/-- The links, by the display and the edge that they leave. -/
abbrev LinkTable := OrdMap (DisplayId ×ₗ ℕ) LinkTarget

/-- `ConfiguredWorkspace`: its `CompiledWorkspaceData`, without the host count. -/
structure ConfiguredWorkspace where
  epoch : ℕ
  protocolEpoch : ℕ
  displays : DisplayTable
  links : LinkTable

structure WorkspaceTransition where
  epoch : ℕ
  sourceDisplay : DisplayId
  sourceHost : HostId
  sourceEdge : Edge
  destinationDisplay : DisplayId
  destinationHost : HostId
  destinationEdge : Edge
  normalizedPosition : ℚ
  destinationPoint : Point
  deriving DecidableEq

inductive WorkspaceTransitionError
  | invalidPosition
  | unknownDisplay
  | notLinked
  | invalidWorkspace
  deriving DecidableEq

namespace ConfiguredWorkspace

def ownerOf (w : ConfiguredWorkspace) (display : DisplayId) : Option HostId :=
  (w.displays.get? display).map CompiledDisplay.hostId

/-- `ConfiguredWorkspace::contains_local_point`: the maximum edges are inside. -/
def containsLocalPoint (w : ConfiguredWorkspace) (display : DisplayId) (point : Point) : Bool :=
  match w.displays.get? display with
  | none => false
  | some d =>
    0 ≤ point.x && 0 ≤ point.y && point.x ≤ d.logicalSize.width && point.y ≤ d.logicalSize.height

/-- The landing point of a crossing at `position` of the edge it enters through. -/
def landingPoint (size : Size) (position : ℚ) : Edge → Point
  | .left => ⟨0, position * size.height⟩
  | .right => ⟨size.width, position * size.height⟩
  | .top => ⟨position * size.width, 0⟩
  | .bottom => ⟨position * size.width, size.height⟩

def transition (w : ConfiguredWorkspace) (sourceDisplay : DisplayId) (sourceEdge : Edge)
    (position : F64) : Except WorkspaceTransitionError WorkspaceTransition :=
  match position with
  | .nonFinite => .error .invalidPosition
  | .finite p =>
    if !validPosition (.finite p) then .error .invalidPosition
    else match w.displays.get? sourceDisplay with
    | none => .error .unknownDisplay
    | some source =>
      match w.links.get? (toLex (sourceDisplay, edgeKey sourceEdge)) with
      | none => .error .notLinked
      | some target =>
        match w.displays.get? target.displayId with
        | none => .error .invalidWorkspace
        | some destination =>
          let crossing := perpendicularCoordinate source.workspaceBounds sourceEdge p
          if target.edge != sourceEdge.opposite
              || !touches source.workspaceBounds destination.workspaceBounds sourceEdge
              || !covers destination.workspaceBounds sourceEdge crossing (close p 1) then
            .error .invalidWorkspace
          else
            .ok {
              epoch := w.epoch
              sourceDisplay
              sourceHost := source.hostId
              sourceEdge
              destinationDisplay := target.displayId
              destinationHost := destination.hostId
              destinationEdge := target.edge
              normalizedPosition := p
              destinationPoint := landingPoint destination.logicalSize p target.edge }

variable {w : ConfiguredWorkspace} {display : DisplayId} {edge : Edge} {position : F64}
  {t : WorkspaceTransition}

/-- A crossing repeats what it was asked for and names the owners of its two displays. -/
theorem transition_ok (h : w.transition display edge position = .ok t) :
    t.sourceDisplay = display ∧ t.sourceEdge = edge ∧ position = .finite t.normalizedPosition
      ∧ w.ownerOf display = some t.sourceHost
      ∧ w.ownerOf t.destinationDisplay = some t.destinationHost := by
  unfold transition at h
  split at h
  · cases h
  split_ifs at h
  split at h
  · cases h
  next source hsource =>
  split at h
  · cases h
  split at h
  · cases h
  next destination hdestination =>
  simp only at h
  split_ifs at h
  cases h
  simp only [ownerOf, hsource, hdestination, Option.map_some, and_self]

/-- A crossing reads only the displays and the links. -/
theorem transition_congr {w' : ConfiguredWorkspace} (hdisplays : w'.displays = w.displays)
    (hlinks : w'.links = w.links) (h : w.transition display edge position = .ok t) :
    w'.transition display edge position = .ok { t with epoch := w'.epoch } := by
  unfold transition at h ⊢
  rw [hdisplays, hlinks]
  split at h
  · cases h
  split_ifs at h ⊢
  split at h
  · cases h
  split at h
  · cases h
  split at h
  · cases h
  simp only at h ⊢
  split_ifs at h ⊢
  cases h
  rfl

end ConfiguredWorkspace

end SoftwareKvm
