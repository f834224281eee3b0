import Mathlib.Tactic.Linarith
import SoftwareKvm.Topology.Accepts

/-!
# Crossings of a compiled workspace

The compiler accepts a link if the two edges touch and overlap; a crossing is
accepted if the workspace coordinate at which it leaves lies within the extent
of the display it enters, and lands at the same normalized position there.

* `links_cross_and_land`: no link is dead, and every crossing lands inside the
  display it enters.
* `return_iff`: a crossing can be undone exactly if the workspace coordinate of
  its landing position lies within the display it left; with displays of
  different heights it need not (`return_refused`).
-/

namespace SoftwareKvm

open Lib

/-! ## What the compiler has checked -/

/-- A compiled display has its size, which is positive, at its place. -/
structure Sized (display : CompiledDisplay) : Prop where
  width : 0 < display.logicalSize.width
  height : 0 < display.logicalSize.height
  bounds : ∃ origin, display.workspaceBounds = .fromOriginAndSize origin display.logicalSize

/-- A compiled link from an edge of `source` to the opposite edge of `destination`. -/
structure Joins (w : ConfiguredWorkspace) (display : DisplayId) (edge : Edge) (target : LinkTarget)
    (source destination : CompiledDisplay) : Prop where
  link : w.links.get? (toLex (display, edgeKey edge)) = some target
  leaves : w.displays.get? display = some source
  enters : w.displays.get? target.displayId = some destination
  opposite : target.edge = edge.opposite
  touching : touches source.workspaceBounds destination.workspaceBounds edge = true
  overlapping : geometryEpsilon
    < overlapLength source.workspaceBounds destination.workspaceBounds edge

section Compiled

variable {compiler : ConfiguredWorkspaceCompiler} {epoch : ℕ} {displays : List Display}
  {placements : List WorkspacePlacement} {links : List WorkspaceLink} {w : ConfiguredWorkspace}

variable (h : compiler.compileWorkspace epoch displays placements links = .ok w)

include h

theorem sized_of_compiled {id : DisplayId}
    {display : CompiledDisplay} (hget : w.displays.get? id = some display) : Sized display := by
  obtain ⟨compiledDisplays, compiledLinks, hc, rfl⟩ := compileWorkspace_eq_ok.mp h
  rw [OrdMap.get?_ofList hc.placed_once] at hget
  obtain ⟨placement, -, hplaced⟩ := forall₂_mem_right hc.placed hget
  obtain ⟨d, hd, -, hentry, -⟩ := (compiledAs_iff hc.distinct).mp hplaced
  obtain rfl : display = compiledDisplay d placement.origin := (Prod.mk.inj hentry).2
  have hvalid := (hc.compilable d hd).2.2
  simp only [validInventoryGeometry, Display.isValid, Bool.and_eq_true, decide_eq_true_eq] at hvalid
  obtain ⟨⟨⟨⟨⟨⟨⟨⟨-, hwidth⟩, hheight⟩, -⟩, -⟩, -⟩, -⟩, -⟩, -⟩ := hvalid
  exact ⟨hwidth, hheight, placement.origin, rfl⟩

theorem joins_of_compiled
    {key : DisplayId ×ₗ ℕ} {target : LinkTarget} (hget : w.links.get? key = some target) :
    ∃ display edge source destination, key = toLex (display, edgeKey edge)
      ∧ Joins w display edge target source destination := by
  obtain ⟨compiledDisplays, compiledLinks, hc, rfl⟩ := compileWorkspace_eq_ok.mp h
  have hmem := hget
  rw [OrdMap.get?_ofList hc.linked_once] at hmem
  obtain ⟨link, -, hlinked⟩ := forall₂_mem_right hc.linked hmem
  obtain ⟨source, destination, hsource, hdestination, htouching, hoverlap⟩ := hlinked.touching
  obtain rfl : key = toLex (link.sourceDisplay, edgeKey link.sourceEdge) := hlinked.key
  obtain rfl : target = ⟨link.destinationDisplay, link.destinationEdge⟩ := hlinked.target
  exact ⟨link.sourceDisplay, link.sourceEdge, source, destination, rfl, hget, hsource, hdestination,
    hlinked.opposite, htouching, hoverlap⟩

theorem joins_of_link {display : DisplayId} {edge : Edge} {target : LinkTarget}
    (hget : w.links.get? (toLex (display, edgeKey edge)) = some target) :
    ∃ source destination, Joins w display edge target source destination := by
  obtain ⟨display', edge', source, destination, hkey, hjoins⟩ := joins_of_compiled h hget
  obtain ⟨rfl, hedge⟩ := Prod.mk.inj (toLex.injective hkey)
  obtain rfl : edge = edge' := by
    rw [← edgeFromKey_edgeKey edge, hedge, edgeFromKey_edgeKey]
  exact ⟨source, destination, hjoins⟩

end Compiled

/-! ## Geometry along an edge -/

theorem perpendicularCoordinate_eq (bounds : Rect) (edge : Edge) (p : ℚ) :
    perpendicularCoordinate bounds edge p = (edgeExtent bounds edge).1
      + p * ((edgeExtent bounds edge).2 - (edgeExtent bounds edge).1) := by
  cases edge <;> simp [perpendicularCoordinate, edgeExtent, Rect.maxX, Rect.maxY]

theorem Sized.extent_lt {display : CompiledDisplay} (h : Sized display) (edge : Edge) :
    (edgeExtent display.workspaceBounds edge).1 < (edgeExtent display.workspaceBounds edge).2 := by
  obtain ⟨hwidth, hheight, origin, hbounds⟩ := h
  rw [hbounds]
  cases edge <;>
    simp only [edgeExtent, Rect.maxX, Rect.maxY, Rect.fromOriginAndSize] <;> linarith

/-! ## Crossings -/

namespace ConfiguredWorkspace

variable {w : ConfiguredWorkspace} {display : DisplayId} {edge : Edge} {target : LinkTarget}
  {source destination : CompiledDisplay} {p : ℚ}

/-- Along a compiled link, only the coordinate of the crossing is left to check. -/
theorem transition_along (h : Joins w display edge target source destination) (hp : 0 ≤ p)
    (hp' : p ≤ 1) :
    w.transition display edge (.finite p)
      = if covers destination.workspaceBounds edge
          (perpendicularCoordinate source.workspaceBounds edge p) (close p 1) then
        .ok ⟨w.epoch, display, source.hostId, edge, target.displayId, destination.hostId,
          edge.opposite, p, landingPoint destination.logicalSize p edge.opposite⟩
      else .error .invalidWorkspace := by
  have hvalid : validPosition (.finite p) = true := by simp [validPosition, hp, hp']
  simp only [transition, hvalid, h.leaves, h.link, h.enters, h.opposite, h.touching, Bool.not_true,
    bne_self_eq_false, Bool.or_self, Bool.false_eq_true, if_false, Bool.false_or]
  split_ifs <;> simp_all

/-- A link can be crossed where the overlap of its edges begins. -/
theorem exists_transition (h : Joins w display edge target source destination)
    (hsource : Sized source) :
    ∃ p t, 0 ≤ p ∧ p ≤ 1 ∧ w.transition display edge (.finite p) = .ok t
      ∧ t.destinationDisplay = target.displayId := by
  have hoverlap := h.overlapping
  have hlt := hsource.extent_lt edge
  have heq := perpendicularCoordinate_eq source.workspaceBounds edge
  have hepsilon : (0 : ℚ) < geometryEpsilon := by norm_num [geometryEpsilon]
  unfold overlapLength at hoverlap
  generalize edgeExtent source.workspaceBounds edge = s at hoverlap hlt heq
  generalize hd : edgeExtent destination.workspaceBounds edge = d at hoverlap
  have hlength : 0 < s.2 - s.1 := sub_pos.mpr hlt
  have hstart : s.1 + (max s.1 d.1 - s.1) / (s.2 - s.1) * (s.2 - s.1) = max s.1 d.1 := by
    rw [div_mul_cancel₀ _ hlength.ne']
    linarith
  have hp : 0 ≤ (max s.1 d.1 - s.1) / (s.2 - s.1) :=
    div_nonneg (sub_nonneg.mpr (le_max_left _ _)) hlength.le
  have hp' : (max s.1 d.1 - s.1) / (s.2 - s.1) ≤ 1 := by
    rw [div_le_one₀ hlength]
    linarith [min_le_left s.2 d.2]
  refine ⟨_, _, hp, hp', (transition_along h hp hp').trans (if_pos ?_), rfl⟩
  rw [heq, hstart, covers, hd]
  simp only [Bool.and_eq_true, Bool.or_eq_true, decide_eq_true_eq]
  exact ⟨by linarith [le_max_right s.1 d.1], .inl (by linarith [min_le_right s.2 d.2])⟩

theorem landingPoint_inside (hsized : Sized destination) (hp : 0 ≤ p) (hp' : p ≤ 1)
    (hget : w.displays.get? display = some destination) :
    w.containsLocalPoint display (landingPoint destination.logicalSize p edge) = true := by
  have hwidth := hsized.width.le
  have hheight := hsized.height.le
  have := mul_nonneg hp hwidth
  have := mul_nonneg hp hheight
  have := mul_le_of_le_one_left hwidth hp'
  have := mul_le_of_le_one_left hheight hp'
  cases edge <;> simp [containsLocalPoint, landingPoint, *]

section Compiled

variable {compiler : ConfiguredWorkspaceCompiler} {epoch : ℕ} {displays : List Display}
  {placements : List WorkspacePlacement} {links : List WorkspaceLink}

variable (h : compiler.compileWorkspace epoch displays placements links = .ok w)

include h

/-- A crossing of a compiled workspace follows one of its links. -/
theorem joins_of_transition {position : F64}
    {t : WorkspaceTransition} (ht : w.transition display edge position = .ok t) :
    ∃ p target source destination, position = .finite p ∧ 0 ≤ p ∧ p ≤ 1
      ∧ Joins w display edge target source destination := by
  unfold transition at ht
  split at ht
  · cases ht
  rename_i p
  split at ht
  · cases ht
  rename_i hvalid
  simp only [validPosition, Bool.not_eq_true', Bool.not_eq_false, Bool.and_eq_true,
    decide_eq_true_eq] at hvalid
  split at ht
  · cases ht
  split at ht
  · cases ht
  rename_i target hlink
  obtain ⟨source, destination, hjoins⟩ := joins_of_link h hlink
  exact ⟨p, target, source, destination, rfl, hvalid.1, hvalid.2, hjoins⟩

/-- No compiled link is dead, and every crossing lands inside the display it
    enters, on the host that owns it. -/
theorem links_cross_and_land : (∀ key target, w.links.get? key = some target → ∃ display edge p t,
      key = toLex (display, edgeKey edge) ∧ 0 ≤ p ∧ p ≤ 1
        ∧ w.transition display edge (.finite p) = .ok t
        ∧ t.destinationDisplay = target.displayId)
      ∧ ∀ display edge position t, w.transition display edge position = .ok t →
        w.containsLocalPoint t.destinationDisplay t.destinationPoint = true
          ∧ w.ownerOf t.destinationDisplay = some t.destinationHost := by
  constructor
  · intro key target hlink
    obtain ⟨display, edge, source, destination, rfl, hjoins⟩ := joins_of_compiled h hlink
    obtain ⟨p, t, hp, hp', ht, hlands⟩ :=
      exists_transition hjoins (sized_of_compiled h hjoins.leaves)
    exact ⟨display, edge, p, t, rfl, hp, hp', ht, hlands⟩
  · intro display edge position t ht
    refine ⟨?_, (transition_ok ht).2.2.2.2⟩
    obtain ⟨p, target, source, destination, rfl, hp, hp', hjoins⟩ := joins_of_transition h ht
    rw [transition_along hjoins hp hp'] at ht
    split at ht
    · cases ht
      exact landingPoint_inside (sized_of_compiled h hjoins.enters) hp hp' hjoins.enters
    · cases ht

/-- A crossing can be undone from where it landed exactly if the workspace
    coordinate of the landing position lies within the display that was left. -/
theorem return_iff {display other : DisplayId} {edge edge' : Edge} {p : ℚ} {t : WorkspaceTransition}
    (hlink : w.links.get? (toLex (display, edgeKey edge)) = some ⟨other, edge'⟩)
    (hback : w.links.get? (toLex (other, edgeKey edge')) = some ⟨display, edge⟩)
    (hsource : w.displays.get? display = some source)
    (hdestination : w.displays.get? other = some destination)
    (ht : w.transition display edge (.finite p) = .ok t) :
    (∃ back, w.transition t.destinationDisplay t.destinationEdge (.finite t.normalizedPosition)
        = .ok back
      ∧ back.destinationDisplay = display ∧ back.destinationEdge = edge
      ∧ back.normalizedPosition = p)
      ↔ covers source.workspaceBounds edge'
        (perpendicularCoordinate destination.workspaceBounds edge' p) (close p 1) = true := by
  obtain ⟨q, target, source', destination', hq, hp, hp', hthere⟩ := joins_of_transition h ht
  obtain rfl : p = q := F64.finite.inj hq
  obtain rfl : target = ⟨other, edge'⟩ := Option.some.inj (hthere.link.symm.trans hlink)
  obtain ⟨destination', source', hreturn⟩ := joins_of_link h hback
  obtain rfl : destination = destination' :=
    Option.some.inj (hdestination.symm.trans hreturn.leaves)
  obtain rfl : source = source' := Option.some.inj (hsource.symm.trans hreturn.enters)
  have hlands : t.destinationDisplay = other ∧ t.destinationEdge = edge'
      ∧ t.normalizedPosition = p := by
    rw [transition_along hthere hp hp'] at ht
    split at ht
    · cases ht
      exact ⟨rfl, hthere.opposite.symm, rfl⟩
    · cases ht
  rw [hlands.1, hlands.2.1, hlands.2.2, transition_along hreturn hp hp']
  split_ifs with hcovered
  · simp only [Except.ok.injEq, exists_eq_left', hcovered, iff_true]
    exact ⟨trivial, hreturn.opposite.symm, trivial⟩
  · simp [hcovered]

end Compiled

namespace Sample

/-- A display of the given height at the origin of its host. -/
def panel (id : ℕ) (height : ℚ) : Display where
  id := ⟨id⟩
  hostId := ⟨id⟩
  name := "D"
  logicalSize := ⟨100, height⟩
  physicalSize := none
  scaleFactor := 1
  refreshRate := none
  nativeBounds := ⟨0, 0, 100, height⟩
  primary := true

def compiler : ConfiguredWorkspaceCompiler := .new fun _ _ => 1

/-- Two displays side by side with their tops aligned, linked both ways. -/
def sideBySide (height height' : ℚ) : Except WorkspaceCompileError ConfiguredWorkspace :=
  compiler.compileWorkspace 1 [panel 1 height, panel 2 height'] [⟨⟨1⟩, ⟨0, 0⟩⟩, ⟨⟨2⟩, ⟨100, 0⟩⟩]
    [⟨⟨1⟩, .right, ⟨2⟩, .left⟩, ⟨⟨2⟩, .left, ⟨1⟩, .right⟩]

/-- Two displays of one height. -/
def level : ConfiguredWorkspace := (sideBySide 100 100).toOption.get (by decide +kernel)

theorem level_eq : sideBySide 100 100 = .ok level := Except.eq_ok_get _

theorem level_crossed : ∃ display edge p t,
    toLex ((⟨1⟩ : DisplayId), 1) = toLex (display, edgeKey edge) ∧ 0 ≤ p ∧ p ≤ 1
      ∧ level.transition display edge (.finite p) = .ok t
      ∧ t.destinationDisplay = (⟨2⟩ : DisplayId) :=
  (links_cross_and_land level_eq).1 _ ⟨⟨2⟩, .left⟩ (by decide +kernel)

theorem level_returned : ∃ back, level.transition ⟨2⟩ .left (.finite (1 / 2)) = .ok back
    ∧ back.destinationDisplay = ⟨1⟩ ∧ back.destinationEdge = .right
    ∧ back.normalizedPosition = 1 / 2 := by
  have hsource : level.displays.get? ⟨1⟩ = some ⟨⟨1⟩, ⟨100, 100⟩, ⟨0, 0, 100, 100⟩⟩ := by
    decide +kernel
  have hdestination : level.displays.get? ⟨2⟩ = some ⟨⟨2⟩, ⟨100, 100⟩, ⟨100, 0, 100, 100⟩⟩ := by
    decide +kernel
  have hthere : level.transition ⟨1⟩ .right (.finite (1 / 2))
      = .ok ⟨1, ⟨1⟩, ⟨1⟩, .right, ⟨2⟩, ⟨2⟩, .left, 1 / 2, ⟨0, 50⟩⟩ := by
    decide +kernel
  have hback : level.links.get? (toLex (⟨2⟩, edgeKey .left)) = some ⟨⟨1⟩, .right⟩ := by
    decide +kernel
  exact (return_iff level_eq (by decide +kernel) hback hsource hdestination hthere).mpr
    (by decide +kernel)

/-- Where the lower display is left in its middle, the higher one is entered at
    the height of the lower one's bottom. -/
theorem return_refused : ∃ w t, sideBySide 100 200 = .ok w
    ∧ w.transition ⟨1⟩ .right (.finite (1 / 2)) = .ok t
    ∧ t.destinationDisplay = ⟨2⟩ ∧ t.destinationEdge = .left
    ∧ w.transition ⟨2⟩ .left (.finite (1 / 2)) = .error .invalidWorkspace := by
  refine ⟨_, _, Except.eq_ok_get (by decide +kernel), Except.eq_ok_get (by decide +kernel), ?_⟩
  decide +kernel

end Sample

end ConfiguredWorkspace

end SoftwareKvm
