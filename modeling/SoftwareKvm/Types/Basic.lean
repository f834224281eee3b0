import Mathlib.Data.Int.Log
import Mathlib.Data.Rat.Floor
import Mathlib.Order.Basic
import Mathlib.Algebra.Order.Ring.Rat
import SoftwareKvm.Lib.OrdMap

/-!
# Identifiers, geometry and workspace state

Models of `kvm-types`: the four identifier newtypes (`id.rs`), geometry
(`geometry.rs`), devices (`device.rs`), displays (`display.rs`) and the
workspace state (`workspace.rs`).

A definition without a comment, here and in the other modules, models the item
of the source that has its name.

Identifiers wrap a 16-byte value, modelled as a natural number whose value `0`
is the nil identifier `[0; 16]`. Coordinates are `f64` in the source; finite
ones are modelled by rationals. Where the code tests `is_finite` on a value it
has not validated (`F64`), the non-finite values are kept as one extra value.
Pointer deltas and totals are added with the rounding of `f64` (`Binary64`), or
without it (`Exact`) in results about motion as such.
-/

namespace SoftwareKvm

/-! ## Identifiers -/

/-- Which newtype of `id.rs` an identifier belongs to. -/
inductive IdKind
  | host
  | device
  | display
  | peer

/-- A 16-byte identifier; `raw = 0` is `[0; 16]`. -/
structure Id (kind : IdKind) where
  raw : ℕ
  deriving DecidableEq

abbrev HostId := Id .host
abbrev DeviceId := Id .device
abbrev DisplayId := Id .display
abbrev PeerId := Id .peer

namespace Id

variable {kind : IdKind}

/-- `self.into_bytes() == [0; 16]`. -/
def isNil (i : Id kind) : Bool := i.raw == 0

theorem raw_injective : Function.Injective (Id.raw : Id kind → ℕ) := by
  rintro ⟨a⟩ ⟨b⟩ h
  exact congrArg Id.mk h

instance : LinearOrder (Id kind) := LinearOrder.lift' Id.raw raw_injective

end Id

/-! ## Numbers -/

/-- An unvalidated `f64`: a finite value, or one of the infinities and NaNs,
    which no modelled function tells apart. -/
inductive F64
  | finite (value : ℚ)
  | nonFinite
  deriving DecidableEq

def F64.isFinite : F64 → Bool
  | .finite _ => true
  | .nonFinite => false

/-- The nearest integer, and the even one of two. -/
def roundHalfEven (q : ℚ) : ℤ :=
  if q - ⌊q⌋ < 1 / 2 ∨ q - ⌊q⌋ = 1 / 2 ∧ 2 ∣ ⌊q⌋ then ⌊q⌋ else ⌊q⌋ + 1

/-- The rounding of an IEEE 754 binary64 result: 53 significant bits, fewer below
    `2 ^ -1022`, and an infinity from `2 ^ 1024` on. -/
def F64.round (q : ℚ) : F64 :=
  let ulp : ℚ := 2 ^ max (Int.log 2 |q| - 52) (-1074)
  let rounded := roundHalfEven (q / ulp) * ulp
  if |rounded| < 2 ^ 1024 then .finite rounded else .nonFinite

/-- An operation on numbers, with the rounding of its result; one with a
    non-finite operand is not finite. -/
def F64.map₂ (round : ℚ → F64) (f : ℚ → ℚ → ℚ) : F64 → F64 → F64
  | .finite a, .finite b => round (f a b)
  | _, _ => .nonFinite

/-- `f64` addition. -/
def F64.add : F64 → F64 → F64 := map₂ round (· + ·)

/-- The arithmetic of pointer deltas and totals: that of `f64`, or an exact one. -/
class F64Arith where
  add : F64 → F64 → F64
  sub : F64 → F64 → F64

namespace Binary64

scoped instance arith : F64Arith := ⟨F64.add, F64.map₂ F64.round (· - ·)⟩

end Binary64

namespace Exact

scoped instance arith : F64Arith := ⟨F64.map₂ .finite (· + ·), F64.map₂ .finite (· - ·)⟩

end Exact

/-- The number of values of a `u64`. -/
def u64Size : ℕ := 2 ^ 64

def checkedAdd (a b : ℕ) : Option ℕ := if a + b < u64Size then some (a + b) else none

def saturatingAdd (a b : ℕ) : ℕ := min (a + b) (u64Size - 1)

theorem checkedAdd_eq_some {a b c : ℕ} : checkedAdd a b = some c ↔ c = a + b ∧ a + b < u64Size := by
  unfold checkedAdd
  split_ifs with h
  · simp [h, eq_comm]
  · simp [h]

/-! ## Geometry -/

structure Point where
  x : ℚ
  y : ℚ
  deriving DecidableEq

structure Size where
  width : ℚ
  height : ℚ
  deriving DecidableEq

def Size.isValid (s : Size) : Bool := 0 ≤ s.width && 0 ≤ s.height

structure Rect where
  x : ℚ
  y : ℚ
  width : ℚ
  height : ℚ
  deriving DecidableEq

namespace Rect

def fromOriginAndSize (origin : Point) (size : Size) : Rect :=
  ⟨origin.x, origin.y, size.width, size.height⟩

def size (r : Rect) : Size := ⟨r.width, r.height⟩

def maxX (r : Rect) : ℚ := r.x + r.width

def maxY (r : Rect) : ℚ := r.y + r.height

/-- `Rect::is_valid`; every coordinate of the model is finite. -/
def isValid (r : Rect) : Bool := r.size.isValid

end Rect

inductive Edge
  | left
  | right
  | top
  | bottom
  deriving DecidableEq

def Edge.opposite : Edge → Edge
  | .left => .right
  | .right => .left
  | .top => .bottom
  | .bottom => .top

/-! ## Workspace state -/

structure LogicalPointer where
  displayId : DisplayId
  x : ℚ
  y : ℚ
  deriving DecidableEq

def LogicalPointer.position (p : LogicalPointer) : Point := ⟨p.x, p.y⟩

structure WorkspaceState where
  localHost : HostId
  activeHost : HostId
  activeDisplay : DisplayId
  pointer : LogicalPointer
  deriving DecidableEq

namespace WorkspaceState

def new (localHost activeHost : HostId) (pointer : LogicalPointer) : WorkspaceState :=
  ⟨localHost, activeHost, pointer.displayId, pointer⟩

def setActivePointer (w : WorkspaceState) (activeHost : HostId) (pointer : LogicalPointer) :
    WorkspaceState :=
  { w with activeHost := activeHost, activeDisplay := pointer.displayId, pointer := pointer }

end WorkspaceState

/-! ## Results -/

/-- A result that is some value is that value. -/
theorem Except.eq_ok_get {ε α : Type} {x : Except ε α} (h : x.toOption.isSome = true) :
    x = .ok (x.toOption.get h) := by
  cases x with
  | error e => cases h
  | ok a => rfl

/-! ## Devices and displays -/

inductive DeviceKind
  | keyboard
  | mouse
  | trackpad
  | other
  deriving DecidableEq

structure DeviceCapabilities where
  pointer : Bool
  keyboard : Bool
  verticalScroll : Bool
  horizontalScroll : Bool
  extraButtons : Bool
  deriving DecidableEq

structure InputDevice where
  id : DeviceId
  hostId : HostId
  name : String
  vendorId : Option ℕ
  productId : Option ℕ
  kind : DeviceKind
  capabilities : DeviceCapabilities
  deriving DecidableEq

inductive DeviceRoute
  | followActiveHost
  | local
  | host (host : HostId)
  deriving DecidableEq

structure Display where
  id : DisplayId
  hostId : HostId
  name : String
  logicalSize : Size
  physicalSize : Option Size
  scaleFactor : ℚ
  refreshRate : Option ℚ
  nativeBounds : Rect
  primary : Bool
  deriving DecidableEq

def Display.isValid (d : Display) : Bool :=
  d.logicalSize.isValid && 0 < d.logicalSize.width && 0 < d.logicalSize.height
    && d.physicalSize.all Size.isValid && 0 < d.scaleFactor
    && d.refreshRate.all (0 < ·) && d.nativeBounds.isValid

end SoftwareKvm
