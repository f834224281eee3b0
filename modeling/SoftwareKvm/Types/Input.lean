import Mathlib.Data.Sum.Order
import SoftwareKvm.Types.Basic

/-!
# Input events and session endpoints

Models of `kvm-input` (`key.rs`, `event.rs`), of the capture types of
`kvm-daemon/src/platform.rs` and of `SessionEndpoint`
(`kvm-daemon/src/session_endpoint.rs`).
-/

namespace SoftwareKvm

open Lib

/-! ## Keys and buttons -/

/-- The named constructors of `KeyCode`, in declaration order. `End` is
    `endKey`, since `end` is reserved. -/
inductive NamedKey
  | escape | f1 | f2 | f3 | f4 | f5 | f6 | f7 | f8 | f9 | f10 | f11 | f12 | f13 | f14 | f15 | f16
  | f17 | f18 | f19 | f20 | f21 | f22 | f23 | f24 | printScreen | scrollLock | pause | backquote
  | digit1 | digit2 | digit3 | digit4 | digit5 | digit6 | digit7 | digit8 | digit9 | digit0
  | minus | equal | backspace | tab | keyQ | keyW | keyE | keyR | keyT | keyY | keyU | keyI
  | keyO | keyP | bracketLeft | bracketRight | backslash | capsLock | keyA | keyS | keyD | keyF
  | keyG | keyH | keyJ | keyK | keyL | semicolon | quote | enter | shiftLeft | intlBackslash
  | keyZ | keyX | keyC | keyV | keyB | keyN | keyM | comma | period | slash | shiftRight
  | controlLeft | metaLeft | altLeft | space | altRight | metaRight | contextMenu | controlRight
  | fn | insert | home | pageUp | deleteForward | endKey | pageDown | arrowRight | arrowLeft
  | arrowDown | arrowUp | numLock | numpadDivide | numpadMultiply | numpadSubtract | numpadAdd
  | numpadEnter | numpad1 | numpad2 | numpad3 | numpad4 | numpad5 | numpad6 | numpad7 | numpad8
  | numpad9 | numpad0 | numpadDecimal | numpadEqual | numpadComma | numpadParenLeft
  | numpadParenRight | intlRo | intlYen | kanaMode | convert | nonConvert | lang1 | lang2 | lang3
  | lang4 | lang5 | help | power | eject | audioVolumeMute | audioVolumeDown | audioVolumeUp
  | mediaPlayPause | mediaStop | mediaTrackNext | mediaTrackPrevious
  deriving DecidableEq

/-- `KeyCode` (`kvm-input/src/key.rs`). -/
inductive KeyCode
  | named (key : NamedKey)
  | unidentified (usagePage usageId : ℕ)
  deriving DecidableEq

def KeyCode.isModifier : KeyCode → Bool
  | .named .shiftLeft | .named .shiftRight | .named .controlLeft | .named .controlRight
  | .named .altLeft | .named .altRight | .named .metaLeft | .named .metaRight | .named .fn => true
  | _ => false

/-- `PointerButton` (`kvm-input/src/event.rs`). -/
inductive PointerButton
  | left
  | right
  | middle
  | back
  | forward
  | other (number : ℕ)
  deriving DecidableEq

inductive KeyState
  | pressed
  | repeated
  | released
  deriving DecidableEq

inductive ButtonState
  | pressed
  | released
  deriving DecidableEq

/-! ### The derived orders -/

theorem NamedKey.ctorIdx_injective : Function.Injective NamedKey.ctorIdx := by
  intro a b h
  rw [← NamedKey.ofNat_ctorIdx a, ← NamedKey.ofNat_ctorIdx b, h]

/-- The position of a key in the derived order of `KeyCode`. -/
def KeyCode.rank : KeyCode → ℕ ×ₗ ℕ ×ₗ ℕ
  | .named k => toLex (0, toLex (k.ctorIdx, 0))
  | .unidentified page usage => toLex (1, toLex (page, usage))

theorem KeyCode.rank_injective : Function.Injective KeyCode.rank := by
  intro a b h
  cases a <;> cases b <;> simp_all [KeyCode.rank]
  exact NamedKey.ctorIdx_injective h

instance : LinearOrder KeyCode := LinearOrder.lift' KeyCode.rank KeyCode.rank_injective

/-- The position of a button in the derived order of `PointerButton`. -/
def PointerButton.rank : PointerButton → ℕ ×ₗ ℕ
  | .left => toLex (0, 0)
  | .right => toLex (1, 0)
  | .middle => toLex (2, 0)
  | .back => toLex (3, 0)
  | .forward => toLex (4, 0)
  | .other n => toLex (5, n)

theorem PointerButton.rank_injective : Function.Injective PointerButton.rank := by
  intro a b h
  cases a <;> cases b <;> simp_all [PointerButton.rank]

instance : LinearOrder PointerButton :=
  LinearOrder.lift' PointerButton.rank PointerButton.rank_injective

/-! ## Controls -/

/-- `PhysicalControl` (`core.rs`): a key or a pointer button. -/
inductive PhysicalControl
  | key (code : KeyCode)
  | button (button : PointerButton)
  deriving DecidableEq

/-- `PhysicalTransition` (`core.rs`). -/
inductive PhysicalTransition
  | press
  | repeat
  | release
  deriving DecidableEq

/-- What an event does to which control. -/
abbrev ControlTransition := PhysicalControl × PhysicalTransition

/-- The position of a control in the derived order of `PhysicalControl`. -/
def PhysicalControl.rank : PhysicalControl → KeyCode ⊕ₗ PointerButton
  | .key code => toLex (.inl code)
  | .button b => toLex (.inr b)

theorem PhysicalControl.rank_injective : Function.Injective PhysicalControl.rank := by
  intro a b h
  cases a <;> cases b <;> simp_all [PhysicalControl.rank]

instance : LinearOrder PhysicalControl :=
  LinearOrder.lift' PhysicalControl.rank PhysicalControl.rank_injective

/-! ## Events -/

/-- `InputPayload` (`kvm-input/src/event.rs`). -/
inductive InputPayload
  | key (code : KeyCode) (state : KeyState)
  | pointerMove (dx dy : F64)
  | pointerButton (button : PointerButton) (state : ButtonState)
  | scroll (horizontal vertical : F64)
  deriving DecidableEq

def InputPayload.isFinite : InputPayload → Bool
  | .pointerMove dx dy => dx.isFinite && dy.isFinite
  | .scroll horizontal vertical => horizontal.isFinite && vertical.isFinite
  | .key .. | .pointerButton .. => true

/-- `PhysicalControl::from_payload` (`core.rs`, lines 300–325). -/
def PhysicalControl.fromPayload : InputPayload → Option ControlTransition
  | .key code .pressed => some (.key code, .press)
  | .key code .repeated => some (.key code, .repeat)
  | .key code .released => some (.key code, .release)
  | .pointerButton b .pressed => some (.button b, .press)
  | .pointerButton b .released => some (.button b, .release)
  | .pointerMove .. | .scroll .. => none

/-- `PhysicalControl::release_payload` (`core.rs`). -/
def PhysicalControl.releasePayload : PhysicalControl → InputPayload
  | .key code => .key code .released
  | .button b => .pointerButton b .released

structure InputEvent where
  sequence : ℕ
  timestampNs : ℕ
  sourceHost : HostId
  sourceDevice : DeviceId
  payload : InputPayload
  deriving DecidableEq

/-- `EventClassification` (`platform.rs`). -/
inductive EventClassification
  | physical
  | injectedByKvm
  | unknown
  deriving DecidableEq

/-- `CapturedInput` (`platform.rs`). -/
structure CapturedInput where
  event : InputEvent
  classification : EventClassification
  nativePointerPosition : Option Point := none
  deriving DecidableEq

/-- `CaptureDisposition` (`platform.rs`). -/
inductive CaptureDisposition
  | allowLocal
  | suppressLocal
  deriving DecidableEq

/-! ## Session endpoints -/

/-- `ConnectionGeneration` (`kvm-network/src/connection_role.rs`). -/
structure ConnectionGeneration where
  gateInstanceId : ℕ
  sequence : ℕ
  deriving DecidableEq

/-- `is_supported_protocol_version`: versions 1 to 3. -/
def isSupportedProtocolVersion (version : ℕ) : Bool := 1 ≤ version && version ≤ 3

/-- `SessionEndpoint` (`session_endpoint.rs`). Its only constructor,
    `SessionEndpoint::validated`, makes the checks of `valid`. -/
structure SessionEndpoint where
  peerId : PeerId
  hostId : HostId
  generation : ConnectionGeneration
  selectedProtocolVersion : ℕ
  sessionId : ℕ
  valid : peerId.isNil = false ∧ hostId.isNil = false ∧
    isSupportedProtocolVersion selectedProtocolVersion = true ∧ sessionId ≠ 0
  deriving DecidableEq

/-- The position of an endpoint in the derived order of `SessionEndpoint`. -/
def SessionEndpoint.rank (e : SessionEndpoint) : PeerId ×ₗ HostId ×ₗ ℕ ×ₗ ℕ ×ₗ ℕ ×ₗ ℕ :=
  toLex (e.peerId, toLex (e.hostId, toLex (e.generation.gateInstanceId,
    toLex (e.generation.sequence, toLex (e.selectedProtocolVersion, e.sessionId)))))

theorem SessionEndpoint.rank_injective : Function.Injective SessionEndpoint.rank := by
  rintro ⟨p, h, ⟨g, s⟩, v, i, _⟩ ⟨p', h', ⟨g', s'⟩, v', i', _⟩ heq
  simp_all [SessionEndpoint.rank]

instance : LinearOrder SessionEndpoint :=
  LinearOrder.lift' SessionEndpoint.rank SessionEndpoint.rank_injective

/-- A key of `remote_held` (`core.rs`). -/
structure HeldKey where
  endpoint : SessionEndpoint
  device : DeviceId
  control : PhysicalControl
  deriving DecidableEq

/-- The position of a key in the order of the source's tuple. -/
def HeldKey.rank (k : HeldKey) : SessionEndpoint ×ₗ DeviceId ×ₗ PhysicalControl :=
  toLex (k.endpoint, toLex (k.device, k.control))

theorem HeldKey.rank_injective : Function.Injective HeldKey.rank := by
  rintro ⟨e, d, c⟩ ⟨e', d', c'⟩ heq
  simp_all [HeldKey.rank]

instance : LinearOrder HeldKey := LinearOrder.lift' HeldKey.rank HeldKey.rank_injective

end SoftwareKvm
