import SoftwareKvm.Types.Input

/-!
# Held input of one source

`PressedState` (`kvm-input/src/pressed.rs`): the keys and buttons that a
receiver holds down for one device. The source keeps two hash sets and sorts
them when it lists them, so the model keeps them sorted.

Results:
* `PressedState.holds_apply`: what a payload does to the held controls.
* `PressedState.mem_releasePayloads`: one release per held control.
* `PressedState.mem_controls`, `PressedState.length_controls`: `len` counts the
  held controls.
-/

namespace SoftwareKvm

open Lib

structure PressedState where
  keys : OrdMap KeyCode Unit
  buttons : OrdMap PointerButton Unit

namespace PressedState

/-- `PressedState::default`. -/
def empty : PressedState := ⟨∅, ∅⟩

variable (s : PressedState)

def isEmpty : Bool := s.keys.isEmpty && s.buttons.isEmpty

/-- `PressedState::len`, and `pressed_state_len` of `session.rs`. -/
def len : ℕ := s.keys.size + s.buttons.size

/-- `key_is_pressed` and `button_is_pressed`. -/
def holds : PhysicalControl → Bool
  | .key code => s.keys.contains code
  | .button b => s.buttons.contains b

/-- `PressedState::apply`, without its result. -/
def apply : InputPayload → PressedState
  | .key code .pressed => { s with keys := s.keys.insert code () }
  | .key code .released => { s with keys := s.keys.erase code }
  | .pointerButton b .pressed => { s with buttons := s.buttons.insert b () }
  | .pointerButton b .released => { s with buttons := s.buttons.erase b }
  | .key _ .repeated | .pointerMove .. | .scroll .. => s

/-- `PressedState::pressed_keys`: non-modifiers first, each group in key order. -/
def pressedKeys : List KeyCode :=
  s.keys.keys.filter (fun code => !code.isModifier) ++ s.keys.keys.filter KeyCode.isModifier

def pressedButtons : List PointerButton := s.buttons.keys

/-- The release payloads of all held controls, keys before buttons. -/
def releasePayloads : List InputPayload :=
  s.pressedKeys.map (.key · .released) ++ s.pressedButtons.map (.pointerButton · .released)

/-! ## Held controls -/

@[simp] theorem holds_empty (control : PhysicalControl) : empty.holds control = false := by
  cases control <;> simp [empty, holds, OrdMap.contains]

theorem isEmpty_iff {s : PressedState} : s.isEmpty = true ↔ ∀ control, s.holds control = false := by
  simp only [isEmpty, Bool.and_eq_true, OrdMap.isEmpty_iff]
  constructor
  · rintro ⟨hk, hb⟩ control
    cases control <;> simp [holds, OrdMap.contains, hk, hb]
  · intro h
    refine ⟨fun code => ?_, fun b => ?_⟩
    · simpa [holds, OrdMap.contains] using h (.key code)
    · simpa [holds, OrdMap.contains] using h (.button b)

/-- A press adds its control, a release removes it, anything else changes nothing. -/
theorem holds_apply (payload : InputPayload) (control : PhysicalControl) :
    (s.apply payload).holds control =
      match PhysicalControl.fromPayload payload with
      | some (k, .press) => decide (control = k) || s.holds control
      | some (k, .release) => !decide (control = k) && s.holds control
      | _ => s.holds control := by
  cases payload with
  | key code state =>
    cases state <;> cases control <;>
      simp [apply, holds, PhysicalControl.fromPayload, OrdMap.contains, OrdMap.get?_insert,
        OrdMap.get?_erase]
    all_goals split_ifs <;> simp_all
  | pointerButton b state =>
    cases state <;> cases control <;>
      simp [apply, holds, PhysicalControl.fromPayload, OrdMap.contains, OrdMap.get?_insert,
        OrdMap.get?_erase]
    all_goals split_ifs <;> simp_all
  | pointerMove dx dy => rfl
  | scroll horizontal vertical => rfl

/-- The held controls. -/
def controls : List PhysicalControl :=
  s.keys.keys.map .key ++ s.buttons.keys.map .button

theorem mem_controls {s : PressedState} {control : PhysicalControl} :
    control ∈ s.controls ↔ s.holds control = true := by
  simp only [controls, List.mem_append, List.mem_map, OrdMap.mem_keys_iff_contains]
  cases control with
  | key code => simp [holds]
  | button b => simp [holds]

theorem nodup_controls : s.controls.Nodup := by
  rw [controls, List.nodup_append]
  refine ⟨s.keys.nodup_keys.map fun a b h => PhysicalControl.key.inj h,
    s.buttons.nodup_keys.map fun a b h => PhysicalControl.button.inj h, ?_⟩
  simp only [List.mem_map]
  rintro _ ⟨code, -, rfl⟩ _ ⟨b, -, rfl⟩ h
  cases h

theorem length_controls : s.controls.length = s.len := by
  simp [controls, len, OrdMap.length_keys]

theorem controls_ne_nil {s : PressedState} (h : s.isEmpty = false) : s.controls ≠ [] := by
  intro hnil
  have : s.isEmpty = true := isEmpty_iff.mpr fun control => by
    by_contra hc
    rw [Bool.not_eq_false, ← mem_controls, hnil] at hc
    cases hc
  rw [h] at this
  cases this

theorem mem_releasePayloads {s : PressedState} {payload : InputPayload} :
    payload ∈ s.releasePayloads ↔
      ∃ control, s.holds control = true ∧ payload = control.releasePayload := by
  have hkeys : ∀ code, code ∈ s.pressedKeys ↔ s.keys.contains code = true := by
    intro code
    simp only [pressedKeys, List.mem_append, List.mem_filter, OrdMap.mem_keys, OrdMap.contains,
      Option.isSome_iff_exists]
    cases code.isModifier <;> simp
  have hbuttons : ∀ b, b ∈ s.pressedButtons ↔ s.buttons.contains b = true := by
    intro b
    simp only [pressedButtons, OrdMap.mem_keys, OrdMap.contains, Option.isSome_iff_exists]
  simp only [releasePayloads, List.mem_append, List.mem_map, hkeys, hbuttons]
  constructor
  · rintro (⟨code, h, rfl⟩ | ⟨b, h, rfl⟩)
    · exact ⟨.key code, h, rfl⟩
    · exact ⟨.button b, h, rfl⟩
  · rintro ⟨control, h, rfl⟩
    cases control with
    | key code => exact Or.inl ⟨code, h, rfl⟩
    | button b => exact Or.inr ⟨b, h, rfl⟩

end PressedState

end SoftwareKvm
