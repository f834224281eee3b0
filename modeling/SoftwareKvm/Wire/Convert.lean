import SoftwareKvm.Core.State
import SoftwareKvm.Wire.Message

/-!
# Conversion between wire and daemon input

`kvm-daemon/src/wire.rs`: `input_to_wire`, `input_from_wire`,
`release_to_wire` and the HID usage tables.

Results:
* `keyCodeFromWire_named`: every named key with a usage survives the wire.
* `payloadFromWire_payloadToWire`: a payload whose key survives is restored.

**Deviation.** `KeyCode::Unidentified` with the usage of a named key comes back
as that named key, so it does not survive; `Survives` excludes it.
-/

namespace SoftwareKvm

inductive WireConversionError
  | nonFiniteInput
  | unsupportedKey
  | unsupportedReleasePayload
  deriving DecidableEq

def keyboardPage : ℕ := 0x07
def consumerPage : ℕ := 0x0c

/-! ## Usage tables -/

/-- The rows of `keyboard_key_from_usage`, with the ranges of `function_key`
    and `numpad_digit` written out. -/
def keyboardUsages : List (ℕ × NamedKey) :=
  [(0x04, .keyA), (0x05, .keyB), (0x06, .keyC), (0x07, .keyD), (0x08, .keyE), (0x09, .keyF),
   (0x0a, .keyG), (0x0b, .keyH), (0x0c, .keyI), (0x0d, .keyJ), (0x0e, .keyK), (0x0f, .keyL),
   (0x10, .keyM), (0x11, .keyN), (0x12, .keyO), (0x13, .keyP), (0x14, .keyQ), (0x15, .keyR),
   (0x16, .keyS), (0x17, .keyT), (0x18, .keyU), (0x19, .keyV), (0x1a, .keyW), (0x1b, .keyX),
   (0x1c, .keyY), (0x1d, .keyZ), (0x1e, .digit1), (0x1f, .digit2), (0x20, .digit3),
   (0x21, .digit4), (0x22, .digit5), (0x23, .digit6), (0x24, .digit7), (0x25, .digit8),
   (0x26, .digit9), (0x27, .digit0), (0x28, .enter), (0x29, .escape), (0x2a, .backspace),
   (0x2b, .tab), (0x2c, .space), (0x2d, .minus), (0x2e, .equal), (0x2f, .bracketLeft),
   (0x30, .bracketRight), (0x31, .backslash), (0x33, .semicolon), (0x34, .quote),
   (0x35, .backquote), (0x36, .comma), (0x37, .period), (0x38, .slash), (0x39, .capsLock),
   (0x3a, .f1), (0x3b, .f2), (0x3c, .f3), (0x3d, .f4), (0x3e, .f5), (0x3f, .f6), (0x40, .f7),
   (0x41, .f8), (0x42, .f9), (0x43, .f10), (0x44, .f11), (0x45, .f12), (0x46, .printScreen),
   (0x47, .scrollLock), (0x48, .pause), (0x49, .insert), (0x4a, .home), (0x4b, .pageUp),
   (0x4c, .deleteForward), (0x4d, .endKey), (0x4e, .pageDown), (0x4f, .arrowRight),
   (0x50, .arrowLeft), (0x51, .arrowDown), (0x52, .arrowUp), (0x53, .numLock),
   (0x54, .numpadDivide), (0x55, .numpadMultiply), (0x56, .numpadSubtract), (0x57, .numpadAdd),
   (0x58, .numpadEnter), (0x59, .numpad1), (0x5a, .numpad2), (0x5b, .numpad3), (0x5c, .numpad4),
   (0x5d, .numpad5), (0x5e, .numpad6), (0x5f, .numpad7), (0x60, .numpad8), (0x61, .numpad9),
   (0x62, .numpad0), (0x63, .numpadDecimal), (0x64, .intlBackslash), (0x65, .contextMenu),
   (0x66, .power), (0x67, .numpadEqual), (0x68, .f13), (0x69, .f14), (0x6a, .f15), (0x6b, .f16),
   (0x6c, .f17), (0x6d, .f18), (0x6e, .f19), (0x6f, .f20), (0x70, .f21), (0x71, .f22),
   (0x72, .f23), (0x73, .f24), (0x75, .help), (0x7f, .audioVolumeMute), (0x80, .audioVolumeUp),
   (0x81, .audioVolumeDown), (0x85, .numpadComma), (0x87, .intlRo), (0x88, .kanaMode),
   (0x89, .intlYen), (0x8a, .convert), (0x8b, .nonConvert), (0x90, .lang1), (0x91, .lang2),
   (0x92, .lang3), (0x93, .lang4), (0x94, .lang5), (0xb6, .numpadParenLeft),
   (0xb7, .numpadParenRight), (0xe0, .controlLeft), (0xe1, .shiftLeft), (0xe2, .altLeft),
   (0xe3, .metaLeft), (0xe4, .controlRight), (0xe5, .shiftRight), (0xe6, .altRight),
   (0xe7, .metaRight)]

def keyboardKeyFromUsage (usage : ℕ) : Option NamedKey := keyboardUsages.lookup usage

/-- The rows of `consumer_key_from_usage`. -/
def consumerUsages : List (ℕ × NamedKey) :=
  [(0xb5, .mediaTrackNext), (0xb6, .mediaTrackPrevious), (0xb7, .mediaStop), (0xb8, .eject),
   (0xcd, .mediaPlayPause), (0xe2, .audioVolumeMute), (0xe9, .audioVolumeUp),
   (0xea, .audioVolumeDown)]

def consumerKeyFromUsage (usage : ℕ) : Option NamedKey := consumerUsages.lookup usage

/-- The rows of `key_to_wire` for the keyboard page. -/
def keyboardRows : List (NamedKey × ℕ) :=
  [(.keyA, 0x04), (.keyB, 0x05), (.keyC, 0x06), (.keyD, 0x07), (.keyE, 0x08), (.keyF, 0x09),
   (.keyG, 0x0a), (.keyH, 0x0b), (.keyI, 0x0c), (.keyJ, 0x0d), (.keyK, 0x0e), (.keyL, 0x0f),
   (.keyM, 0x10), (.keyN, 0x11), (.keyO, 0x12), (.keyP, 0x13), (.keyQ, 0x14), (.keyR, 0x15),
   (.keyS, 0x16), (.keyT, 0x17), (.keyU, 0x18), (.keyV, 0x19), (.keyW, 0x1a), (.keyX, 0x1b),
   (.keyY, 0x1c), (.keyZ, 0x1d), (.digit1, 0x1e), (.digit2, 0x1f), (.digit3, 0x20),
   (.digit4, 0x21), (.digit5, 0x22), (.digit6, 0x23), (.digit7, 0x24), (.digit8, 0x25),
   (.digit9, 0x26), (.digit0, 0x27), (.enter, 0x28), (.escape, 0x29), (.backspace, 0x2a),
   (.tab, 0x2b), (.space, 0x2c), (.minus, 0x2d), (.equal, 0x2e), (.bracketLeft, 0x2f),
   (.bracketRight, 0x30), (.backslash, 0x31), (.semicolon, 0x33), (.quote, 0x34),
   (.backquote, 0x35), (.comma, 0x36), (.period, 0x37), (.slash, 0x38), (.capsLock, 0x39),
   (.f1, 0x3a), (.f2, 0x3b), (.f3, 0x3c), (.f4, 0x3d), (.f5, 0x3e), (.f6, 0x3f), (.f7, 0x40),
   (.f8, 0x41), (.f9, 0x42), (.f10, 0x43), (.f11, 0x44), (.f12, 0x45), (.printScreen, 0x46),
   (.scrollLock, 0x47), (.pause, 0x48), (.insert, 0x49), (.home, 0x4a), (.pageUp, 0x4b),
   (.deleteForward, 0x4c), (.endKey, 0x4d), (.pageDown, 0x4e), (.arrowRight, 0x4f),
   (.arrowLeft, 0x50), (.arrowDown, 0x51), (.arrowUp, 0x52), (.numLock, 0x53),
   (.numpadDivide, 0x54), (.numpadMultiply, 0x55), (.numpadSubtract, 0x56), (.numpadAdd, 0x57),
   (.numpadEnter, 0x58), (.numpad1, 0x59), (.numpad2, 0x5a), (.numpad3, 0x5b), (.numpad4, 0x5c),
   (.numpad5, 0x5d), (.numpad6, 0x5e), (.numpad7, 0x5f), (.numpad8, 0x60), (.numpad9, 0x61),
   (.numpad0, 0x62), (.numpadDecimal, 0x63), (.intlBackslash, 0x64), (.contextMenu, 0x65),
   (.power, 0x66), (.numpadEqual, 0x67), (.f13, 0x68), (.f14, 0x69), (.f15, 0x6a), (.f16, 0x6b),
   (.f17, 0x6c), (.f18, 0x6d), (.f19, 0x6e), (.f20, 0x6f), (.f21, 0x70), (.f22, 0x71),
   (.f23, 0x72), (.f24, 0x73), (.help, 0x75), (.numpadComma, 0x85), (.intlRo, 0x87),
   (.kanaMode, 0x88), (.intlYen, 0x89), (.convert, 0x8a), (.nonConvert, 0x8b), (.lang1, 0x90),
   (.lang2, 0x91), (.lang3, 0x92), (.lang4, 0x93), (.lang5, 0x94), (.numpadParenLeft, 0xb6),
   (.numpadParenRight, 0xb7), (.controlLeft, 0xe0), (.shiftLeft, 0xe1), (.altLeft, 0xe2),
   (.metaLeft, 0xe3), (.controlRight, 0xe4), (.shiftRight, 0xe5), (.altRight, 0xe6),
   (.metaRight, 0xe7)]

/-- The rows of `key_to_wire` for the consumer page. -/
def consumerRows : List (NamedKey × ℕ) :=
  [(.mediaTrackNext, 0xb5), (.mediaTrackPrevious, 0xb6), (.mediaStop, 0xb7), (.eject, 0xb8),
   (.mediaPlayPause, 0xcd), (.audioVolumeMute, 0xe2), (.audioVolumeUp, 0xe9),
   (.audioVolumeDown, 0xea)]

/-- The usage of a named key; `Fn` has none. -/
def NamedKey.usage? (key : NamedKey) : Option (ℕ × ℕ) :=
  match consumerRows.lookup key with
  | some usage => some (consumerPage, usage)
  | none => (keyboardRows.lookup key).map (keyboardPage, ·)

/-! ## Keys and buttons -/

def keyCodeFromWire (key : WireKeyCode) : KeyCode :=
  let named := if key.usagePage = keyboardPage then keyboardKeyFromUsage key.usage
    else if key.usagePage = consumerPage then consumerKeyFromUsage key.usage
    else none
  match named with
  | some named => .named named
  | none => .unidentified key.usagePage key.usage

def keyToWire : KeyCode → Except WireConversionError WireKeyCode
  | .unidentified usagePage usageId => .ok ⟨usagePage, usageId⟩
  | .named key =>
    match key.usage? with
    | some (usagePage, usage) => .ok ⟨usagePage, usage⟩
    | none => .error .unsupportedKey

def pointerButtonFromWire : WirePointerButton → PointerButton
  | .primary => .left
  | .secondary => .right
  | .middle => .middle
  | .back => .back
  | .forward => .forward
  | .other value => .other value

def buttonToWire : PointerButton → WirePointerButton
  | .left => .primary
  | .right => .secondary
  | .middle => .middle
  | .back => .back
  | .forward => .forward
  | .other value => .other value

/-! ## Payloads and events -/

def payloadFromWire : WireInputPayloadV1 → InputPayload
  | .key code .down => .key (keyCodeFromWire code) .pressed
  | .key code .repeat => .key (keyCodeFromWire code) .repeated
  | .key code .up => .key (keyCodeFromWire code) .released
  | .pointerMove dx dy => .pointerMove dx dy
  | .pointerButton b .down => .pointerButton (pointerButtonFromWire b) .pressed
  | .pointerButton b .up => .pointerButton (pointerButtonFromWire b) .released
  | .scroll horizontal vertical => .scroll horizontal vertical

/-- The `state` of a key in `payload_to_wire`. -/
def keyStateToWire : KeyState → WireKeyState
  | .pressed => .down
  | .repeated => .repeat
  | .released => .up

/-- The `state` of a button in `payload_to_wire`. -/
def buttonStateToWire : ButtonState → WireButtonState
  | .pressed => .down
  | .released => .up

def payloadToWire : InputPayload → Except WireConversionError WireInputPayloadV1
  | .key code state => (keyToWire code).map (.key · (keyStateToWire state))
  | .pointerMove dx dy => .ok (.pointerMove dx dy)
  | .pointerButton b state => .ok (.pointerButton (buttonToWire b) (buttonStateToWire state))
  | .scroll horizontal vertical => .ok (.scroll horizontal vertical)

def inputFromWire (input : InputEventV1) : Except WireConversionError InputEvent :=
  let payload := payloadFromWire input.payload
  if payload.isFinite then
    .ok ⟨input.sequence, input.timestampNs, input.sourceHost, input.sourceDevice, payload⟩
  else .error .nonFiniteInput

def inputToWire (input : InputEvent) : Except WireConversionError InputEventV1 :=
  if input.payload.isFinite then
    (payloadToWire input.payload).map
      (⟨input.sequence, input.timestampNs, input.sourceHost, input.sourceDevice, ·⟩)
  else .error .nonFiniteInput

def releaseToWire (release : RemoteRelease) (sequence : ℕ) (sourceHost : HostId) :
    Except WireConversionError ReleaseInputV1 :=
  let wire (keys : List WireKeyCode) (buttons : List WirePointerButton) : ReleaseInputV1 :=
    ⟨sequence, sourceHost, some release.sourceDevice, .stateResynchronization, keys, buttons⟩
  match release.payload with
  | .key code .released => (keyToWire code).map fun key => wire [key] []
  | .pointerButton b .released => .ok (wire [] [buttonToWire b])
  | _ => .error .unsupportedReleasePayload

/-! ## Round trips -/

/-- A key that the wire restores, if it has a wire form at all. -/
def KeyCode.Survives (code : KeyCode) : Prop :=
  ∀ wire, keyToWire code = .ok wire → keyCodeFromWire wire = code

/-- The key of a payload survives; buttons, moves and scrolls always do. -/
def InputPayload.Survives : InputPayload → Prop
  | .key code _ => code.Survives
  | _ => True

/-- Each row of `key_to_wire` is read back by the table of its page. -/
theorem rows_agree : (∀ row ∈ keyboardRows, keyboardKeyFromUsage row.2 = some row.1)
    ∧ ∀ row ∈ consumerRows, consumerKeyFromUsage row.2 = some row.1 := by
  decide +kernel

theorem keyCodeFromWire_named (key : NamedKey) : (KeyCode.named key).Survives := by
  have hmem {rows : List (NamedKey × ℕ)} {usage : ℕ} (h : rows.lookup key = some usage) :
      (key, usage) ∈ rows := by
    obtain ⟨before, after, rfl, -⟩ := List.lookup_eq_some_iff.mp h
    exact List.mem_append_right _ List.mem_cons_self
  intro wire h
  dsimp only [keyToWire, NamedKey.usage?] at h
  cases hconsumer : consumerRows.lookup key with
  | some usage =>
    rw [hconsumer] at h
    cases h
    simp [keyCodeFromWire, keyboardPage, consumerPage, rows_agree.2 _ (hmem hconsumer)]
  | none =>
    rw [hconsumer] at h
    cases hkeyboard : keyboardRows.lookup key with
    | none =>
      rw [hkeyboard] at h
      cases h
    | some usage =>
      rw [hkeyboard] at h
      cases h
      simp [keyCodeFromWire, rows_agree.1 _ (hmem hkeyboard)]

@[simp] theorem pointerButtonFromWire_buttonToWire (b : PointerButton) :
    pointerButtonFromWire (buttonToWire b) = b := by
  cases b <;> rfl

theorem payloadFromWire_payloadToWire {payload : InputPayload} (hs : payload.Survives)
    {wire : WireInputPayloadV1} (h : payloadToWire payload = .ok wire) :
    payloadFromWire wire = payload := by
  cases payload with
  | key code state =>
    cases hk : keyToWire code with
    | error e => simp [payloadToWire, hk, Except.map] at h
    | ok key =>
      simp only [payloadToWire, hk, Except.map, Except.ok.injEq] at h
      subst h
      cases state <;> simp [keyStateToWire, payloadFromWire, hs key hk]
  | pointerMove dx dy => cases h; rfl
  | pointerButton b state => cases h; cases state <;> simp [buttonStateToWire, payloadFromWire]
  | scroll horizontal vertical => cases h; rfl

/-- What `input_to_wire` accepts is finite, and `input_from_wire` restores it. -/
theorem inputToWire_ok {input : InputEvent} (hs : input.payload.Survives) {wire : InputEventV1}
    (h : inputToWire input = .ok wire) : inputFromWire wire = .ok input := by
  unfold inputToWire at h
  split_ifs at h with hfinite
  cases hp : payloadToWire input.payload with
  | error e => simp [hp, Except.map] at h
  | ok payload =>
    simp only [hp, Except.map, Except.ok.injEq] at h
    subst h
    simp [inputFromWire, payloadFromWire_payloadToWire hs hp, hfinite]

/-- The fields of an event on the wire. -/
theorem inputToWire_fields {input : InputEvent} {wire : InputEventV1}
    (h : inputToWire input = .ok wire) :
    wire.sourceHost = input.sourceHost ∧ wire.sourceDevice = input.sourceDevice
      ∧ payloadToWire input.payload = .ok wire.payload ∧ input.payload.isFinite = true := by
  unfold inputToWire at h
  split_ifs at h with hfinite
  cases hp : payloadToWire input.payload with
  | error e => simp [hp, Except.map] at h
  | ok payload =>
    simp only [hp, Except.map, Except.ok.injEq] at h
    subst h
    exact ⟨rfl, rfl, rfl, hfinite⟩

end SoftwareKvm
