import Mathlib.Data.List.Basic

/-!
# Decoding a stream of frames

A frame decoder looks at the front of a buffer and finds a complete frame, an
incomplete one or a malformed one. `FrameDecoder` carries what makes decoding a
stream in pieces meaningful: bytes that arrive later do not change what was
found in front of them.

* `drain`: the frames at the front of a buffer, what is left and the error that
  stopped it.
* `drain_append`: what a buffer and a continuation drain to together, from what
  the buffer drains to.
* `drain_append_of_error`: nothing that follows a malformed frame is decoded.
-/

namespace SoftwareKvm.Lib

variable {β ε M : Type}

/-- A decoder of one frame at the front of a buffer, with its length. -/
structure FrameDecoder (β ε M : Type) where
  decode : List β → Except ε (Option (M × ℕ))
  pos {buffer : List β} {message : M} {length : ℕ} :
    decode buffer = .ok (some (message, length)) → 0 < length ∧ length ≤ buffer.length
  stable {buffer : List β} {frame : M × ℕ} (more : List β) :
    decode buffer = .ok (some frame) → decode (buffer ++ more) = .ok (some frame)
  stable_error {buffer : List β} {error : ε} (more : List β) :
    decode buffer = .error error → decode (buffer ++ more) = .error error
  decode_nil : decode [] = .ok none

/-- The complete frames at the front of a buffer, the bytes after them and the
    error of a malformed frame there. -/
structure Drained (β ε M : Type) where
  messages : List M
  rest : List β
  error : Option ε

namespace FrameDecoder

variable (d : FrameDecoder β ε M)

/-- Decode frames until one is incomplete or malformed. -/
def drain (buffer : List β) : Drained β ε M :=
  match h : d.decode buffer with
  | .error error => ⟨[], buffer, some error⟩
  | .ok none => ⟨[], buffer, none⟩
  | .ok (some (message, length)) =>
    have : buffer.length - length < buffer.length := by
      have := d.pos h
      omega
    let drained := drain (buffer.drop length)
    ⟨message :: drained.messages, drained.rest, drained.error⟩
termination_by buffer.length

variable {d} {buffer : List β}

theorem drain_of_error {error : ε} (h : d.decode buffer = .error error) :
    d.drain buffer = ⟨[], buffer, some error⟩ := by
  rw [drain]
  split <;> simp_all

theorem drain_of_none (h : d.decode buffer = .ok none) : d.drain buffer = ⟨[], buffer, none⟩ := by
  rw [drain]
  split <;> simp_all

theorem drain_of_some {message : M} {length : ℕ}
    (h : d.decode buffer = .ok (some (message, length))) :
    d.drain buffer = ⟨message :: (d.drain (buffer.drop length)).messages,
      (d.drain (buffer.drop length)).rest, (d.drain (buffer.drop length)).error⟩ := by
  rw [drain]
  split <;> simp_all

@[simp] theorem drain_nil : d.drain [] = ⟨[], [], none⟩ := drain_of_none d.decode_nil

/-- What is left after a drain without an error is incomplete. -/
theorem decode_rest (h : (d.drain buffer).error = none) :
    d.decode (d.drain buffer).rest = .ok none := by
  induction buffer using drain.induct (d := d) with
  | case1 buffer error hdecode => simp [drain_of_error hdecode] at h
  | case2 buffer hdecode => simpa [drain_of_none hdecode] using hdecode
  | case3 buffer message length hdecode _ ih =>
    rw [drain_of_some hdecode] at h ⊢
    exact ih h

/-- A buffer without a malformed frame and a continuation drain to the frames
    of the buffer and those of what was left of it and the continuation. -/
theorem drain_append (h : (d.drain buffer).error = none) (more : List β) :
    d.drain (buffer ++ more) =
      ⟨(d.drain buffer).messages ++ (d.drain ((d.drain buffer).rest ++ more)).messages,
        (d.drain ((d.drain buffer).rest ++ more)).rest,
        (d.drain ((d.drain buffer).rest ++ more)).error⟩ := by
  induction buffer using drain.induct (d := d) with
  | case1 buffer error hdecode => simp [drain_of_error hdecode] at h
  | case2 buffer hdecode => simp [drain_of_none hdecode]
  | case3 buffer message length hdecode _ ih =>
    rw [drain_of_some hdecode] at h
    rw [drain_of_some hdecode, drain_of_some (d.stable more hdecode),
      List.drop_append_of_le_length (d.pos hdecode).2, ih h]
    rfl

/-- What follows a malformed frame is not decoded. -/
theorem drain_append_of_error {error : ε}
    (h : (d.drain buffer).error = some error) (more : List β) :
    d.drain (buffer ++ more) =
      ⟨(d.drain buffer).messages, (d.drain buffer).rest ++ more, some error⟩ := by
  induction buffer using drain.induct (d := d) with
  | case1 buffer found hdecode =>
    rw [drain_of_error hdecode] at h ⊢
    rw [drain_of_error (d.stable_error more hdecode)]
    simpa using h
  | case2 buffer hdecode => simp [drain_of_none hdecode] at h
  | case3 buffer message length hdecode _ ih =>
    rw [drain_of_some hdecode] at h
    rw [drain_of_some hdecode, drain_of_some (d.stable more hdecode),
      List.drop_append_of_le_length (d.pos hdecode).2, ih h]

end FrameDecoder

end SoftwareKvm.Lib
