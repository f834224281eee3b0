import SoftwareKvm.Core.CaptureSpec

/-!
# Runs of `DaemonCore`

A run of the core is a list of calls: captured events, the two settlements of a
remote decision and the administrative operations. Nothing is assumed about
their order; each result states what it needs.
-/

namespace SoftwareKvm

open Lib

/-- The time that an operation is given. -/
def CoreOp.nowNs? : CoreOp → Option ℕ
  | .tick now | .enable now | .disable now | .triggerEmergency now | .shutdown now
  | .clearWorkspaceRoutingReady now | .markWorkspaceRoutingReady now | .updateWorkspace _ now
  | .beginPointerHandoff now | .cancelPointerHandoff now | .abortDestinationHandoffBarrier now
  | .finishPointerHandoff _ now | .setPeerState _ _ now | .installSessionEndpoint _ now
  | .setEndpointState _ _ now | .retireSessionEndpoint _ now | .confirmTransportInvalidated _ now
  | .gateLocalDevices _ now | .restoreLocalDevice _ now | .prepareRoutePolicyUpdate _ _ now
  | .retryRoutePolicyUpdate now | .commitRoutePolicyUpdate _ now | .abortRoutePolicyUpdate _ now
  | .updateConfig _ now | .confirmCleanupRelease _ now | .retryCleanupRelease _ now => some now
  | .takeNextCleanupRelease => none

/-- A call on the core. -/
inductive CoreAction
  | prepare (captured : CapturedInput) (nowNs : ℕ)
  | confirm (effect : RemoteInputEffect) (acceptedSequence nowNs : ℕ)
  | fail (effect : RemoteInputEffect) (nowNs : ℕ)
  | process (captured : CapturedInput) (nowNs : ℕ)
  | op (op : CoreOp)

namespace CoreAction

/-- The core after a call; the result of the call is dropped. -/
def apply (c : DaemonCore) : CoreAction → DaemonCore
  | .prepare captured now => (c.prepareCaptured captured now).2
  | .confirm effect sequence now => (c.confirmRemoteInput effect sequence now).2
  | .fail effect now => (c.failRemoteInput effect now).2
  | .process captured now => (c.processCaptured captured now).2
  | .op request => request.apply c

/-- The time that a call is given. -/
def nowNs? : CoreAction → Option ℕ
  | .prepare _ now | .confirm _ _ now | .fail _ now | .process _ now => some now
  | .op request => request.nowNs?

end CoreAction

namespace DaemonCore

/-- `process_captured` is `prepare_captured`, whose remote decision is failed. -/
theorem processCaptured_eq (c : DaemonCore) (captured : CapturedInput) (nowNs : ℕ) :
    (∃ effect c', c.prepareCaptured captured nowNs = (.ok (.remote effect), c')
        ∧ (c.processCaptured captured nowNs).2 = (c'.failRemoteInput effect nowNs).2)
      ∨ (∀ effect, (c.prepareCaptured captured nowNs).1 ≠ .ok (.remote effect))
        ∧ (c.processCaptured captured nowNs).2 = (c.prepareCaptured captured nowNs).2 := by
  unfold processCaptured
  generalize c.prepareCaptured captured nowNs = r
  obtain ⟨_ | decision, c'⟩ := r
  · exact Or.inr ⟨fun _ h => (nomatch h), rfl⟩
  · cases decision with
    | remote effect =>
      refine Or.inl ⟨effect, c', rfl, ?_⟩
      simp only
      generalize c'.failRemoteInput effect nowNs = r
      obtain ⟨_ | _, c''⟩ := r <;> rfl
    | «local» | inert | fault => exact Or.inr ⟨fun _ h => (nomatch h), rfl⟩

/-- Captured events and their settlement. -/
theorem Capturing.apply {R : DaemonCore → DaemonCore → Prop} (h : Capturing R)
    (hrecord : ∀ {c device stateful nowNs previousLatch c₁},
      c.recordTransition device stateful nowNs = (.ok previousLatch, c₁) → R c c₁)
    (c : DaemonCore) {a : CoreAction} (hop : ∀ op, a ≠ .op op) : R c (a.apply c) := by
  cases a with
  | prepare captured now => exact h.prepareCaptured hrecord c captured now
  | confirm effect sequence now => exact (h.settling now).confirmRemoteInput c effect sequence
  | fail effect now => exact (h.settling now).failRemoteInput c effect
  | process captured now =>
    have hprepare := h.prepareCaptured hrecord c captured now
    show R c (c.processCaptured captured now).2
    rcases processCaptured_eq c captured now with ⟨effect, c', heq, hfail⟩ | ⟨-, heq⟩
    · rw [heq] at hprepare
      rw [hfail]
      exact h.trans hprepare ((h.settling now).failRemoteInput c' effect)
    · rw [heq]
      exact hprepare
  | op op => exact absurd rfl (hop op)

end DaemonCore

end SoftwareKvm
