import SoftwareKvm.Control.Operations
import SoftwareKvm.Session.Edit

/-!
# What the control plane does to a coordinator

Every operation of the control plane on a session drives its coordinator
through the assignments of `PeerSessionCoordinator.Edit`, and none of them
reopens it.
-/

namespace SoftwareKvm

open Lib

namespace WorkspaceSession

open PeerSessionCoordinator

variable {ι ω : Type} [OutputInjectionBackend ι] [OutboundPeer ω] {O : Prop}

/-- The coordinator went through assignments alone. -/
def Drives (O : Prop) (s s' : WorkspaceSession ι ω) : Prop :=
  Edits O s.coordinator s'.coordinator

instance : Std.Refl (Drives (ι := ι) (ω := ω) O) := ⟨fun s => .refl s.coordinator⟩

instance : IsTrans (WorkspaceSession ι ω) (Drives O) := ⟨fun _ _ _ => .trans⟩

/-- The operation takes the coordinator through assignments alone. -/
abbrev Driven (ι ω : Type) [OutputInjectionBackend ι] [OutboundPeer ω] (O : Prop)
    {α : Type} (x : PlaneStep ι ω α) : Prop :=
  x.Ensures (Drives O)

/-! ## Parts of an operation -/

variable (session : CurrentAdmittedSession) (nowNs : ℕ) {α : Type} (f : PointerHandoffCoordinator →
    Except PointerHandoffErrorKind α × PointerHandoffCoordinator)

theorem routed_drives {f : CoordinatorMethod ι ω α} (hf : ∀ c, Edits O c (f c).2) :
    (routed session f).Ensures (Drives O) := by
  intro s
  unfold routed
  split
  · exact hf s.coordinator
  · exact .refl s.coordinator

theorem requireEndpoint_drives : Driven ι ω O (requireEndpoint session) :=
  routed_drives session fun c => .refl c

theorem onPlane_drives (f : WorkspaceControlPlane → WorkspaceControlPlane) :
    Driven ι ω O (onPlane f) := fun s => .refl s.coordinator

theorem onPointer_drives : Driven ι ω O (onPointer f) :=
  .bind (.need _ _) fun _ => .bind (onPlane_drives _) fun _ => .check _

theorem readyPointer_drives : Driven ι ω O (readyPointer f) :=
  .bind (.guard _ _) fun _ => onPointer_drives f

theorem ifSelected_drives {x : PlaneStep ι ω Unit}
    (hx : x.Ensures (Drives O)) : (ifSelected session x).Ensures (Drives O) := by
  intro s
  unfold ifSelected
  split
  · exact hx s
  · exact .refl s.coordinator

theorem trySendControl_drives (message : WireMessage) :
    Driven ι ω O (trySendControl session message) :=
  routed_drives session fun c => c.trySendControl_edits message

theorem clearWorkspaceRoutingReady_drives :
    Driven ι ω O (clearWorkspaceRoutingReady session nowNs) :=
  routed_drives session fun c => c.thenDrain_edits _ nowNs

theorem cancelPointerHandoff_drives : Driven ι ω O (cancelPointerHandoff session nowNs) :=
  routed_drives session fun _ => .quiet rfl rfl rfl

theorem publishPointerWorkspace_drives : Driven ι ω O (publishPointerWorkspace session nowNs) :=
  .bind (.need _ _) fun _ => routed_drives session fun c =>
    edits_parts.finishPointerHandoff c _ nowNs

theorem publishReadyPointerWorkspace_drives :
    Driven ι ω O (publishReadyPointerWorkspace session nowNs) :=
  .bind (publishPointerWorkspace_drives session nowNs) fun _ =>
    routed_drives session fun c => c.liftCore_edits _

theorem settlePointer_drives : Driven ι ω O (settlePointer session nowNs f) := by
  refine .bind (.read _) fun pointer => ?_
  cases pointer with
  | none => exact cancelPointerHandoff_drives session nowNs
  | some pointer =>
    refine .bind (onPlane_drives _) fun _ => ?_
    split
    · exact publishPointerWorkspace_drives session nowNs
    · exact cancelPointerHandoff_drives session nowNs
    · exact .fail _

theorem suspendSelected_drives : Driven ι ω O (suspendSelected session nowNs) :=
  .bind (clearWorkspaceRoutingReady_drives session nowNs) fun _ =>
    .bind (onPlane_drives _) fun _ => settlePointer_drives session nowNs _

theorem recompileSelected_drives : Driven ι ω O (recompileSelected session) := by
  refine .bind (.read _) fun plane => .bind (fun s => .refl s.coordinator) ?_
  intro candidate
  split
  · exact .bind (onPointer_drives _) fun _ => .bind (onPointer_drives _) fun _ =>
      .bind (onPointer_drives _) fun _ => onPlane_drives _
  · exact .bind (.check _) fun _ => .bind (.check _) fun _ => .bind (onPlane_drives _) fun _ =>
      onPlane_drives _

/-! ## The handoff -/

theorem handlePointerCommit_drives (message : PointerTransitionCommitV1) :
    Driven ι ω O (handlePointerCommit session message nowNs) :=
  .bind (.guard _ _) fun _ => .bind (readyPointer_drives _) fun _ =>
    .bind (onPlane_drives _) fun _ => publishPointerWorkspace_drives session nowNs

theorem handleDeviceSnapshot_drives (message : DeviceSnapshotV1) :
    Driven ι ω O (handleDeviceSnapshot session message nowNs) := by
  refine .bind (.read _) fun before => .bind (.check _) fun candidate => ?_
  refine .bind (.each (fun device => ?_) _) fun _ => onPlane_drives _
  exact routed_drives session fun c => edits_parts.releaseInboundDevice c device.id nowNs

theorem handleDeviceRemoved_drives (message : DeviceRemovedV1) :
    Driven ι ω O (handleDeviceRemoved session message nowNs) :=
  .bind (.check _) fun _ => .bind
    (routed_drives session fun c => edits_parts.releaseInboundDevice c _ nowNs)
    fun _ => onPlane_drives _

theorem handleDisplays_drives (f : DisplayInventory → Except InventoryError DisplayInventory) :
    Driven ι ω O (handleDisplays session f nowNs) :=
  .bind (ifSelected_drives session (suspendSelected_drives session nowNs)) fun _ =>
    .bind (.bind (.check _) fun _ => onPlane_drives _) fun _ => ifSelected_drives session <|
      .bind (recompileSelected_drives session) fun _ =>
        publishReadyPointerWorkspace_drives session nowNs

theorem dispatchEffect_drives (effect : CoreEffect AdmittedPointerBinding) (nowNs : ℕ) :
    Driven ι ω O (dispatchEffect session effect nowNs) := by
  refine .bind (.guard _ _) fun _ => .bind (.need _ _) fun pointer => ?_
  split
  · exact .pure _
  · split
    · exact .bind (.pure _) fun _ => .bind (onPlane_drives _) fun _ => .pure _
    · exact .bind (.attempt (trySendControl_drives session _)) fun _ =>
        .bind (onPlane_drives _) fun _ => .pure _

theorem dispatchLoop_drives (nowNs bound : ℕ)
    (effect : CoreEffect AdmittedPointerBinding) (commit : Bool) :
    Driven ι ω O (dispatchLoop session nowNs bound effect commit) := by
  induction bound generalizing effect commit with
  | zero => exact .fail _
  | succ bound ih =>
    have hdispatch : Driven ι ω O (dispatchEffect session effect nowNs) :=
      dispatchEffect_drives session effect nowNs
    cases commit with
    | false =>
      refine .bind hdispatch fun result => ?_
      split
      · exact .pure _
      · exact publishPointerWorkspace_drives session nowNs
      · exact ih _ _
      · exact .fail _
      · exact .fail _
    | true =>
      refine .bind (routed_drives session fun c => edits_parts.beginPointerHandoff c nowNs) fun _ =>
        .bind hdispatch fun result => ?_
      split
      · exact .pure _
      · exact publishPointerWorkspace_drives session nowNs
      · exact ih _ _
      · exact .bind (cancelPointerHandoff_drives session nowNs) fun _ => .fail _
      · exact .bind (cancelPointerHandoff_drives session nowNs) fun _ => .fail _

theorem handlePointerEnter_drives (message : PointerEnterV1) (nowNs : ℕ) :
    Driven ι ω O (handlePointerEnter session message nowNs) := by
  refine .bind (.guard _ _) fun _ => .bind (readyPointer_drives _) fun effect => ?_
  have hdispatch : Driven ι ω O (dispatchPointerEffect session effect false nowNs) :=
    dispatchLoop_drives session nowNs _ _ _
  split
  · exact .bind (routed_drives session fun c => edits_parts.beginDestinationHandoffBarrier c nowNs)
      fun _ => hdispatch.onError (routed_drives session fun _ => .quiet rfl rfl rfl)
  · exact hdispatch

theorem handlePointerAck_drives (message : PointerTransitionAckV1) (nowNs : ℕ) :
    Driven ι ω O (handlePointerAck session message nowNs) := by
  refine .bind (.guard _ _) fun _ => .bind (readyPointer_drives _) fun answer => ?_
  split
  · exact dispatchLoop_drives session nowNs _ _ _
  · exact .pure _
  · exact .pure _

theorem handleMessage_drives (message : WireMessage) (nowNs : ℕ) :
    Driven ι ω O (handleMessage session message nowNs) := by
  refine .bind (requireEndpoint_drives session) fun _ => .bind (.guard _ _) fun _ =>
    .bind (.guard _ _) fun _ => ?_
  split
  · exact .bind (handleDeviceSnapshot_drives session nowNs _) fun _ => .pure _
  · exact .bind (.bind (.check _) fun _ => onPlane_drives _) fun _ => .pure _
  · exact .bind (handleDeviceRemoved_drives session nowNs _) fun _ => .pure _
  · exact .bind (handleDisplays_drives session nowNs _) fun _ => .pure _
  · exact .bind (handleDisplays_drives session nowNs _) fun _ => .pure _
  · exact .bind (.guard _ _) fun _ => .bind (readyPointer_drives _) fun _ => .pure _
  · exact .bind (handlePointerEnter_drives session _ nowNs) fun _ => .pure _
  · exact .bind (handlePointerAck_drives session _ nowNs) fun _ => .pure _
  · exact .bind (handlePointerCommit_drives session nowNs _) fun _ => .pure _
  · exact .pure _

/-! ## The life of a session -/

theorem degrade_drives : Driven ι ω O (degrade session nowNs) :=
  .bind (requireEndpoint_drives session) fun _ => .bind (onPlane_drives _) fun _ =>
    ifSelected_drives session (suspendSelected_drives session nowNs)

theorem connected_drives : Driven ι ω O (connected session) := by
  have hhealthy : Driven ι ω O (do
      if ← Step.read fun s => s.plane.isSelected session && s.plane.selectedInventoryReady then
        let _ ← readyPointer (·.markSessionHealthy session.pointerBinding)) := by
    refine .bind (.read _) fun ready => ?_
    split
    · exact .bind (readyPointer_drives _) fun _ => .pure _
    · exact .pure _
  refine .bind (requireEndpoint_drives session) fun _ => .bind (.read _) fun resync => ?_
  split
  · exact .bind (.check _) fun devices =>
      .bind (trySendControl_drives session (.deviceSnapshot devices))
      fun _ => .bind (onPlane_drives _) fun _ => hhealthy
  · exact hhealthy

theorem retire_drives : Driven ι ω O (retire session nowNs) :=
  .bind (requireEndpoint_drives session) fun _ => .bind
    (ifSelected_drives session (clearWorkspaceRoutingReady_drives session nowNs)) fun _ =>
      .bind (onPlane_drives _) fun _ => ifSelected_drives session <|
        .bind (onPlane_drives _) fun _ => settlePointer_drives session nowNs _

theorem cancelHandoffForFailsafe_drives :
    Driven ι ω O (cancelHandoffForFailsafe session nowNs) := by
  refine .bind (requireEndpoint_drives session) fun _ => .bind (.guard _ _) fun _ =>
    .bind (.read _) fun attached => ?_
  split
  · exact .bind (onPointer_drives _) fun _ => .bind (onPointer_drives _) fun _ =>
      publishPointerWorkspace_drives session nowNs
  · exact cancelPointerHandoff_drives session nowNs

end WorkspaceSession

end SoftwareKvm
