import TruenasCsi.Fencing.Mappings
import TruenasCsi.Fencing.Runs
import TruenasCsi.Subsystems.Steps

/-!
# Whose access an unpublish leaves alone

On a share every node has its own addresses and the others keep theirs; a block volume has one mapping or
port binding for all.

## Main result

`unpublish_isolated`, under `Isolating`: a block volume is only unpublished with all its holders.
-/

namespace TruenasCsi.Fencing

open Backend
open Csi (Controller)

variable (s : Subject) (reg : Registry) (v : Volume.ID) (w : World)

/-- The extent of an iSCSI volume is mapped on the backend's target. -/
def Mapped : Prop :=
  ∃ b ∈ reg.backends.get? v.backend, Iscsi.Exported (w.appliance v.backend).iscsi
    (Iscsi.extentName reg.env.sha256 v) (Iscsi.targetName b.pool b.parentDataset)

/-- The subsystem of an NVMe volume is bound to a port. -/
def Bound : Prop :=
  ∃ row ∈ (w.appliance v.backend).nvmet.named (Nvme.subsystemName reg.env.sha256 v),
    (w.appliance v.backend).nvmet.Serves row.id

instance : Decidable (Mapped reg v w) :=
  inferInstanceAs (Decidable (∃ b ∈ reg.backends.get? v.backend,
    Iscsi.Exported (w.appliance v.backend).iscsi (Iscsi.extentName reg.env.sha256 v)
      (Iscsi.targetName b.pool b.parentDataset)))

/-- What the last publish made is still there. -/
def HasAccess (h : List Occurrence) (w : World) (node : String) : Prop :=
  match s.protocol with
  | .nfs => held s h node ⊆ hostsOf .nfs s.id w
  | .smb => held s h node ⊆ hostsOf .smb s.id w
  | .iscsi => Mapped reg s.id w
  | .nvme => Bound reg s.id w

/-- No block volume is taken from other holders. -/
def Isolating (_ : List Occurrence) (a : Attempt) (w : World) : Prop :=
  ∀ node, a.request = .unpublish node → Shared s.protocol ∨
    ∀ m ∈ (ledgerOf s.id w).nodes, m ∈ Controller.targets node (ledgerOf s.id w)

section

variable {s : Subject} {h : List Occurrence} {w : World}

/-- Whoever is listed after an unpublish was not withdrawn by it. -/
theorem listed_of_struck {v : World} {m : String} {nodes : Set String}
    (ledger : (view s.protocol s.id w).ledger = Fence.struck (view s.protocol s.id v).ledger nodes)
    (listed : m ∈ (ledgerOf s.id w).nodes) : m ∈ (ledgerOf s.id v).nodes ∧ m ∉ nodes := by
  obtain ⟨addrs, entry⟩ := Volume.Grants.mem_nodes.mp listed
  have stored : (view s.protocol s.id w).ledger m = some (addresses s.protocol addrs) := by
    simp [view, entry]
  rw [ledger] at stored
  have other : m ∉ nodes := by
    intro named
    rw [Fence.struck_mem named] at stored
    cases stored
  rw [Fence.struck_not_mem other] at stored
  obtain ⟨entry', present, -⟩ := Option.map_eq_some_iff.mp stored
  exact ⟨Volume.Grants.mem_nodes.mpr ⟨entry', present⟩, other⟩

/-- In every run in which no block volume is unpublished while it stays with others (`Isolating`): after an
unpublish that succeeded, each node that the ledger still lists has the access its last publish gave it. -/
theorem unpublish_isolated {o : Occurrence} {node m : String}
    (run : Run s (Isolating s) (o :: h) w) (request : o.attempt.request = .unpublish node)
    (ok : o.ok = true) (listed : m ∈ (ledgerOf s.id w).nodes) :
    HasAccess s o.attempt.controller.reg (o :: h) w m := by
  have kept := run_kept run m
  have block : ¬Shared s.protocol → False := by
    intro block
    obtain ⟨v, -, may, ledger⟩ := run.unpublished request ok
    obtain ⟨was, notNamed⟩ := listed_of_struck ledger listed
    exact notNamed ((may node request).resolve_left block m was)
  unfold HasAccess
  cases protocol : s.protocol with
  | nfs => rwa [protocol] at kept
  | smb => rwa [protocol] at kept
  | iscsi => exact (block (by simp [Shared, protocol])).elim
  | nvme => exact (block (by simp [Shared, protocol])).elim

end

variable (node : String)

def sampleCluster : Except Err (Option NodeObject) :=
  if node = "worker-1" then .ok (some { addresses := [(.internalIP, "10.0.0.1")] })
  else if node = "worker-2" then .ok (some { addresses := [(.internalIP, "10.0.0.2")] })
  else .ok none

def sampleController : Controller where
  reg := {
    backends := Dict.ofList
      [("nas", { pool := "tank", parentDataset := "k8s", host := "10.0.0.9" })]
    env := ⟨⟨2026, 1, 1, 0, 0, 0⟩, 0, "secret", fun _ => "0", id⟩ }
  nodes := kubeNodeResolver sampleCluster

def nfsVolume : Subject where
  handle := "nas/nfs/tank/k8s/pvc-1"
  id := ⟨"nas", "nfs", "tank", "k8s", "", "pvc-1"⟩
  protocol := .nfs
  parsed := by decide
  known := by decide

def iscsiVolume : Subject where
  handle := "nas/iscsi/tank/k8s/pvc-1"
  id := ⟨"nas", "iscsi", "tank", "k8s", "", "pvc-1"⟩
  protocol := .iscsi
  parsed := by decide
  known := by decide

def sampleStorage (type : Appliance.DatasetType) : Appliance.Storage where
  datasets := Dict.ofList [("tank", { type := .filesystem }), ("tank/k8s", { type := .filesystem }),
    ("tank/k8s/pvc-1", { type, mountpoint := "/mnt/tank/k8s/pvc-1" })]

/-- A filesystem that has no share yet. -/
def nfsWorld : World where
  appliance _ := { storage := sampleStorage .filesystem }

/-- A zvol that is not mapped. -/
def iscsiWorld : World where
  appliance _ := {
    storage := sampleStorage .volume
    iscsi := {
      portals := [⟨1, "truenas-csi", ["0.0.0.0"]⟩]
      targets := [⟨2, Iscsi.targetName "tank" "k8s", [{ portal := 1 }]⟩]
      extents := [{ id := 3, name := "pvc-1", disk := "zvol/tank/k8s/pvc-1", naa := "0x1" }]
      nextID := 4 } }

def publishing (mode : Csi.AccessMode) : Attempt where
  controller := sampleController
  request := .publish node ⟨.mount "", mode⟩

def unpublishing : Attempt where
  controller := sampleController
  request := .unpublish node

theorem nfsWorld_clean : Clean .nfs nfsVolume.id nfsWorld := by
  intro mp _ a present
  cases present

def publishedTwo : World :=
  ((publishing "worker-2" .multiNodeMultiWriter).perform nfsVolume
    ((publishing "worker-1" .multiNodeMultiWriter).perform nfsVolume nfsWorld).2).2

def publishedOnce : Bool × World := (publishing "worker-1" .singleNodeWriter).perform iscsiVolume iscsiWorld

def unpublishedOther : Bool × World := (unpublishing "worker-2").perform iscsiVolume publishedOnce.2

theorem isolation_runs :
    (((unpublishing "worker-2").perform nfsVolume publishedTwo).1 = true ∧
      "worker-1" ∈ (ledgerOf nfsVolume.id
        ((unpublishing "worker-2").perform nfsVolume publishedTwo).2).nodes) ∧
    (publishedOnce.1 = true ∧ Mapped sampleController.reg iscsiVolume.id publishedOnce.2) ∧
    (unpublishedOther.1 = true ∧ "worker-1" ∈ (ledgerOf iscsiVolume.id unpublishedOther.2).nodes ∧
      ¬Mapped sampleController.reg iscsiVolume.id unpublishedOther.2) := by
  decide +kernel

/-- The other node keeps its access. -/
theorem unpublish_isolated_of_two : ∃ h w,
    HasAccess nfsVolume sampleController.reg ((unpublishing "worker-2").occurrence nfsVolume w :: h)
      ((unpublishing "worker-2").perform nfsVolume w).2 "worker-1" := by
  have first : Run nfsVolume (Isolating nfsVolume) _ _ :=
    .call (publishing "worker-1" .multiNodeMultiWriter) (.start nfsWorld_clean) nofun
  have second := Run.call (publishing "worker-2" .multiNodeMultiWriter) first nofun
  have third := Run.call (unpublishing "worker-2") second fun _ _ => Or.inl (.inl rfl)
  exact ⟨_, _, unpublish_isolated third rfl isolation_runs.1.1 isolation_runs.1.2⟩

/-- A stranger's unpublish takes the holder's access. -/
theorem unpublish_takes_from_holder :
    publishedOnce.1 = true ∧ Mapped sampleController.reg iscsiVolume.id publishedOnce.2 ∧
    unpublishedOther.1 = true ∧ "worker-1" ∈ (ledgerOf iscsiVolume.id unpublishedOther.2).nodes ∧
    ¬Mapped sampleController.reg iscsiVolume.id unpublishedOther.2 := by
  obtain ⟨-, ⟨published, mapped⟩, unpublished, listed, gone⟩ := isolation_runs
  exact ⟨published, mapped, unpublished, listed, gone⟩

end TruenasCsi.Fencing
