import TruenasCsi.Truenas.Errors
import TruenasCsi.Fencing.Exclusive

/-! Revoking a node's access through the backends. -/

namespace TruenasCsi.PodFencing

open Backend Fencing Prog Volume Csi Text

/-- The fencer that unpublishes through the registry's backends. -/
structure RegistryFencer where
  registry : Option Registry
  nodes : Option NodeResolver

/-- Revoke one volume from one node. -/
def RegistryFencer.fence (f : RegistryFencer) (id : ID) (nodeID : String) : M Unit :=
  match f.registry, f.nodes with
  | some registry, some nodes => do
    let node ← (Prog.ofExcept (nodes.resolve nodeID)).mapError
      fun e => e.wrap ("resolving node " ++ nodeID ++ ": ")
    let b ← (registry.handle id.backend id.protocol).mapError
      fun e => e.wrap ("backend for " ++ id.string ++ ": ")
    match ← (b.unpublish id node).attempt with
    | .ok _ => return ()
    -- A volume whose dataset is gone counts as fenced.
    | .error e => if e.isA .volumeGone then return () else throw e
  | _, _ => throw (.plain "fencer is not configured with a registry and a node resolver")

def fencerOf (c : Csi.Controller) : RegistryFencer := ⟨some c.reg, some c.nodes⟩

section

variable {v : ID} {node : NodeRef}

variable (b : Server) (c : Truenas.Client)

theorem bare_unpublish_nfs : M.Bare (Nfs.unpublish b v node) := by
  refine bare_bind bare_status fun _ => bare_bind bare_status fun ds => ?_
  cases ds with
  | none => exact bare_ret
  | some ds =>
    refine bare_bind bare_status fun share => ?_
    cases share with
    | none => exact bare_ret
    | some share => exact bare_status

theorem bare_unpublish_smb : M.Bare (Smb.unpublish b v node) := by
  refine bare_bind bare_status fun _ => bare_bind bare_status fun ds => ?_
  cases ds with
  | none => exact bare_ret
  | some ds =>
    refine bare_bind bare_status fun share => ?_
    cases share with
    | none => exact bare_ret
    | some share => exact bare_status

theorem bare_unmap (target extent : Nat) (rows : List Appliance.TargetExtent) :
    M.Bare (Iscsi.unmap c target extent rows) := by
  induction rows with
  | nil => exact bare_ret
  | cons m rest ih =>
    rw [Iscsi.unmap]
    split_ifs
    · exact bare_bind (bare_wrap (bare_gone bare_iscsi)) fun _ =>
        bare_bind (bare_process _) fun _ => ih
    · exact ih

theorem bare_unpublish_iscsi : M.Bare (Iscsi.unpublish b v node) := by
  refine bare_bind (bare_wrap (bare_first bare_iscsi)) fun extent => ?_
  cases extent with
  | none => exact bare_ret
  | some extent =>
    refine bare_bind (bare_wrap (bare_first bare_iscsi)) fun target => ?_
    cases target with
    | none => exact bare_ret
    | some target =>
      exact bare_bind (bare_wrap (bare_rows bare_iscsi)) fun _ => bare_unmap _ _ _ _

theorem bare_deleteAll {delete : Nat → M Unit} (each : ∀ id, M.Bare (delete id)) (context : String)
    (ids : List Nat) : M.Bare (Nvme.deleteAll delete context ids) := by
  induction ids with
  | nil => exact bare_ret
  | cons id rest ih => exact bare_bind (bare_wrap (each id)) fun _ => ih

theorem bare_revokeHost (name : String) (subsys : Nat) :
    M.Bare (Nvme.revokeHost c name subsys node) := by
  unfold Nvme.revokeHost
  split_ifs
  · exact bare_ret
  · refine bare_bind (bare_wrap (bare_first bare_nvmet)) fun host => ?_
    cases host with
    | none => exact bare_ret
    | some host =>
      exact bare_bind (bare_wrap (bare_rows bare_nvmet)) fun _ =>
        bare_deleteAll (fun _ => bare_gone bare_nvmet) _ _

theorem bare_unpublish_nvme : M.Bare (Nvme.unpublish b v node) := by
  refine bare_bind (bare_wrap (bare_first bare_nvmet)) fun subsys => ?_
  cases subsys with
  | none => exact bare_ret
  | some subsys =>
    exact bare_bind (bare_revokeHost _ _ _) fun _ =>
      bare_bind (bare_wrap (bare_rows bare_nvmet)) fun _ =>
        bare_deleteAll (fun _ => bare_gone bare_nvmet) _ _

/-- The backends' unpublish never reads or writes the ledger. -/
theorem bare_unpublish (h : Handle) : M.Bare (h.unpublish v node) := by
  unfold Handle.unpublish
  cases h.protocol with
  | nfs => exact bare_unpublish_nfs _
  | smb => exact bare_unpublish_smb _
  | iscsi => exact bare_unpublish_iscsi _
  | nvme => exact bare_unpublish_nvme _

end

variable (c : Csi.Controller) (p : Protocol) (v : ID) (nodeID : String) (w : World)

/-- A revocation was carried out. -/
def Cut (addrs : List String) (w t : World) : Prop :=
  match p with
  | .nfs => hostsOf .nfs v t = leftover .nfs v w addrs
  | .smb => hostsOf .smb v t = leftover .smb v w addrs
  | .iscsi => ¬Mapped c.reg v t
  | .nvme => ¬Bound c.reg v t

/-- The addresses of a node: recorded and known. -/
def ownAddresses : Set String :=
  addresses p ((ledgerOf v w).getD nodeID []) ∪
    match c.nodes.resolve nodeID with
    | .ok live => addresses p live.addrs
    | .error _ => ∅

theorem addresses_revoked {c : Csi.Controller} {p : Protocol} {v : ID} {nodeID : String} {w : World}
    {g : Grants} (same : g.get? nodeID = (ledgerOf v w).get? nodeID) :
    addresses p (c.revoked g nodeID).addrs = ownAddresses c p v nodeID w := by
  unfold Csi.Controller.revoked ownAddresses
  rw [show g.getD nodeID [] = (ledgerOf v w).getD nodeID [] by simp [Dict.getD, same]]
  cases c.nodes.resolve nodeID with
  | ok live => exact addresses_union _ _
  | error e => exact (Set.union_empty _).symm

/-- A node is left no more access than in another world. -/
def NoMoreAccess (t u : World) : Prop :=
  match p with
  | .nfs => hostsOf .nfs v t ∩ ownAddresses c .nfs v nodeID w ⊆ hostsOf .nfs v u
  | .smb => hostsOf .smb v t ∩ ownAddresses c .smb v nodeID w ⊆ hostsOf .smb v u
  | .iscsi => Mapped c.reg v t → Mapped c.reg v u
  | .nvme => Bound c.reg v t → Bound c.reg v u

section

variable {c : Csi.Controller} {p : Protocol} {v : ID} {nodeID : String} {w t u : World}
  {b : Config}

theorem wp_unpublish_cut (found : c.reg.backends.get? v.backend = some b) (node : NodeRef) :
    M.wp ((handleOf c p v b).unpublish v node)
      (fun r u => r = .ok () → Cut c p v node.addrs w u) w := by
  have share : ∀ {q}, Shared q → M.wp ((handleOf c q v b).unpublish v node)
      (fun r u => r = .ok () → hostsOf q v u = leftover q v w node.addrs) w := by
    intro q shared
    refine wp_mono (wp_unpublish_stripped shared rfl node) ?_
    rintro r u (⟨⟨e, rfl⟩, -⟩ | stripped) ok
    · cases ok
    · exact stripped.hosts
  cases p with
  | nfs => exact share (.inl rfl)
  | smb => exact share (.inr rfl)
  | iscsi =>
    have spec : M.wp (Iscsi.unpublish (handleOf c .iscsi v b).server v node) _ w :=
      Iscsi.wp_unpublish
    refine wp_mono spec ?_
    rintro r u ⟨-, done⟩ ok ⟨b', found', mapped⟩
    obtain rfl := Option.some.inj (found.symm.trans found')
    exact done ok mapped
  | nvme =>
    have spec : M.wp (Nvme.unpublish (handleOf c .nvme v b).server v node) _ w :=
      Nvme.wp_unpublish
    refine wp_mono spec ?_
    rintro r u ⟨steps, done⟩ ok ⟨row, named, served⟩
    exact (done ok row (steps.named.symm.trans named)).1 served

theorem Cut.from_same {addrs : List String} (same : t.appliance = w.appliance)
    (cut : Cut c p v addrs t u) : Cut c p v addrs w u := by
  have here : t.appliance v.backend = w.appliance v.backend := by rw [same]
  cases p with
  | nfs => exact Eq.trans cut (leftover_congr here addrs)
  | smb => exact Eq.trans cut (leftover_congr here addrs)
  | iscsi => exact cut
  | nvme => exact cut

/-- A fence takes the addresses of the resolved node off, and leaves the ledger. -/
theorem wp_fence (known : Protocol.factoryFor v.protocol = some p) :
    M.wp ((fencerOf c).fence v nodeID) (fun r u => r = .ok () → ledgerOf v u = ledgerOf v w ∧
      ∃ live, c.nodes.resolve nodeID = .ok live ∧ Cut c p v live.addrs w u) w := by
  unfold RegistryFencer.fence fencerOf
  dsimp only
  cases resolved : c.nodes.resolve nodeID with
  | error e => exact nofun
  | ok live =>
    show M.wp ((c.reg.handle v.backend v.protocol).mapError _ >>= _) _ w
    refine wp_bind.mpr (wp_mapError.mpr ?_)
    refine wp_mono (c.reg.wp_handle v.backend v.protocol) ?_
    rintro r t ⟨same, answered⟩
    cases r with
    | error e => exact nofun
    | ok h =>
      obtain ⟨b, p', found, known', rfl⟩ := answered h rfl
      obtain rfl : p = p' := Option.some.inj (known.symm.trans known')
      have ledger : ledgerOf v t = ledgerOf v w := ledgerOf_congr (by rw [same])
      have spares := wp_spares (within_unpublish_spares (handleOf c p v b) v live) v t
      have spec := wp_and (wp_and (wp_unpublish_cut found live) spares)
        ((bare_unpublish (handleOf c p v b)).wp t)
      refine wp_bind.mpr (wp_attempt.mpr (wp_mono spec ?_))
      rintro r u ⟨⟨cut, kept⟩, bare⟩
      cases r with
      | ok _ => exact fun _ => ⟨kept.trans ledger, live, rfl, (cut rfl).from_same same⟩
      | error e =>
        show M.wp (if e.isA .volumeGone = true then _ else _) _ u
        rw [(bare e rfl).not_isA]
        exact nofun

/-- A successful unpublish took off what is known. -/
theorem wp_unpublish_one {handle : String} (parsed : parseID handle = .ok v)
    (known : Protocol.factoryFor v.protocol = some p) (shared : Shared p) (named : nodeID ≠ "") :
    M.wp (c.controllerUnpublishVolume ⟨handle, nodeID⟩) (fun r t => r.isOk = true →
      hostsOf p v t = leftover p v w (c.revoked (ledgerOf v w) nodeID).addrs) w := by
  have single : Csi.Controller.targets nodeID (ledgerOf v w) = [nodeID] := if_neg named
  refine wp_unpublishing (Q := fun ok t => ok = true →
    hostsOf p v t = leftover p v w (c.revoked (ledgerOf v w) nodeID).addrs) parsed known ?_ (by simp)
      ?_ ?_ ?_
  · intro ok t u same ended success
    have hosts : hostsOf p v u = hostsOf p v t :=
      congrArg Fence.State.hosts (view_congr (by rw [same]))
    exact hosts.trans (ended success)
  · intro gone _
    simp [hostsOf, leftover, mountpoint, gone]
  · intro nobody
    rw [single] at nobody
    cases nobody
  · intro b t found same
    rw [single]
    have here : t.appliance v.backend = w.appliance v.backend := by rw [same]
    refine wp_seq (P := fun r u => r.isOk = true →
      hostsOf p v u = leftover p v w (c.revoked (ledgerOf v w) nodeID).addrs) ?_ (fun _ _ _ wrong => by cases wrong) ?_
    · refine wp_withStatus_seq (wp_unpublish_stripped shared rfl _) (fun _ _ _ wrong => by cases wrong) ?_
      rintro _ u (⟨⟨e, wrong⟩, -⟩ | stripped)
      · cases wrong
      · exact fun _ => stripped.hosts.trans (leftover_congr here _)
    · intro rest u stripped
      refine wp_mapError.mpr (wp_mono (wp_saveGrants_hosts (p := p) rfl) ?_)
      intro r z kept _
      exact kept.trans (stripped rfl)

theorem leftover_union_nil (addrs : List String) :
    leftover p v w (union [] addrs) = leftover p v w addrs := by
  have compared : ∀ e, letsIn p (trimSpace e) = true →
      (e ∈ (union [] addrs).map trimSpace ↔ e ∈ addrs.map trimSpace) := by
    intro e client
    simp only [union, List.nil_append, List.mem_map, mem_sortedSet, List.mem_filter]
    constructor
    · rintro ⟨a, ⟨member, -⟩, same⟩
      exact ⟨a, member, same⟩
    · rintro ⟨a, member, same⟩
      refine ⟨a, ⟨member, ?_⟩, same⟩
      -- A blank address would be an entry that lets nobody in.
      refine decide_eq_true fun blank => ?_
      subst blank
      have empty : trimSpace (trimSpace "") = "" := by decide
      rw [← same, empty] at client
      simp [letsIn] at client
  unfold leftover
  cases mountpoint v w with
  | none => rfl
  | some mp =>
    ext a
    refine and_congr_left fun client => ?_
    simp only [List.mem_map, List.mem_filter, decide_eq_true_eq]
    refine exists_congr fun e => and_congr_left fun trimmed => and_congr_right fun _ => ?_
    rw [← trimmed] at client
    exact not_congr (by simpa only [List.mem_map] using compared e client)

/-- For a fence and an unpublish of one node that both succeed from the same state: the fence leaves the
node no more access than the unpublish, and off the ledger, exactly if the node was not listed before. -/
theorem fence_revokes_as_unpublish_iff {handle : String} (parsed : Volume.parseID handle = .ok v)
    (known : Protocol.factoryFor v.protocol = some p) (named : nodeID ≠ "")
    {faults faults' : List Fault}
    (fenced : M.run ((fencerOf c).fence v nodeID) faults w = (.ok (), t))
    (unpublished : M.run (c.controllerUnpublishVolume ⟨handle, nodeID⟩) faults' w = (.ok (), u)) :
    (NoMoreAccess c p v nodeID w t u ∧ nodeID ∉ (ledgerOf v t).nodes) ↔
      nodeID ∉ (ledgerOf v w).nodes := by
  have fencing : M.wp ((fencerOf c).fence v nodeID) _ w := wp_fence known
  have ended := wp_iff_run.mp fencing faults
  rw [show Prog.run World.handle _ faults w = _ from fenced] at ended
  obtain ⟨ledger, live, resolved, cut⟩ := ended rfl
  -- With an unlisted node both revocations take the same addresses off the share.
  have share : Shared p → nodeID ∉ (ledgerOf v w).nodes →
      hostsOf p v u = leftover p v w live.addrs := by
    intro shared unlisted
    have unpublishing : M.wp (c.controllerUnpublishVolume ⟨handle, nodeID⟩) _ w :=
      wp_unpublish_one parsed known shared named
    have done := wp_iff_run.mp unpublishing faults'
    rw [show Prog.run World.handle _ faults' w = _ from unpublished] at done
    have none : (ledgerOf v w).getD nodeID [] = [] := by
      cases entry : (ledgerOf v w).get? nodeID with
      | none => simp [Dict.getD, entry]
      | some addrs => exact absurd (Grants.mem_nodes.mpr ⟨addrs, entry⟩) unlisted
    have addrs : (c.revoked (ledgerOf v w) nodeID).addrs = union [] live.addrs := by
      simp only [Csi.Controller.revoked, resolved, none]
    rw [done rfl, addrs, leftover_union_nil]
  rw [ledger]
  constructor
  · exact And.right
  · intro unlisted
    refine ⟨?_, unlisted⟩
    cases p with
    | nfs =>
      rintro a ⟨left, -⟩
      rw [share (.inl rfl) unlisted]
      exact Eq.mp (congrArg (a ∈ ·) cut) left
    | smb =>
      rintro a ⟨left, -⟩
      rw [share (.inr rfl) unlisted]
      exact Eq.mp (congrArg (a ∈ ·) cut) left
    | iscsi => exact fun mapped => absurd mapped cut
    | nvme => exact fun served => absurd served cut

end

variable (c : Csi.Controller) (w : World)

def fenceFirst : Except Err Unit × World :=
  M.run ((fencerOf c).fence nfsVolume.id "worker-1") [] w

def unpublishFirst : Except Err Unit × World :=
  M.run (c.controllerUnpublishVolume ⟨nfsVolume.handle, "worker-1"⟩) [] w

/-- A share published to worker-2. A publish to worker-1 has written its address there as well, and
the write of the ledger was refused. -/
def halfPublished : World :=
  ((unrecordedPublish .multiNodeMultiWriter).perform nfsVolume
    ((publishing "worker-2" .multiNodeMultiWriter).perform nfsVolume nfsWorld).2).2

theorem halfPublished_runs :
    ((fenceFirst sampleController halfPublished).1 = .ok () ∧
      (unpublishFirst sampleController halfPublished).1 = .ok ()) ∧
    (ledgerOf nfsVolume.id halfPublished).nodes = ["worker-2"] ∧
    "10.0.0.1" ∈ hostsOf .nfs nfsVolume.id halfPublished ∧
    "10.0.0.1" ∉ hostsOf .nfs nfsVolume.id (fenceFirst sampleController halfPublished).2 ∧
    "10.0.0.2" ∈ hostsOf .nfs nfsVolume.id (fenceFirst sampleController halfPublished).2 := by
  decide +kernel

/-- The unlisted worker-1 is fenced as it would be unpublished: its address leaves the share, and
the address of worker-2 stays. -/
theorem fence_revokes_unlisted :
    NoMoreAccess sampleController .nfs nfsVolume.id "worker-1" halfPublished
      (fenceFirst sampleController halfPublished).2 (unpublishFirst sampleController halfPublished).2 ∧
    "10.0.0.1" ∈ hostsOf .nfs nfsVolume.id halfPublished ∧
    "10.0.0.1" ∉ hostsOf .nfs nfsVolume.id (fenceFirst sampleController halfPublished).2 ∧
    "10.0.0.2" ∈ hostsOf .nfs nfsVolume.id (fenceFirst sampleController halfPublished).2 := by
  obtain ⟨⟨fencing, unpublishing⟩, nodes, before, after, other⟩ := halfPublished_runs
  have fenced : fenceFirst sampleController halfPublished =
      (.ok (), (fenceFirst sampleController halfPublished).2) := Prod.ext fencing rfl
  have unpublished : unpublishFirst sampleController halfPublished =
      (.ok (), (unpublishFirst sampleController halfPublished).2) := Prod.ext unpublishing rfl
  refine ⟨((fence_revokes_as_unpublish_iff nfsVolume.parsed nfsVolume.known (by decide) fenced
    unpublished).mpr ?_).1, before, after, other⟩
  rw [nodes]
  decide

/-- A fence leaves an old address on the share. -/
theorem fence_leaves_moved_node : (fenceFirst movedController publishedNfs).1 = .ok () ∧
    (unpublishFirst movedController publishedNfs).1 = .ok () ∧
    ¬NoMoreAccess movedController .nfs nfsVolume.id "worker-1" publishedNfs
      (fenceFirst movedController publishedNfs).2 (unpublishFirst movedController publishedNfs).2 ∧
    "worker-1" ∈ (ledgerOf nfsVolume.id (fenceFirst movedController publishedNfs).2).nodes := by
  have facts : (fenceFirst movedController publishedNfs).1 = .ok () ∧
      (unpublishFirst movedController publishedNfs).1 = .ok () ∧
      "worker-1" ∈ (ledgerOf nfsVolume.id (fenceFirst movedController publishedNfs).2).nodes ∧
      "10.0.0.1" ∈ hostsOf .nfs nfsVolume.id (fenceFirst movedController publishedNfs).2 ∧
      "10.0.0.1" ∉ hostsOf .nfs nfsVolume.id (unpublishFirst movedController publishedNfs).2 ∧
      "10.0.0.1" ∈ (ledgerOf nfsVolume.id publishedNfs).getD "worker-1" [] := by decide +kernel
  obtain ⟨fenced, unpublished, listed, left, gone, recorded⟩ := facts
  refine ⟨fenced, unpublished, fun noMore => gone (noMore ⟨left, .inl ⟨?_, by decide⟩⟩), listed⟩
  exact List.mem_map.mpr ⟨"10.0.0.1", recorded, by decide⟩

end TruenasCsi.PodFencing
