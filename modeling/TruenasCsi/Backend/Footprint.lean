import TruenasCsi.Backend.Registry

/-! Of the four protocols only iSCSI writes to a dataset while it publishes. -/

namespace TruenasCsi.Backend

open Appliance Truenas Prog
open Volume (ID)

variable {F : String → DatasetOp → Prop} {c : Client}

theorem within_undoing {α : Type} {undo : M Unit} {p : M α} (first : M.Within F p)
    (after : M.Within F undo) : M.Within F (Zvol.undoing undo p) :=
  emits_rescue first fun _ => emits_bind after fun _ => trivial

theorem within_bestEffort {p : M Unit} (within : M.Within F p) : M.Within F (Zvol.bestEffort p) :=
  emits_bind (emits_attempt.mpr within) fun _ => trivial

theorem within_asInternal {α : Type} {context : String} {p : M α} (within : M.Within F p) :
    M.Within F (asInternal context p) :=
  emits_mapError.mpr within

theorem within_confine (b : Server) (v : ID) : M.Within F (b.confine v) :=
  emits_mapError.mpr emits_ofExcept

theorem within_queryDataset (b : Server) (v : ID) : M.Within F (Filesystem.queryDataset b v) :=
  within_asInternal within_datasetQuery

namespace Nfs

theorem within_shareByPath (path : String) : M.Within F (shareByPath c path) :=
  emits_first within_nfs

variable (b : Server) (cache : Cache) (v : ID) (node : NodeRef)

theorem within_grant (mountpoint : String) (granted : List String) :
    M.Within F (grant b cache v node mountpoint granted) :=
  emits_option (within_asInternal (within_shareByPath _))
    (emits_bind (within_asInternal within_nfs) fun _ => trivial) fun _ =>
    emits_if (fun _ => within_asInternal within_nfs) fun _ => trivial

theorem within_publishContext : M.Within F (publishContext b cache v) :=
  emits_bind (within_confine b v) fun _ => emits_option (within_queryDataset b v) trivial fun _ =>
    emits_if (fun _ => trivial) fun _ => trivial

theorem within_publish : M.Within F (publish b cache v node) := by
  refine emits_bind (within_confine b v) fun _ =>
    emits_option (within_queryDataset b v) trivial fun ds => ?_
  exact emits_bind emits_ofExcept fun granted => emits_if (fun _ => trivial) fun _ =>
    emits_bind (within_grant _ _ _ _ _ _) fun _ => within_publishContext _ _ _

theorem within_unpublish : M.Within F (unpublish b v node) := by
  refine emits_bind (within_confine b v) fun _ =>
    emits_option (within_queryDataset b v) trivial fun ds => ?_
  exact emits_option (within_asInternal (within_shareByPath _)) trivial fun _ =>
    within_asInternal within_nfs

end Nfs

namespace Smb

theorem within_queryShare (mountpoint : String) : M.Within F (queryShare c mountpoint) :=
  within_asInternal (emits_first within_smb)

variable (b : Server) (cache : Cache) (v : ID) (node : NodeRef)

theorem within_grant (mountpoint : String) : M.Within F (grant b cache v node mountpoint) :=
  emits_option (within_queryShare _) (emits_bind (within_asInternal within_smb) fun _ => trivial)
    fun _ => emits_if (fun _ => within_asInternal within_smb) fun _ => trivial

theorem within_publishContext : M.Within F (publishContext b cache v) := by
  refine emits_bind (within_confine b v) fun _ =>
    emits_option (within_queryDataset b v) trivial fun ds => ?_
  exact emits_bind (emits_attempt.mpr (emits_first within_smb)) fun share =>
    emits_if (fun _ => trivial) fun _ => trivial

theorem within_publish : M.Within F (publish b cache v node) := by
  refine emits_bind (within_confine b v) fun _ =>
    emits_option (within_queryDataset b v) trivial fun ds => ?_
  exact emits_if (fun _ => trivial) fun _ =>
    emits_bind (within_grant _ _ _ _ _) fun _ => within_publishContext _ _ _

theorem within_unpublish : M.Within F (unpublish b v node) := by
  refine emits_bind (within_confine b v) fun _ =>
    emits_option (within_queryDataset b v) trivial fun ds => ?_
  exact emits_option (within_queryShare _) trivial fun _ => within_asInternal within_smb

end Smb

namespace Iscsi

theorem within_ask (op : IscsiOp) : M.Within F (iscsi c op) :=
  emits_issue.mpr trivial

section

variable {P : Call → Prop}
  (asks : ∀ op : IscsiOp, op.peripheral = true → P (.api c.name (.iscsi op)))

include asks

theorem emits_ask {op : IscsiOp} (peripheral : op.peripheral = true) :
    (iscsi c op).Emits Truthful P :=
  emits_issue.mpr (asks op peripheral)

variable (name : String)

theorem emits_queryTarget : (queryTarget c name).Emits Truthful P :=
  emits_mapError.mpr (emits_first (emits_ask asks rfl))

theorem emits_queryExtent : (queryExtent c name).Emits Truthful P :=
  emits_mapError.mpr (emits_first (emits_ask asks rfl))

theorem emits_targetIQN : (targetIQN c name).Emits Truthful P :=
  emits_bind (emits_mapError.mpr (emits_ask asks rfl)) fun _ => trivial

theorem emits_listPortals : (listPortals c).Emits Truthful P :=
  emits_mapError.mpr (emits_ask asks rfl)

theorem emits_findPortal : (findPortal c).Emits Truthful P :=
  emits_bind (emits_listPortals asks) fun _ => trivial

theorem emits_ensurePortal (p : Params) : (ensurePortal c p).Emits Truthful P := by
  refine emits_if (fun _ => trivial) fun _ => emits_bind (emits_findPortal asks) fun found => ?_
  refine emits_if (fun _ => trivial) fun _ =>
    emits_tried (emits_ask asks rfl) (fun _ => trivial) fun e => ?_
  exact emits_tried (emits_findPortal asks) (fun _ => emits_if (fun _ => trivial) fun _ => trivial)
    fun _ => trivial

theorem emits_portalAddress (portalID : Nat) : (portalAddress c portalID).Emits Truthful P := by
  refine emits_bind (emits_listPortals asks) fun portals =>
    emits_bind (emits_mapError.mpr (emits_ask asks rfl)) fun g => ?_
  cases addressIn c portalID (if g.port = 0 then 3260 else g.port) portals <;> trivial

theorem emits_findAuth (user : String) : (findAuth c user).Emits Truthful P :=
  emits_option (emits_mapError.mpr (emits_first (emits_ask asks rfl))) trivial fun _ =>
    emits_if (fun _ => trivial) fun _ => trivial

theorem emits_nextAuthTag : (nextAuthTag c).Emits Truthful P :=
  emits_bind (emits_mapError.mpr (emits_rows (emits_ask asks rfl))) fun _ => trivial

theorem emits_ensureCHAP (env : Env) (target : String) :
    (ensureCHAP c env target).Emits Truthful P := by
  refine emits_option (emits_findAuth asks target) ?_ fun _ => trivial
  refine emits_bind (emits_nextAuthTag asks) fun tag =>
    emits_tried (emits_ask asks rfl) (fun _ => trivial) fun e => ?_
  exact emits_tried (emits_findAuth asks target) (fun found => by cases found <;> trivial)
    fun _ => trivial

end

theorem emits_contextFor {b : Server} {P : Call → Prop}
    (asks : ∀ op : IscsiOp, op.peripheral = true → P (.api b.client.name (.iscsi op)))
    (p : Params) (iqn naa : String) (lun : Option Nat) :
    (contextFor b p iqn naa lun).Emits Truthful P := by
  refine emits_bind (emits_ensurePortal asks p) fun portalID =>
    emits_bind (emits_portalAddress asks portalID) fun addr => ?_
  exact emits_if (fun _ => emits_bind (emits_ensureCHAP asks _ _) fun _ => trivial) fun _ => trivial

variable (name : String) (b : Server)

theorem within_queryTarget : M.Within F (queryTarget c name) :=
  emits_queryTarget (fun _ _ => trivial) name

theorem within_queryExtent : M.Within F (queryExtent c name) :=
  emits_queryExtent (fun _ _ => trivial) name

theorem within_targetExtentList (target : Nat) : M.Within F (targetExtentList c target) :=
  emits_rows (within_ask _)

theorem within_targetIQN : M.Within F (targetIQN c name) :=
  emits_targetIQN (fun _ _ => trivial) name

theorem within_contextFor (p : Params) (iqn naa : String) (lun : Option Nat) :
    M.Within F (contextFor b p iqn naa lun) :=
  emits_contextFor (fun _ _ => trivial) p iqn naa lun

theorem within_publishContext (v : ID) : M.Within F (publishContext b v) := by
  refine emits_option (within_queryTarget _) trivial fun target =>
    emits_bind (within_targetIQN _) fun iqn =>
      emits_option (within_queryExtent _) trivial fun extent => ?_
  refine emits_bind (emits_mapError.mpr (within_targetExtentList _)) fun mappings => ?_
  split
  · trivial
  · exact within_contextFor b _ _ _ _

section

variable {P : Call → Prop} {target : Nat} (own : ∀ op, P (.process op))
  (list : P (.api c.name (.iscsi (.targetExtentQuery target))))

include own list

theorem emits_allocateLUN : (allocateLUN c target).Emits Truthful P := by
  have locks : ∀ op, (process op).Emits Truthful P := fun op => emits_issue.mpr (own op)
  refine emits_bind (locks _) fun _ => emits_bind (emits_attempt.mpr ?_) fun r =>
    emits_bind (locks _) fun _ => emits_ofExcept
  refine emits_bind (emits_mapError.mpr (emits_rows (emits_issue.mpr list))) fun mappings =>
    emits_bind (locks _) fun reserved => ?_
  split
  · exact emits_bind (locks _) fun _ => trivial
  · trivial

theorem emits_claimLUN (ds : Dataset) (used : List Nat) :
    (claimLUN c ds target used).Emits Truthful P := by
  unfold claimLUN
  cases recordedLUN ds with
  | none => exact emits_allocateLUN own list
  | some n =>
    dsimp only
    split_ifs
    · exact emits_allocateLUN own list
    · trivial

theorem emits_mapExtent {ds : Dataset} {extent : Nat}
    (create : ∀ lun, P (.api c.name (.iscsi (.targetExtentCreate target extent lun))))
    (record : ∀ lun, P (.api c.name (.dataset (.update ds.id
      { userPropertiesUpdate := [(Volume.lunProperty, lun)] })))) :
    (mapExtent c ds target extent).Emits Truthful P := by
  have remembered : ∀ lun, (rememberLUN c ds.id lun).Emits Truthful P := fun lun =>
    emits_bind (emits_attempt.mpr (emits_bind (emits_issue.mpr (record _)) fun _ => trivial))
      fun _ => trivial
  refine emits_bind (emits_mapError.mpr (emits_rows (emits_issue.mpr list))) fun mappings => ?_
  split
  · exact emits_bind (remembered _) fun _ => trivial
  · refine emits_bind (emits_claimLUN own list ds _) fun lun =>
      emits_tried (emits_issue.mpr (create lun)) (fun _ => ?_) fun _ => ?_
    · exact emits_bind (remembered _) fun _ => trivial
    · exact emits_bind (emits_issue.mpr (own _)) fun _ => trivial

end

theorem within_mapExtent {ds : Dataset} (records : ∀ lun, F c.name (.update ds.id
      { userPropertiesUpdate := [(Volume.lunProperty, lun)] })) (target extent : Nat) :
    M.Within F (mapExtent c ds target extent) :=
  emits_mapExtent (fun _ => trivial) trivial (fun _ => trivial) fun lun => Or.inr (records lun)

theorem within_publish {b : Server} {v : ID} (records : ∀ lun, F b.client.name
      (.update v.datasetPath { userPropertiesUpdate := [(Volume.lunProperty, lun)] }))
    (node : NodeRef) : M.Within F (publish b v node) := by
  refine Prog.EmitsTo.seq (emitsTo_datasetQuery_mapError _ _ _) fun ds known => ?_
  cases ds with
  | none => trivial
  | some ds =>
    have here : ds.id = v.datasetPath := known ds rfl
    refine emits_option (within_queryExtent _) trivial fun extent => emits_if (fun _ => ?_) fun _ => trivial
    refine emits_option (within_queryTarget _) trivial fun target =>
      emits_bind (within_targetIQN _) fun iqn => ?_
    exact emits_bind (within_mapExtent (by rw [here]; exact records) _ _) fun lun =>
      within_contextFor b _ _ _ _

theorem within_unmap (target extent : Nat) (rows : List TargetExtent) :
    M.Within F (unmap c target extent rows) := by
  induction rows with
  | nil => trivial
  | cons m rest ih =>
    rw [unmap]
    split_ifs
    · exact emits_bind (emits_mapError.mpr (emits_gone (within_ask _))) fun _ =>
        emits_bind within_process fun _ => ih
    · exact ih

theorem within_unmapExtent (b : Server) (extent : Extent) : M.Within F (unmapExtent b extent) :=
  emits_option (within_queryTarget _) trivial fun _ =>
    emits_bind (emits_mapError.mpr (within_targetExtentList _)) fun _ => within_unmap _ _ _

theorem within_unpublish (b : Server) (v : ID) (node : NodeRef) : M.Within F (unpublish b v node) :=
  emits_option (within_queryExtent _) trivial fun extent => within_unmapExtent b extent

end Iscsi

namespace Nvme

theorem within_ask (op : NvmetOp) : M.Within F (nvmet c op) :=
  emits_issue.mpr trivial

variable (name : String) (subsys : Nat) (b : Server) (nqn : String) (v : ID) (node : NodeRef)

theorem within_querySubsystem : M.Within F (querySubsystem c name) :=
  emits_mapError.mpr (emits_first (within_ask _))

theorem within_namespaceByDevice (dev : String) : M.Within F (namespaceByDevice c dev) :=
  emits_first (within_ask _)

theorem within_listPorts : M.Within F (listPorts c) :=
  emits_mapError.mpr (emits_rows (within_ask _))

theorem within_portSubsysList : M.Within F (portSubsysList c subsys) :=
  emits_rows (within_ask _)

theorem within_hostSubsysList : M.Within F (hostSubsysList c subsys) :=
  emits_rows (within_ask _)

theorem within_hostByNQN : M.Within F (hostByNQN c nqn) :=
  emits_first (within_ask _)

theorem within_publishContext : M.Within F (publishContext b v) := by
  refine emits_option (within_querySubsystem _) trivial fun subsys =>
    emits_bind (emits_mapError.mpr (within_portSubsysList _)) fun bindings =>
      emits_if (fun _ => trivial) fun _ => emits_bind within_listPorts fun ports => ?_
  split
  · trivial
  · exact emits_bind emits_ofExcept fun _ => trivial

theorem within_portFor (ds : Dataset) : M.Within F (portFor c ds) := by
  refine emits_bind within_listPorts fun ports => ?_
  dsimp only
  split <;> trivial

theorem emits_bindPort {P : Call → Prop} {port subsys : Nat}
    (list : P (.api c.name (.nvmet (.portSubsysQuery subsys))))
    (create : P (.api c.name (.nvmet (.portSubsysCreate port subsys)))) :
    (bindPort c port subsys).Emits Truthful P := by
  have listed : (portSubsysList c subsys).Emits Truthful P := emits_rows (emits_issue.mpr list)
  refine emits_bind (emits_mapError.mpr listed) fun bindings => ?_
  split_ifs
  · trivial
  · exact emits_tried (emits_issue.mpr create) (fun _ => trivial) fun e =>
      emits_tried listed (fun _ => emits_if (fun _ => trivial) fun _ => trivial) fun _ => trivial

theorem within_bindPort (port subsys : Nat) : M.Within F (bindPort c port subsys) :=
  emits_bindPort trivial trivial

theorem within_ensureHost : M.Within F (ensureHost c nqn) := by
  refine emits_option (emits_mapError.mpr (within_hostByNQN _)) ?_ fun _ => trivial
  refine emits_tried (within_ask _) (fun _ => trivial) fun e => ?_
  exact emits_tried (within_hostByNQN _) (fun found => by cases found <;> trivial) fun _ => trivial

theorem within_admitNode (host : NvmeHost) : M.Within F (admitNode c subsys nqn host) := by
  refine emits_bind (emits_mapError.mpr (within_hostSubsysList _)) fun granted =>
    emits_if (fun _ => trivial) fun _ => emits_tried (within_ask _) (fun _ => trivial) fun e => ?_
  exact emits_tried (within_hostSubsysList _) (fun _ => emits_if (fun _ => trivial) fun _ => trivial)
    fun _ => trivial

theorem within_grantHost (subsys : Subsystem) (node : NodeRef) :
    M.Within F (grantHost c subsys node) :=
  emits_if (fun _ => trivial) fun _ => emits_bind (within_ensureHost _) fun _ =>
    emits_bind (within_admitNode _ _ _) fun _ =>
      emits_if (fun _ => emits_mapError.mpr (within_ask _)) fun _ => trivial

theorem within_publish : M.Within F (publish b v node) := by
  refine emits_option (emits_mapError.mpr within_datasetQuery) trivial fun ds =>
    emits_option (within_querySubsystem _) trivial fun subsys => ?_
  refine emits_bind (emits_mapError.mpr (within_namespaceByDevice _)) fun ns =>
    emits_if (fun _ => ?_) fun _ => trivial
  exact emits_bind (within_portFor ds) fun port => emits_bind (within_bindPort _ _) fun _ =>
    emits_bind (within_grantHost _ _) fun _ => emits_bind emits_ofExcept fun _ => trivial

theorem within_deleteAll {delete : Nat → M Unit} (each : ∀ id, M.Within F (delete id))
    (context : String) (rows : List Nat) : M.Within F (deleteAll delete context rows) := by
  induction rows with
  | nil => trivial
  | cons id rest ih => exact emits_bind (emits_mapError.mpr (each id)) fun _ => ih

theorem within_unbind : M.Within F (unbind c name subsys) :=
  emits_bind (emits_mapError.mpr (within_portSubsysList _)) fun _ =>
    within_deleteAll (fun _ => emits_gone (within_ask _)) _ _

theorem within_revokeHost : M.Within F (revokeHost c name subsys node) := by
  refine emits_if (fun _ => trivial) fun _ =>
    emits_option (emits_mapError.mpr (within_hostByNQN _)) trivial fun host => ?_
  exact emits_bind (emits_mapError.mpr (within_hostSubsysList _)) fun _ =>
    within_deleteAll (fun _ => emits_gone (within_ask _)) _ _

theorem within_unpublish : M.Within F (unpublish b v node) :=
  emits_option (within_querySubsystem _) trivial fun _ =>
    emits_bind (within_revokeHost _ _ _) fun _ => within_unbind _ _

end Nvme

end TruenasCsi.Backend
