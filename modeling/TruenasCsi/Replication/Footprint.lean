import TruenasCsi.Replication.Controller
import TruenasCsi.Replication.Specs

/-! The calls of each operation of the engine. -/

namespace TruenasCsi.Replication

open Prog
open Volume (ID)

section

variable {P : Call → Prop} {backend : String}

theorem emits_createSnapshot (all : ∀ op, P (.api backend op)) (dataset name : String) :
    (createSnapshot (caller backend) dataset name).Emits Any P :=
  emits_bind (emits_caller (all _)) fun _ => trivial

theorem emits_updateDataset (all : ∀ op, P (.api backend op)) (id : String)
    (patch : Appliance.DatasetPatch) : (updateDataset (caller backend) id patch).Emits Any P :=
  emits_bind (emits_caller (all _)) fun _ => trivial

theorem emits_deleteIfOwned {id : String} (asks : P (.api backend (.dataset (.query id))))
    (deletes : P (.api backend (.dataset (.delete id true true)))) :
    (deleteIfOwned (caller backend) id).Emits Any P := by
  refine emits_option (emits_queryDataset asks) trivial fun ds => ?_
  exact emits_bind emits_ofExcept fun _ => emits_ignoreAbsent (emits_caller deletes)

end

namespace Manager

variable {P : Call → Prop} {m : Manager} {g : Group} {α : Type}

theorem emits_client_seq {backend : String} {f : Caller → R α} (dials : ∀ b, P (.client b))
    (rest : (f (caller backend)).Emits Any P) : (m.client backend >>= f).Emits Any P := by
  unfold client
  simp only [bind_assoc]
  refine emits_bind emits_ofExcept fun _ => emits_bind ?_ fun _ => rest
  exact emits_mapError.mpr (emits_issue.mpr (dials backend))

theorem emits_clients (dials : ∀ b, P (.client b)) : (m.clients g).Emits Any P :=
  emits_bind (emits_client (dials _)) fun _ => emits_bind (emits_client (dials _)) fun _ => trivial

theorem emits_clients_seq {f : Caller × Caller → R α} (dials : ∀ b, P (.client b))
    (rest : (f (caller g.sourceBackend, caller g.targetBackend)).Emits Any P) :
    (m.clients g >>= f).Emits Any P := by
  unfold clients
  simp only [bind_assoc]
  exact emits_client_seq dials (emits_client_seq dials rest)

theorem emits_roots : (m.roots g).Emits Any P :=
  emits_bind emits_ofExcept fun _ => emits_bind emits_ofExcept fun _ => trivial

section

variable {backend : String} (all : ∀ op, P (.api backend op)) {force : Bool} {root : String}

include all

variable (id : ID) (volumes : List ID) (st : State)

theorem emits_ensureMember : (ensureMember (caller backend) g id).Emits Any P := by
  refine emits_bind ?_ fun _ => emits_bind ?_ fun _ => trivial
  · refine emits_bind (emits_querySnapshotTask (all _)) fun found => ?_
    cases found with
    | some task => trivial
    | none => exact emits_mapError.mpr (emits_caller (all _))
  · refine emits_bind (emits_snapshotsOf (all _)) fun snaps => ?_
    exact emits_if (fun _ => trivial) fun _ => emits_createSnapshot all _ _

theorem emits_ensureMembers : (ensureMembers (caller backend) g volumes).Emits Any P := by
  induction volumes with
  | nil => trivial
  | cons id rest ih =>
    exact emits_bind (emits_ensureMember all id) fun _ => emits_bind ih fun _ => trivial

theorem emits_ensureReplication (dstRoot : String) (taskIDs : List Nat) :
    (ensureReplication (caller backend) g dstRoot taskIDs).Emits Any P := by
  refine emits_bind (emits_queryReplicationByName (all _)) fun found => ?_
  cases found with
  | some task => trivial
  | none =>
    refine emits_bind (emits_caller (all _)) fun task => emits_bind ?_ fun _ => trivial
    exact emits_mapError.mpr (emits_caller (all _))

theorem emits_promoteMember : (promoteMember (caller backend) g root force id st).Emits Any P := by
  refine emits_bind (emits_mapError.mpr (emits_verifyOwned (all _))) fun ds => ?_
  refine emits_bind (emits_latestSnapshot (all _)) fun latest => ?_
  refine emits_bind emits_ofExcept fun _ => ?_
  refine emits_bind (emits_mapError.mpr (emits_updateDataset all _ _)) fun _ => ?_
  refine emits_bind ?_ fun _ => trivial
  exact emits_if (fun _ => trivial) fun _ => emits_mapError.mpr (emits_caller (all _))

theorem emits_promoteMembers :
    (promoteMembers (caller backend) g root force volumes st).Emits Any P := by
  induction volumes generalizing st with
  | nil => trivial
  | cons id rest ih => exact emits_bind (emits_promoteMember all id st) fun st' => ih st'

end

theorem emits_verifyMembership (asks : ∀ id, P (.api g.sourceBackend (.dataset (.query id))))
    (dials : ∀ b, P (.client b)) :
    (m.verifyMembership g).Emits Any P := by
  refine emits_bind emits_ofExcept fun _ => emits_bind emits_ofExcept
    fun cfg => ?_
  exact emits_client_seq dials (emits_verifyMembers asks)

theorem emits_status (all : ∀ op, P (.api g.sourceBackend op)) (dials : ∀ b, P (.client b))
    (loads : P (.load g.name)) (reads : P .read) : (m.status g).Emits Any P := by
  refine emits_bind (Store.emits_load loads reads) fun st => emits_client_seq dials ?_
  refine emits_bind (emits_queryReplicationByName (all _)) fun found => ?_
  cases found <;> trivial

/-! The stages of a deletion. -/

variable {backend : String}

theorem emits_verifyTargets {root : String} (asks : ∀ id, P (.api backend (.dataset (.query id))))
    (volumes : List ID) : (verifyTargets (caller backend) g root volumes).Emits Any P := by
  induction volumes with
  | nil => trivial
  | cons id rest ih =>
    refine emits_bind ?_ fun _ => ih
    exact emits_option (emits_queryDataset (asks _)) trivial fun ds => emits_mapError.mpr emits_ofExcept

theorem emits_removeReplication (asks : ∀ name, P (.api backend (.replicationQuery name)))
    (deletes : ∀ id, P (.api backend (.replicationDelete id))) :
    (removeReplication (caller backend) g).Emits Any P := by
  refine emits_option (emits_queryReplicationByName (asks _)) trivial fun task => ?_
  exact emits_ignoreAbsent (emits_caller (deletes _))

theorem emits_deleteSnapshotTasks (asks : ∀ dataset, P (.api backend (.snapshotTaskQuery dataset)))
    (deletes : ∀ id, P (.api backend (.snapshotTaskDelete id))) (volumes : List ID) :
    (deleteSnapshotTasks (caller backend) g volumes).Emits Any P := by
  induction volumes with
  | nil => trivial
  | cons id rest ih =>
    refine emits_bind ?_ fun _ => ih
    refine emits_option (emits_querySnapshotTask (asks _)) trivial fun task => ?_
    exact emits_ignoreAbsent (emits_caller (deletes _))

theorem emits_deleteTargets {root : String} (asks : ∀ id, P (.api backend (.dataset (.query id))))
    (deletes : ∀ id, P (.api backend (.dataset (.delete id true true)))) (volumes : List ID) :
    (deleteTargets (caller backend) root volumes).Emits Any P := by
  induction volumes with
  | nil => trivial
  | cons id rest ih =>
    exact emits_bind (emits_deleteIfOwned (asks _) (deletes _)) fun _ => ih

theorem emits_delete (opts : DeleteOptions) (onSource : ∀ op, P (.api g.sourceBackend op))
    (asks : ∀ id, P (.api g.targetBackend (.dataset (.query id))))
    (deletes : ∀ id, P (.api g.targetBackend (.dataset (.delete id true true))))
    (dials : ∀ b, P (.client b)) (loads : P (.load g.name)) (saves : ∀ st, P (.save g.name st))
    (reads : P .read) (writes : ∀ spg, P (.write spg)) : (m.delete g opts).Emits Any P := by
  refine emits_clients_seq dials (emits_bind emits_roots fun roots => ?_)
  refine emits_bind (Store.emits_load loads reads) fun st => ?_
  refine emits_bind emits_ofExcept fun _ => ?_
  refine emits_bind (emits_verifyTargets asks _) fun _ => ?_
  refine emits_bind (emits_removeReplication (fun _ => onSource _) fun _ => onSource _) fun _ => ?_
  refine emits_bind (emits_deleteSnapshotTasks (fun _ => onSource _) (fun _ => onSource _) _) fun _ => ?_
  refine emits_bind (emits_deleteTargets asks deletes _) fun _ => ?_
  exact Store.emits_save (saves _) reads writes

end Manager

namespace Reconciler

variable {P : Call → Prop} {g : Group}

section

variable (reads : P .read) (writes : ∀ spg, P (.write spg)) (updates : ∀ spg, P (.updateStatus spg))

include reads writes updates

theorem emits_statusUpdate (f : StorageProtectionGroup → StorageProtectionGroup) :
    (statusUpdate f).Emits Any P :=
  emits_bind (emits_issue.mpr reads) fun _ =>
    emits_bind (emits_issue.mpr (writes _)) fun _ => emits_issue.mpr (updates _)

theorem emits_refuse (e : Err) : (refuse e).Emits Any P :=
  emits_bind (emits_statusUpdate reads writes updates _) fun _ => trivial

theorem emits_retryable (e : Err) : (retryable e).Emits Any P :=
  emits_bind (emits_statusUpdate reads writes updates _) fun _ => trivial

end

theorem emits_finalize (appliances : Backend.Registry) (onSource : ∀ op, P (.api g.sourceBackend op))
    (asks : ∀ id, P (.api g.targetBackend (.dataset (.query id))))
    (deletes : ∀ id, P (.api g.targetBackend (.dataset (.delete id true true))))
    (own : ∀ c, (∀ backend op, c ≠ .api backend op) → P c) : (finalize appliances g).Emits Any P := by
  have reads := own .read (by simp)
  have writes := fun spg => own (.write spg) (by simp)
  have updates := fun spg => own (.updateStatus spg) (by simp)
  refine emits_bind (emits_issue.mpr reads) fun spg => ?_
  refine emits_if (fun _ => trivial) fun _ => ?_
  refine emits_bind (emits_attempt.mpr (Manager.emits_delete _ onSource asks deletes
    (fun b => own _ (by simp)) (own _ (by simp)) (fun st => own _ (by simp)) reads writes)) fun r => ?_
  cases r with
  | error e =>
    refine emits_if (fun _ => ?_) fun _ => ?_
    · exact emits_refuse reads writes updates e
    · exact emits_retryable reads writes updates e
  | ok _ =>
    refine emits_bind (emits_issue.mpr reads) fun _ => ?_
    refine emits_bind (emits_issue.mpr (writes _)) fun _ => ?_
    exact emits_bind (emits_issue.mpr (own _ (by simp))) fun _ => trivial

end Reconciler

end TruenasCsi.Replication
