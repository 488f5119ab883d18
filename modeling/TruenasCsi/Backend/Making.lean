import TruenasCsi.Backend.Footprint

/-! What a creation does once the dataset is there. -/

namespace TruenasCsi.Backend

open Appliance Truenas Prog

/-- A patch of properties leaves every size. -/
def Labelling (patch : DatasetPatch) : Prop :=
  patch.volSize = none ∧ patch.refQuota = none ∧ patch.quota = none

variable {c : Client} {cause : Err} {dsPath : String} {α : Type} {t : World} {Q : α → World → Prop}

theorem Filesystem.yields_rollback : M.yields (Filesystem.rollback c dsPath cause) Q t := by
  refine yields_bind yields_trivial fun r u _ => ?_
  cases r with
  | ok _ => exact yields_fail
  | error e => exact yields_fail

theorem Filesystem.yields_abandonClone : M.yields (Filesystem.abandonClone c dsPath cause) Q t := by
  refine yields_bind yields_trivial fun r u _ => ?_
  cases r with
  | ok _ => exact yields_fail
  | error e => exact yields_fail

theorem Zvol.yields_undoing {undo : M Unit} {p : M α} {w : World}
    (ends : M.yields p Q w) : M.yields (Zvol.undoing undo p) Q w :=
  yields_rescue ends fun _ _ =>
    yields_bind yields_trivial fun _ _ _ => yields_fail

section

variable {F : String → DatasetOp → Prop} {c : Client} {dsPath : String}
  (labels : ∀ patch, Labelling patch → F c.name (.update dsPath patch))

include labels

theorem within_label (key value : String) : M.Within F (c.setUserProperty dsPath key value) :=
  within_setUserProperty (labels _ ⟨rfl, rfl, rfl⟩)

theorem within_recordIdentity (id : Volume.Identity) : M.Within F (recordIdentity c dsPath id) :=
  emits_if (fun _ => trivial) fun _ => emits_bind (emits_attempt.mpr
    (within_dataset.mpr (.inr (labels _ ⟨rfl, rfl, rfl⟩)))) fun _ => trivial

theorem within_stampCloneWith (stamps : List (String × String)) :
    M.Within F (stampCloneWith c dsPath stamps) := by
  induction stamps with
  | nil => trivial
  | cons stamp rest ih => exact emits_bind (emits_mapError.mpr (within_label labels _ _)) fun _ => ih

theorem within_stampClone (protocol : String) : M.Within F (stampClone c dsPath protocol) :=
  within_stampCloneWith labels _

theorem Nfs.within_recordMountPolicy (p : Nfs.Params) :
    M.Within F (Nfs.recordMountPolicy c dsPath p) :=
  emits_bind (emits_if (fun _ => trivial) fun _ => within_asInternal (within_label labels _ _)) fun _ =>
    emits_if (fun _ => within_asInternal (within_label labels _ _)) fun _ => trivial

theorem Smb.within_recordMountOptions (p : Smb.Params) :
    M.Within F (Smb.recordMountOptions c dsPath p) :=
  emits_bind (emits_attempt.mpr (within_label labels _ _)) fun _ => trivial

theorem Nvme.within_recordPort (port : NvmePort) : M.Within F (Nvme.recordPort c dsPath port) :=
  emits_mapError.mpr (within_label labels _ _)

end

section

variable {F : String → DatasetOp → Prop} {c : Client}

theorem Nfs.within_ensureShare (mountpoint : String) (p : Nfs.Params) :
    M.Within F (Nfs.ensureShare c mountpoint p) := by
  refine emits_bind (within_asInternal (Nfs.within_shareByPath _)) fun share => ?_
  cases share with
  | some share => exact emits_if (fun _ => trivial) fun _ => trivial
  | none => exact emits_bind (within_asInternal within_nfs) fun _ => trivial

theorem Smb.within_ensureShare (mountpoint name : String) :
    M.Within F (Smb.ensureShare c mountpoint name) := by
  refine emits_bind (Smb.within_queryShare _) fun share => ?_
  cases share with
  | some share => exact emits_if (fun _ => trivial) fun _ => trivial
  | none => exact emits_bind (within_asInternal within_smb) fun _ => trivial

namespace Iscsi

variable (env : Env) (p : Params) (name : String)

theorem within_ensureExtent (dsPath : String) : M.Within F (ensureExtent c name dsPath) := by
  refine emits_bind (within_queryExtent _) fun extent => ?_
  cases extent with
  | some extent => trivial
  | none => exact emits_bind (emits_mapError.mpr (within_ask _)) fun _ => trivial

theorem within_findInitiatorGroup : M.Within F (findInitiatorGroup c) :=
  emits_mapError.mpr (emits_first (within_ask _))

theorem within_ensureInitiatorGroup : M.Within F (ensureInitiatorGroup c p) := by
  refine emits_if (fun _ => trivial) fun _ => emits_bind within_findInitiatorGroup fun group => ?_
  cases group with
  | some existing =>
    exact emits_if (fun _ => trivial) fun _ =>
      emits_bind (emits_mapError.mpr (within_ask _)) fun _ => trivial
  | none =>
    refine emits_bind (emits_attempt.mpr (within_ask _)) fun made => ?_
    cases made with
    | ok created => trivial
    | error e =>
      refine emits_bind (emits_attempt.mpr within_findInitiatorGroup) fun again => ?_
      match again with
      | .ok (some g) => trivial
      | .ok none => trivial
      | .error _ => trivial

theorem within_enableCHAP (created : Target) (portalID initiatorID : Nat)
    (auth : Auth) : M.Within F (enableCHAP c name created portalID initiatorID auth) :=
  emits_rescue (within_ask _) fun _ =>
    emits_bind (within_bestEffort (emits_gone (within_ask _))) fun _ => trivial

/-- A credential makes no other difference. -/
theorem within_makeTarget (portalID initiatorID : Nat) (auth : Option Auth) : M.Within F (do
    match ← (iscsi c (.targetCreate name portalID initiatorID)).attempt with
    | .error e =>
      match ← (targetByName c name).attempt with
      | .ok (some again) => return again.id
      | _ => throw (e.wrap ("creating target " ++ name ++ ": "))
    | .ok created =>
      match auth with
      | none => return created.id
      | some auth =>
        enableCHAP c name created portalID initiatorID auth
        return created.id) := by
  refine emits_bind (emits_attempt.mpr (within_ask _)) fun made => ?_
  cases made with
  | error e =>
    refine emits_bind (emits_attempt.mpr (emits_first (within_ask _))) fun again => ?_
    rcases again with _ | _ | _
    all_goals trivial
  | ok created =>
    cases auth with
    | none => trivial
    | some auth => exact emits_bind (within_enableCHAP _ _ _ _ _) fun _ => trivial

theorem within_createTarget : M.Within F (createTarget c env p name) := by
  refine emits_bind (emits_ensurePortal (fun _ _ => trivial) p) fun portalID =>
    emits_bind (within_ensureInitiatorGroup p) fun initiatorID => ?_
  exact emits_if (fun _ => emits_bind (emits_bind (emits_ensureCHAP (fun _ _ => trivial) env name)
    fun _ => trivial) (within_makeTarget _ _ _)) fun _ => within_makeTarget _ _ _ none

theorem within_ensureTarget : M.Within F (ensureTarget c env p) := by
  refine emits_bind within_process fun _ => emits_bind (emits_attempt.mpr ?_) fun result =>
    emits_bind within_process fun _ => emits_ofExcept
  refine emits_bind (within_targetIQN _) fun iqn => emits_bind (within_queryTarget _) fun target => ?_
  cases target with
  | some existing => exact emits_bind (within_ensureInitiatorGroup p) fun _ => trivial
  | none => exact emits_bind (within_createTarget env p _) fun _ => trivial

end Iscsi

namespace Nvme

theorem within_ensureSubsystem (name : String) (p : Params) :
    M.Within F (ensureSubsystem c name p) := by
  refine emits_bind (within_querySubsystem _) fun existing => ?_
  cases existing with
  | some existing => trivial
  | none =>
    refine emits_bind (emits_attempt.mpr (within_ask _)) fun made => ?_
    cases made with
    | ok created => trivial
    | error e =>
      refine emits_bind (emits_attempt.mpr (emits_first (within_ask _))) fun again => ?_
      match again with
      | .ok (some _) => trivial
      | .ok none => trivial
      | .error _ => trivial

theorem within_ensureNamespace (dev : String) (subsys : Nat) :
    M.Within F (ensureNamespace c dev subsys) := by
  refine emits_bind (emits_mapError.mpr (within_namespaceByDevice _)) fun existing => ?_
  cases existing with
  | some _ => trivial
  | none =>
    refine emits_bind (emits_attempt.mpr (within_ask _)) fun made => ?_
    cases made with
    | ok created => trivial
    | error e =>
      refine emits_bind (emits_attempt.mpr (within_namespaceByDevice _)) fun again => ?_
      match again with
      | .ok (some _) => trivial
      | .ok none => trivial
      | .error _ => trivial

theorem within_createPort (trtype addr : String) (port : Nat) :
    M.Within F (createPort c trtype addr port) := by
  refine emits_if (fun _ => trivial) fun _ =>
    emits_bind (emits_attempt.mpr (within_ask _)) fun made => ?_
  cases made with
  | ok created => trivial
  | error e =>
    have found : M.Within F (portFind c trtype addr port) :=
      emits_bind (emits_rows (within_ask _)) fun _ => trivial
    refine emits_bind (emits_attempt.mpr found) fun again => ?_
    match again with
    | .ok (some _) => trivial
    | .ok none => trivial
    | .error _ => trivial

variable (subsys : Nat) (p : Params)

theorem within_ensurePort : M.Within F (ensurePort c p) := by
  refine emits_bind within_process fun _ => emits_bind (emits_attempt.mpr ?_) fun result =>
    emits_bind within_process fun _ => emits_ofExcept
  refine emits_bind within_listPorts fun ports => ?_
  split
  · exact emits_if (fun _ => trivial) fun _ => trivial
  · exact within_createPort _ _ _

theorem within_removeAll {remove : Nat → M Unit} (each : ∀ id, M.Within F (remove id))
    (rows : List Nat) : M.Within F (removeAll remove rows) := by
  induction rows with
  | nil => trivial
  | cons id rest ih => exact emits_bind (within_bestEffort (each id)) fun _ => ih

theorem within_admitHost (admitted : List Nat) (nqn : String) :
    M.Within F (admitHost c subsys admitted nqn) :=
  emits_bind (within_ensureHost _) fun _ => emits_if (fun _ => trivial) fun _ =>
    emits_bind (emits_mapError.mpr (within_ask _)) fun _ => trivial

theorem within_admitHosts (admitted made : List Nat) (nqns : List String) :
    M.Within F (admitHosts c subsys admitted made nqns) := by
  induction nqns generalizing made with
  | nil => trivial
  | cons nqn rest ih =>
    exact emits_bind (within_undoing (within_admitHost _ _ _)
      (within_removeAll (fun _ => emits_gone (within_ask _)) _)) fun binding => ih _

theorem within_ensureHostACL : M.Within F (ensureHostACL c subsys p) :=
  emits_if (fun _ => trivial) fun _ =>
    emits_bind (emits_mapError.mpr (within_hostSubsysList _)) fun _ => within_admitHosts _ _ _ _

end Nvme

end

end TruenasCsi.Backend
