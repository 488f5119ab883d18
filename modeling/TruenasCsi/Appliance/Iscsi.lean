import TruenasCsi.Appliance.Sharing

/-! Portals, credentials, initiator groups, targets, extents and mappings. -/

namespace TruenasCsi.Appliance

structure IscsiGlobal where
  basename : String
  port : Nat
deriving DecidableEq

structure Portal where
  id : Nat
  comment : String
  listen : List String
deriving DecidableEq

structure Auth where
  id : Nat
  tag : Nat
  user : String
  secret : String
deriving DecidableEq

structure Initiator where
  id : Nat
  comment : String
  initiators : List String
deriving DecidableEq

structure TargetGroup where
  portal : Nat
  initiator : Nat := 0
  authMethod : String := "NONE"
  auth : Nat := 0
deriving DecidableEq

structure Target where
  id : Nat
  name : String
  groups : List TargetGroup
deriving DecidableEq

structure Extent where
  id : Nat
  name : String
  disk : String
  naa : String
  enabled : Option Bool := some true
deriving DecidableEq

/-- Whether the appliance presents the extent. -/
def Extent.serving (e : Extent) : Bool := e.enabled.getD true

structure TargetExtent where
  id : Nat
  target : Nat
  extent : Nat
  lun : Nat
deriving DecidableEq

/-- The tables of the iSCSI service. -/
structure Iscsi where
  config : IscsiGlobal := ⟨"iqn.2005-10.org.freenas.ctl", 3260⟩
  portals : List Portal := []
  auths : List Auth := []
  initiators : List Initiator := []
  targets : List Target := []
  extents : List Extent := []
  targetExtents : List TargetExtent := []
  nextID : Nat := 1

inductive IscsiOp where
  | globalConfig
  | portalQuery
  | portalCreate (comment : String) (ips : List String)
  | authQuery (user : String)
  | authList
  | authCreate (tag : Nat) (user secret : String)
  | initiatorQuery (comment : String)
  | initiatorCreate (comment : String) (initiators : List String)
  | initiatorUpdate (id : Nat) (initiators : List String)
  | targetQuery (name : String)
  | targetCreate (name : String) (portal initiator : Nat)
  | targetUpdate (id : Nat) (groups : List TargetGroup)
  | targetDelete (id : Nat)
  | extentQuery (name : String)
  | extentCreate (name disk : String)
  | extentDelete (id : Nat)
  | targetExtentQuery (target : Nat)
  | targetExtentCreate (target extent lun : Nat)
  | targetExtentDelete (id : Nat)

namespace IscsiOp

@[reducible] def Answer : IscsiOp → Type
  | globalConfig => IscsiGlobal
  | portalQuery => List Portal
  | portalCreate _ _ => Portal
  | authQuery _ => List Auth
  | authList => List Auth
  | authCreate _ _ _ => Auth
  | initiatorQuery _ => List Initiator
  | initiatorCreate _ _ => Initiator
  | initiatorUpdate _ _ => Initiator
  | targetQuery _ => List Target
  | targetCreate _ _ _ => Target
  | targetUpdate _ _ => Unit
  | targetDelete _ => Unit
  | extentQuery _ => List Extent
  | extentCreate _ _ => Extent
  | extentDelete _ => Unit
  | targetExtentQuery _ => List TargetExtent
  | targetExtentCreate _ _ _ => TargetExtent
  | targetExtentDelete _ => Unit

def sparesMappings : IscsiOp → Bool
  | targetDelete _ => false
  | extentDelete _ => false
  | targetExtentCreate _ _ _ => false
  | targetExtentDelete _ => false
  | _ => true

def peripheral : IscsiOp → Bool
  | globalConfig => true
  | portalQuery => true
  | portalCreate _ _ => true
  | authQuery _ => true
  | authList => true
  | authCreate _ _ _ => true
  | initiatorQuery _ => true
  | targetQuery _ => true
  | extentQuery _ => true
  | targetExtentQuery _ => true
  | _ => false

def sparesTargets : IscsiOp → Bool
  | targetCreate _ _ _ => false
  | targetUpdate _ _ => false
  | targetDelete _ => false
  | _ => true

def sparesInitiators : IscsiOp → Bool
  | initiatorCreate _ _ => false
  | initiatorUpdate _ _ => false
  | _ => true

theorem sparesMappings_of_peripheral {op : IscsiOp} (asked : op.peripheral = true) :
    op.sparesMappings = true := by
  cases op <;> first | rfl | cases asked

theorem sparesTargets_of_peripheral {op : IscsiOp} (asked : op.peripheral = true) :
    op.sparesTargets = true ∧ op.sparesInitiators = true := by
  cases op <;> first | exact ⟨rfl, rfl⟩ | cases asked

end IscsiOp

namespace Iscsi

private def taken (method : String) : Err :=
  .call method "EINVAL" "[EINVAL] name: must be unique"

/-- One call; ids are given out in order. -/
def act : (op : IscsiOp) → Iscsi → Except Err op.Answer × Iscsi
  | .globalConfig, t => (.ok t.config, t)
  | .portalQuery, t => (.ok t.portals, t)
  | .portalCreate comment ips, t =>
    let row : Portal := ⟨t.nextID, comment, ips⟩
    (.ok row, { t with portals := t.portals ++ [row], nextID := t.nextID + 1 })
  | .authQuery user, t => (.ok (t.auths.filter fun row => row.user == user), t)
  | .authList, t => (.ok t.auths, t)
  | .authCreate tag user secret, t =>
    let row : Auth := ⟨t.nextID, tag, user, secret⟩
    (.ok row, { t with auths := t.auths ++ [row], nextID := t.nextID + 1 })
  | .initiatorQuery comment, t => (.ok (t.initiators.filter fun row => row.comment == comment), t)
  | .initiatorCreate comment initiators, t =>
    let row : Initiator := ⟨t.nextID, comment, initiators⟩
    (.ok row, { t with initiators := t.initiators ++ [row], nextID := t.nextID + 1 })
  | .initiatorUpdate id initiators, t =>
    match t.initiators.find? fun row => row.id == id with
    | none => (.error (noRow "iscsi.initiator.update" id), t)
    | some row =>
      (.ok { row with initiators }, { t with
        initiators := updateRow Initiator.id id (fun row => { row with initiators }) t.initiators })
  | .targetQuery name, t => (.ok (t.targets.filter fun row => row.name == name), t)
  | .targetCreate name portal initiator, t =>
    if t.targets.any fun row => row.name == name then (.error (taken "iscsi.target.create"), t)
    else
      let row : Target := ⟨t.nextID, name, [{ portal, initiator }]⟩
      (.ok row, { t with targets := t.targets ++ [row], nextID := t.nextID + 1 })
  | .targetUpdate id groups, t =>
    if t.targets.any fun row => row.id == id then
      (.ok (), { t with
        targets := updateRow Target.id id (fun row => { row with groups }) t.targets })
    else (.error (noRow "iscsi.target.update" id), t)
  | .targetDelete id, t =>
    if t.targets.any fun row => row.id == id then
      (.ok (), { t with
        targets := t.targets.filter fun row => row.id != id
        targetExtents := t.targetExtents.filter fun row => row.target != id })
    else (.error (noRow "iscsi.target.delete" id), t)
  | .extentQuery name, t => (.ok (t.extents.filter fun row => row.name == name), t)
  | .extentCreate name disk, t =>
    if t.extents.any fun row => row.name == name then (.error (taken "iscsi.extent.create"), t)
    else
      let row : Extent := { id := t.nextID, name, disk, naa := "0x6589cfc" ++ toString t.nextID }
      (.ok row, { t with extents := t.extents ++ [row], nextID := t.nextID + 1 })
  | .extentDelete id, t =>
    if t.extents.any fun row => row.id == id then
      (.ok (), { t with
        extents := t.extents.filter fun row => row.id != id
        targetExtents := t.targetExtents.filter fun row => row.extent != id })
    else (.error (noRow "iscsi.extent.delete" id), t)
  | .targetExtentQuery target, t => (.ok (t.targetExtents.filter fun row => row.target == target), t)
  | .targetExtentCreate target extent lun, t =>
    let row : TargetExtent := ⟨t.nextID, target, extent, lun⟩
    (.ok row, { t with targetExtents := t.targetExtents ++ [row], nextID := t.nextID + 1 })
  | .targetExtentDelete id, t =>
    if t.targetExtents.any fun row => row.id == id then
      (.ok (), { t with targetExtents := t.targetExtents.filter fun row => row.id != id })
    else (.error (noRow "iscsi.targetextent.delete" id), t)

variable {op : IscsiOp}

theorem act_error {t : Iscsi} {e : Err} (refused : (act op t).1 = .error e) : (act op t).2 = t := by
  cases op <;> simp only [act] at refused ⊢ <;> (try split_ifs at refused ⊢) <;>
    (try split at refused) <;> simp_all

theorem act_sparesMappings (spares : op.sparesMappings = true) (t : Iscsi) :
    (act op t).2.targetExtents = t.targetExtents ∧ t.nextID ≤ (act op t).2.nextID := by
  cases op <;> simp only [act] <;> (try split_ifs) <;> (try split) <;>
    simp_all [IscsiOp.sparesMappings]

theorem act_nextID (op : IscsiOp) (t : Iscsi) : t.nextID ≤ (act op t).2.nextID := by
  cases op <;> simp only [act] <;> (try split_ifs) <;> (try split) <;> simp

theorem act_sparesTargets (spares : op.sparesTargets = true) (t : Iscsi) :
    (act op t).2.targets = t.targets := by
  cases op <;> simp only [act] <;> (try split_ifs) <;> (try split) <;>
    simp_all [IscsiOp.sparesTargets]

theorem act_sparesInitiators (spares : op.sparesInitiators = true) (t : Iscsi) :
    (act op t).2.initiators = t.initiators := by
  cases op <;> simp only [act] <;> (try split_ifs) <;> (try split) <;>
    simp_all [IscsiOp.sparesInitiators]

end Iscsi

end TruenasCsi.Appliance
