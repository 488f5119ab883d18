import TruenasCsi.Backend.Filesystem
import TruenasCsi.Backend.Names

/-! One filesystem per volume with an NFSv4 ACL. -/

namespace TruenasCsi.Backend.Smb

open Truenas Appliance
open Filesystem (queryDataset noVolume rollback)
open Volume (ID)
open Text

def purposeDefaultShare : String := "DEFAULT_SHARE"

def denyAll : String := "ALL"

structure Params where
  /-- Whether a creation is remembered. -/
  recalled : Bool := false
  server : String := ""
  sharePrefix : String := ""
  uid : Int := 0
  gid : Int := 0
  fileMode : String := "0755"
  dirMode : String := "0755"
  mode : String := "0777"

variable (get : String → String) (c : Client) (b : Server) (share : SmbShare) (cache : Cache)
  (key dsPath : String) (id : ID) (node : NodeRef) (r : CreateRequest) (p : Params)
  (mountpoint : String)

def secretParam : Except Err Unit :=
  if get key = "" then .ok ()
  else .error (.status .invalidArgument ("the " ++ quote key ++
    " parameter does nothing: Kubernetes builds the node-stage secret " ++
    "reference from the reserved parameters " ++
    quote "csi.storage.k8s.io/node-stage-secret-name" ++ " and " ++
    quote "csi.storage.k8s.io/node-stage-secret-namespace" ++
    ", so name the Secret with those instead"))

def modeParam (default : String) : Except Err String :=
  let v := get key
  if v = "" then .ok default
  else if (octal32 v).isNone then
    .error (.status .invalidArgument (key ++ "=" ++ quote v ++ " is not an octal mode"))
  else .ok v

def idParam : Except Err Int :=
  let v := get key
  if v = "" then .ok 0
  else
    match atoi v with
    | none => .error (.status .invalidArgument (key ++ "=" ++ quote v ++ " is not a valid id"))
    | some n =>
      if n < 0 then
        .error (.status .invalidArgument (key ++ "=" ++ quote v ++ " is not a valid id"))
      else .ok n

def parseParams (p : Dict String) : Except Err Params := do
  let get (key : String) := trimSpace (p.getD key "")
  secretParam get "secretName"
  secretParam get "secretNamespace"
  let mode ← modeParam get "mode" "0777"
  let fileMode ← modeParam get "fileMode" "0755"
  let dirMode ← modeParam get "dirMode" "0755"
  let uid ← idParam get "uid"
  let gid ← idParam get "gid"
  return { server := get "server", sharePrefix := get "shareName", uid, gid, fileMode, dirMode, mode }

structure Cache where
  server : String := ""
  byVol : String → Option Params := fun _ => none

def remember : Cache where
  server := if p.server = "" then cache.server else p.server
  byVol := Function.update cache.byVol id.string (some p)

def recallParams : Params :=
  match cache.byVol id.string with
  | none => {}
  | some p => { p with recalled := true }

def permFor (digit : Char) : String :=
  if digit = '7' then "FULL_CONTROL"
  else if digit = '6' ∨ digit = '3' ∨ digit = '2' then "MODIFY"
  else if digit = '5' ∨ digit = '4' then "READ"
  else if digit = '1' then "TRAVERSE"
  else "NOPERM"

variable (mode : String) (hosts : List String) (path name : String) (allow : List String)

def modeDigits : List Char :=
  let digits := mode.toList.drop (mode.length - 3)
  List.replicate (3 - digits.length) '0' ++ digits

/-- The ACL for a mode, one entry for each digit. -/
def dacl : List (String × String × String) :=
  (["owner@", "group@", "everyone@"].zip (modeDigits mode)).filterMap fun (tag, digit) =>
    if digit = '0' then none else some (tag, permFor digit, "INHERIT")

def hostsOfJson : Json → List String
  | .arr items => items.filterMap fun
    | .str s => if s = [] then none else some (String.ofList s)
    | _ => none
  | _ => []

def hostsAllow : List String :=
  match share.options.get? "hostsallow" with
  | some v => hostsOfJson v
  | none => []

def normaliseHosts : List String :=
  sortedSet ((hosts.map trimSpace).filter (· ≠ ""))

def hostsJson : Json := .arr (hosts.map fun h => .str h.toList)

/-- Writes the allow list and keeps the other options. -/
def accessOptions (current : Dict Json) (allow : List String) : Dict Json :=
  (current.set "hostsallow" (hostsJson (normaliseHosts allow))).set "hostsdeny" (hostsJson [denyAll])

def withoutHosts (current remove : List String) : List String :=
  normaliseHosts (current.filter fun h => h ∉ remove.map trimSpace)

def serving : Bool := share.enabled.getD true

def shareByPath : M (Option SmbShare) :=
  first (middleware c.name (.smb (.query path)))

def createShare : M SmbShare :=
  middleware c.name
    (.smb (.create path name "truenas-csi" purposeDefaultShare (accessOptions ∅ allow)))

def setHostsAllow : M Unit :=
  middleware c.name (.smb (.update share.id
    (if share.purpose = "" then purposeDefaultShare else share.purpose)
    (accessOptions share.options allow)))

def queryShare : M (Option SmbShare) :=
  asInternal ("query SMB share for " ++ mountpoint ++ ": ") (shareByPath c mountpoint)

def ensureShare : M Unit := do
  match ← queryShare c mountpoint with
  | some share =>
    if serving share then return ()
    else throw (.status .failedPrecondition ("the SMB share for " ++ mountpoint ++
      " is disabled on the appliance, so a volume using it cannot be mounted; re-enable it or " ++
      "delete it and let the driver recreate it"))
  | none =>
    let _ ← asInternal ("create SMB share " ++ name ++ " for " ++ mountpoint ++ ": ")
      (createShare c mountpoint name [])

def recordMountOptions : M Unit := do
  let _ ← (c.setUserProperty dsPath Volume.smbMountProperty
    (Volume.encodeSMBMount ⟨p.uid, p.gid, p.fileMode, p.dirMode⟩)).attempt

def repairClone (c : Client) (dsPath : String) (bytes : Int) : M (Option Dataset) :=
  Filesystem.repairClone c "smb" dsPath
    { refQuota := some bytes, zfsProperties := [("acltype", "NFSV4"), ("aclmode", "RESTRICTED")] }
    "refquota and acl type"

def restore (snapshot dsPath : String) (bytes : Int) : M (Option Dataset) := do
  Filesystem.cloneInto c snapshot dsPath
  repairClone c dsPath bytes

def createDataset : M (Option Dataset) :=
  if r.sourceSnapshot = "" then
    Filesystem.createEmpty c {
      name := dsPath, type := .filesystem, refQuota := r.capacityBytes, shareType := "SMB"
      userProperties := [(Volume.ownerProperty, Volume.ownerValue),
        (Volume.ownerIDProperty, dsPath), (Volume.protocolProperty, "smb")] }
  else restore c r.sourceSnapshot dsPath r.capacityBytes

def provision : M (Option Dataset) := do
  let ds ← createDataset c dsPath r
  recordIdentity c dsPath (Volume.identityFrom r.params)
  return ds

def volumeFor (bytes : Int) (name : String) (p : Params) : Provisioned where
  id := id
  capacityBytes := bytes
  context := [("share", name), ("protocol", "smb"), ("uid", toString p.uid), ("gid", toString p.gid),
    ("fileMode", p.fileMode), ("dirMode", p.dirMode)] ++
    (if p.server = "" then [] else [("server", p.server)])

def finish : M Provisioned := do
  let dsPath := r.id.datasetPath
  let name := shareName b.env.sha256 r.id p.sharePrefix
  (asInternal ("set ACL on " ++ mountpoint ++ ": ")
    (b.client.setACL mountpoint (dacl p.mode) p.uid p.gid)).rescue (rollback b.client dsPath)
  (ensureShare b.client mountpoint name).rescue (rollback b.client dsPath)
  recordMountOptions b.client dsPath p
  return volumeFor r.id r.capacityBytes name p

def adopt (existing : Dataset) : M Provisioned := do
  let dsPath := r.id.datasetPath
  let name := shareName b.env.sha256 r.id p.sharePrefix
  Filesystem.sameSize r existing
  ensureShare b.client (mountpointOf (some existing) dsPath) name
  recordMountOptions b.client dsPath p
  return volumeFor r.id r.capacityBytes name p

def create : M Provisioned := do
  b.confine r.id
  Filesystem.positiveCapacity r
  let p ← Prog.ofExcept (parseParams r.params)
  let dsPath := r.id.datasetPath
  let existing ← queryDataset b r.id
  match abandonedCloneOf existing r, existing with
  | false, some existing => adopt b r p existing
  | true, _ =>
    let ds ← repairClone b.client dsPath r.capacityBytes
    recordIdentity b.client dsPath (Volume.identityFrom r.params)
    finish b r p (mountpointOf ds dsPath)
  | false, none =>
    let ds ← provision b.client dsPath r
    finish b r p (mountpointOf ds dsPath)

def removeShare : M Unit := do
  match ← queryShare c mountpoint with
  | none => return ()
  | some share =>
    asInternal ("delete SMB share " ++ toString share.id ++ ": ")
      (gone (middleware c.name (.smb (.delete share.id))))

def delete (b : Server) (id : ID) : M Unit := Filesystem.delete b (removeShare b.client) id

def expand (b : Server) (id : ID) (bytes : Int) : M Int := Filesystem.expand b id bytes

def mountFor (ds : Dataset) : Volume.SMBMount :=
  let given : Volume.SMBMount := ⟨p.uid, p.gid, p.fileMode, p.dirMode⟩
  if p.recalled then given
  else
    match Volume.decodeSMBMount (localProperty ds Volume.smbMountProperty) with
    | .ok (some recorded) => recorded
    | _ => given

def serverFor : String :=
  if p.server ≠ "" then p.server else if cache.server ≠ "" then cache.server else b.client.host

def publishContext : M (List (String × String)) := do
  b.confine id
  match ← queryDataset b id with
  | none => throw (noVolume id)
  | some ds =>
    let p := recallParams cache id
    -- The share may carry a name chosen at creation; a failed lookup keeps the derived one.
    let share ← (shareByPath b.client (mountpointOf (some ds) id.datasetPath)).attempt
    let derived := shareName b.env.sha256 id p.sharePrefix
    let name := match share with
      | .ok (some share) => if share.name = "" then derived else share.name
      | _ => derived
    let server := serverFor b cache p
    if server = "" then
      throw (.status .failedPrecondition ("no SMB server address is known for " ++ id.string ++
        ": set the " ++ quote "server" ++ " StorageClass parameter"))
    else
      let mount := mountFor p ds
      return [("server", server), ("share", name), ("protocol", "smb"), ("uid", toString mount.uid),
        ("gid", toString mount.gid), ("fileMode", mount.fileMode), ("dirMode", mount.dirMode)]

def grant : M Unit := do
  match ← queryShare b.client mountpoint with
  | some share =>
    if serving share then
      asInternal ("granting " ++ node.id ++ " access to " ++ mountpoint ++ ": ")
        (setHostsAllow b.client share (hostsAllow share ++ node.addrs))
    else throw (.status .failedPrecondition ("the SMB share for " ++ mountpoint ++
      " is disabled on the appliance, so this volume cannot be mounted; re-enable it or delete it " ++
      "and let the driver recreate it"))
  | none =>
    let _ ← asInternal ("create SMB share for " ++ mountpoint ++ ": ")
      (createShare b.client mountpoint (shareName b.env.sha256 id (recallParams cache id).sharePrefix)
        node.addrs)

def publish : M (List (String × String)) := do
  b.confine id
  match ← queryDataset b id with
  | none => throw (noVolume id)
  | some ds =>
    if node.addrs = [] then
      throw (.status .failedPrecondition
        ("access for this node cannot be granted in a revocable form: no address is known for node " ++
          node.id))
    else
      grant b cache id node (mountpointOf (some ds) id.datasetPath)
      publishContext b cache id

def unpublish : M Unit := do
  b.confine id
  match ← queryDataset b id with
  | none => return ()
  | some ds =>
    let mountpoint := mountpointOf (some ds) id.datasetPath
    match ← queryShare b.client mountpoint with
    | none => return ()
    | some share =>
      asInternal ("revoking " ++ node.id ++ " access to " ++ mountpoint ++ ": ")
        (setHostsAllow b.client share (withoutHosts (hostsAllow share) node.addrs))

def minimumCapacityBytes : Int := Filesystem.minimumCapacityBytes

def acceptedParameters : List String :=
  ["server", "shareName", "secretName", "secretNamespace", "dirMode", "fileMode", "mode", "uid", "gid"]

end TruenasCsi.Backend.Smb
