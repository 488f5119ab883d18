import TruenasCsi.Support.Net
import TruenasCsi.Backend.Filesystem

/-! One filesystem per volume, exported through one NFS share. -/

namespace TruenasCsi.Backend.Nfs

open Truenas Appliance
open Filesystem (queryDataset noVolume rollback)
open Volume (ID)
open Text

/-- A host entry no client can present. -/
def denyHost : String := "192.0.2.1"

structure Params where
  server : String := ""
  nfsVersion : String := "4"
  versionExplicit : Bool := false
  networks : List String := []
  maproot : String := "root"
  mode : String := "0777"
  uid : Int := 0
  gid : Int := 0

def parseID (key v : String) : Except Err Int :=
  if v = "" then .ok 0
  else
    match atoi v with
    | none => .error (.status .invalidArgument (key ++ "=" ++ quote v ++ " is not a valid id"))
    | some n =>
      if n < 0 then
        .error (.status .invalidArgument (key ++ "=" ++ quote v ++ " is not a valid id"))
      else .ok n

def parseParams (p : Dict String) : Except Err Params := do
  let get (key : String) := trimSpace (p.getD key "")
  let version := get "nfsVersion"
  if version ≠ "" ∧ version ≠ "3" ∧ version ≠ "4" then
    throw (.status .invalidArgument
      ("nfsVersion=" ++ quote version ++ ": only 3 and 4 are supported"))
  let mode := get "mode"
  if mode ≠ "" ∧ (octal32 mode).isNone then
    throw (.status .invalidArgument ("mode=" ++ quote mode ++ " is not an octal mode"))
  let uid ← parseID "uid" (get "uid")
  let gid ← parseID "gid" (get "gid")
  return {
    server := get "server"
    nfsVersion := if version = "" then "4" else version
    versionExplicit := version != ""
    networks := commaList (get "networks")
    maproot := if get "maproot" = "" then "root" else get "maproot"
    mode := if mode = "" then "0777" else mode
    uid, gid }

structure Cache where
  server : String := ""
  versions : Dict String := ∅

variable (c : Client) (b : Server) (cache : Cache) (dsPath : String) (id : ID) (node : NodeRef)
  (r : CreateRequest) (p : Params) (mountpoint : String)

def remember : Cache where
  server := if p.server = "" then cache.server else p.server
  versions := cache.versions.set id.string p.nfsVersion

def recallParams : Params :=
  let v := cache.versions.getD id.string ""
  { server := cache.server, nfsVersion := if v = "" then "4" else v }

variable (path : String) (shareID : Nat) (hosts : List String)

/-- The host list as the driver writes it. -/
def withDenyHost : List String :=
  sortedSet (denyHost :: (hosts.map trimSpace).filter (· ≠ ""))

/-- Removes addresses; entries are compared as they stand. -/
def withoutHosts (current remove : List String) : List String :=
  withDenyHost (current.filter fun h => h ∉ remove.map trimSpace)

def parseNetworks : List String → Except Err (List Net.Block)
  | [] => .ok []
  | n :: rest =>
    match Net.parseCIDR (trimSpace n) with
    | none => .error (.status .invalidArgument ("networks=" ++ quote n ++
        " is not CIDR notation: invalid CIDR address: " ++ trimSpace n))
    | some block =>
      match parseNetworks rest with
      | .error e => .error e
      | .ok blocks => .ok (block :: blocks)

/-- The addresses of a node that are in the allowed networks. -/
def grantHosts (addrs networks : List String) : Except Err (List String) :=
  if networks = [] then .ok addrs
  else
    match parseNetworks networks with
    | .error e => .error e
    | .ok blocks => .ok (addrs.filter fun a =>
        match Net.parseIP (trimSpace a) with
        | none => false
        | some ip => blocks.any fun block => block.contains ip)

def serving (share : NfsShare) : Bool := share.enabled.getD true

def shareByPath : M (Option NfsShare) :=
  first (middleware c.name (.nfs (.query path)))

def createShare (p : Params) : M NfsShare :=
  middleware c.name (.nfs (.create path "truenas-csi" (withDenyHost hosts) [] p.maproot))

def setHosts : M Unit :=
  middleware c.name (.nfs (.update shareID (withDenyHost hosts) []))

def shareDelete : M Unit :=
  gone (middleware c.name (.nfs (.delete shareID)))

def ensureShare (p : Params) : M Unit := do
  let share ← asInternal ("query NFS share for " ++ mountpoint ++ ": ") (shareByPath c mountpoint)
  match share with
  | some share =>
    if serving share then return ()
    else throw (.status .failedPrecondition ("the NFS share for " ++ mountpoint ++
      " is disabled on the appliance, so a volume using it cannot be mounted; re-enable it or " ++
      "delete it and let the driver recreate it"))
  | none =>
    let _ ← asInternal ("create NFS share for " ++ mountpoint ++ ": ") (createShare c mountpoint [] p)

def recordNetworkPolicy : M Unit :=
  if p.networks = [] then return ()
  else asInternal ("recording the network policy on " ++ dsPath ++ ": ")
    (c.setUserProperty dsPath Volume.networksProperty (join "," p.networks))

def recordMountPolicy : M Unit := do
  recordNetworkPolicy c dsPath p
  if p.versionExplicit && p.nfsVersion != "" then
    asInternal ("recording the nfs version on " ++ dsPath ++ ": ")
      (c.setUserProperty dsPath Volume.nfsVersionProperty p.nfsVersion)

def repairClone (c : Client) (dsPath : String) (bytes : Int) : M (Option Dataset) :=
  Filesystem.repairClone c "nfs" dsPath { refQuota := some bytes } "refquota"

def restore (snapshot dsPath : String) (bytes : Int) : M (Option Dataset) := do
  Filesystem.cloneInto c snapshot dsPath
  repairClone c dsPath bytes

def createDataset : M (Option Dataset) :=
  if r.sourceSnapshot = "" then
    Filesystem.createEmpty c {
      name := dsPath, type := .filesystem, refQuota := r.capacityBytes
      userProperties := [(Volume.ownerProperty, Volume.ownerValue),
        (Volume.ownerIDProperty, dsPath), (Volume.protocolProperty, "nfs")] }
  else restore c r.sourceSnapshot dsPath r.capacityBytes

def provision : M (Option Dataset) := do
  let ds ← createDataset c dsPath r
  recordIdentity c dsPath (Volume.identityFrom r.params)
  return ds

def volumeFor (bytes : Int) (mountpoint : String) (p : Params) : Provisioned where
  id := id
  capacityBytes := bytes
  context := [("share", mountpoint), ("nfsVersion", p.nfsVersion)] ++
    (if p.server = "" then [] else [("server", p.server)])

def finish : M Provisioned := do
  let dsPath := r.id.datasetPath
  (asInternal ("set permissions on " ++ mountpoint ++ ": ")
    (c.setPerm mountpoint p.mode p.uid p.gid)).rescue (rollback c dsPath)
  (ensureShare c mountpoint p).rescue (rollback c dsPath)
  (recordMountPolicy c dsPath p).rescue (rollback c dsPath)
  return volumeFor r.id r.capacityBytes mountpoint p

def adopt (existing : Dataset) : M Provisioned := do
  let dsPath := r.id.datasetPath
  Filesystem.sameSize r existing
  let mountpoint := mountpointOf (some existing) dsPath
  ensureShare c mountpoint p
  recordMountPolicy c dsPath p
  return volumeFor r.id r.capacityBytes mountpoint p

/-- Adopts what is there with the same size, and else makes dataset and share. -/
def create : M Provisioned := do
  b.confine r.id
  Filesystem.positiveCapacity r
  let p ← Prog.ofExcept (parseParams r.params)
  let dsPath := r.id.datasetPath
  let existing ← queryDataset b r.id
  match abandonedCloneOf existing r, existing with
  | false, some existing => adopt b.client r p existing
  | true, _ =>
    let ds ← repairClone b.client dsPath r.capacityBytes
    recordIdentity b.client dsPath (Volume.identityFrom r.params)
    finish b.client r p (mountpointOf ds dsPath)
  | false, none =>
    let ds ← provision b.client dsPath r
    finish b.client r p (mountpointOf ds dsPath)

def removeShare : M Unit := do
  let share ← asInternal ("query NFS share for " ++ mountpoint ++ ": ") (shareByPath c mountpoint)
  match share with
  | none => return ()
  | some share =>
    asInternal ("delete NFS share " ++ toString share.id ++ ": ") (shareDelete c share.id)

def delete (b : Server) (id : ID) : M Unit := Filesystem.delete b (removeShare b.client) id

def expand (b : Server) (id : ID) (bytes : Int) : M Int := Filesystem.expand b id bytes

def publishContext : M (List (String × String)) := do
  b.confine id
  match ← queryDataset b id with
  | none => throw (noVolume id)
  | some ds =>
    let cached := cache.versions.getD id.string ""
    let recorded := if cached = "" then localProperty ds Volume.nfsVersionProperty else cached
    let version := if recorded = "" then "4" else recorded
    let server := if cache.server = "" then b.client.host else cache.server
    if server = "" then
      throw (.status .failedPrecondition ("no NFS server address is known for " ++ id.string ++
        ": set the " ++ quote "server" ++ " StorageClass parameter"))
    else return [("server", server), ("share", mountpointOf (some ds) id.datasetPath),
      ("nfsVersion", version)]

def grant (granted : List String) : M Unit := do
  let share ← asInternal ("query NFS share for " ++ mountpoint ++ ": ")
    (shareByPath b.client mountpoint)
  match share with
  | some share =>
    if serving share then
      asInternal ("granting " ++ node.id ++ " access to " ++ mountpoint ++ ": ")
        (setHosts b.client share.id (share.hosts ++ granted))
    else throw (.status .failedPrecondition ("the NFS share for " ++ mountpoint ++
      " is disabled on the appliance, so this volume cannot be mounted; re-enable it or delete it " ++
      "and let the driver recreate it"))
  | none =>
    let _ ← asInternal ("create NFS share for " ++ mountpoint ++ ": ")
      (createShare b.client mountpoint granted (recallParams cache id))

/-- Adds the node's addresses to the share. -/
def publish : M (List (String × String)) := do
  b.confine id
  match ← queryDataset b id with
  | none => throw (noVolume id)
  | some ds =>
    let granted ← Prog.ofExcept
      (grantHosts node.addrs (commaList (localProperty ds Volume.networksProperty)))
    if granted = [] then
      throw (.status .failedPrecondition
        ("access for this node cannot be granted in a revocable form: node " ++ node.id ++
          " has no address inside the networks volume " ++ id.string ++ " is exported to"))
    else
      grant b cache id node (mountpointOf (some ds) id.datasetPath) granted
      publishContext b cache id

/-- Takes them off again. -/
def unpublish : M Unit := do
  b.confine id
  match ← queryDataset b id with
  | none => return ()
  | some ds =>
    let mountpoint := mountpointOf (some ds) id.datasetPath
    let share ← asInternal ("query NFS share for " ++ mountpoint ++ ": ")
      (shareByPath b.client mountpoint)
    match share with
    | none => return ()
    | some share =>
      asInternal ("revoking " ++ node.id ++ " access to " ++ mountpoint ++ ": ")
        (setHosts b.client share.id (withoutHosts share.hosts node.addrs))

def minimumCapacityBytes : Int := Filesystem.minimumCapacityBytes

def acceptedParameters : List String :=
  ["server", "nfsVersion", "networks", "maproot", "mode", "uid", "gid"]

end TruenasCsi.Backend.Nfs
