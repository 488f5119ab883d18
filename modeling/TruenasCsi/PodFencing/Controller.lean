import TruenasCsi.Podmon.Connectivity
import TruenasCsi.Support.Transcript

/-! The fencing controller: one pod on a failed node. -/

namespace TruenasCsi.PodFencing

open Podmon
open Volume (ID)

inductive StatusReason where
  | notFound
  | conflict
  | other
deriving DecidableEq

structure ApiError where
  reason : StatusReason := .other
  text : String
deriving DecidableEq

def ApiError.wrap (context : String) (e : ApiError) : ApiError := { e with text := context ++ e.text }

structure Taint where
  key : String
  value : String
  effect : String
deriving DecidableEq

structure Condition where
  type : String
  status : String
deriving DecidableEq

structure Node where
  name : String
  taints : List Taint := []
  conditions : List Condition := []
deriving DecidableEq

/-- A volume of a pod, by its claim. -/
structure PodVolume where
  name : String
  persistentVolumeClaim : Option String := none
  /-- A generic ephemeral volume. -/
  ephemeral : Bool := false
deriving DecidableEq

structure Pod where
  ns : String
  name : String
  uid : String
  nodeName : String
  labels : List (String × String) := []
  conditions : List Condition := []
  volumes : List PodVolume := []
deriving DecidableEq

structure Claim where
  volumeName : String
deriving DecidableEq

structure CSISource where
  driver : String
  volumeHandle : String
deriving DecidableEq

structure PersistentVolume where
  name : String
  csi : Option CSISource
deriving DecidableEq

structure VolumeAttachment where
  name : String
  nodeName : String
  attacher : String
  /-- The CSI source of an inline volume specification. -/
  inlineVolume : Option CSISource := none
  persistentVolumeName : Option String := none
deriving DecidableEq

/-- The requests to the API server, the connectivity check and the fencer. -/
inductive Call where
  | getNode (name : String)
  | getPod (ns name : String)
  | getClaim (ns name : String)
  | getVolume (name : String)
  | check (nodeID : String) (ids : List ID)
  | fence (id : ID) (nodeID : String)
  | patchTaints (node : String) (taints : List Taint)
  | listAttachments
  | deleteAttachment (name : String)
  /-- Delete without grace the pod with this UID. -/
  | deletePod (ns name uid : String)
  | event (ns name eventType reason message : String)
deriving DecidableEq

def Call.Answer : Call → Type
  | .getNode _ => Node
  | .getPod .. => Pod
  | .getClaim .. => Claim
  | .getVolume _ => PersistentVolume
  | .check .. => List Report
  | .listAttachments => List VolumeAttachment
  | .fence .. | .patchTaints .. | .deleteAttachment _ | .deletePod .. | .event .. => Unit

abbrev K := Prog Call Call.Answer ApiError

namespace Ask

variable (ns name : String)

def node : K Node := Prog.issue (Call.getNode name)

def pod : K Pod := Prog.issue (Call.getPod ns name)

def claim : K Claim := Prog.issue (Call.getClaim ns name)

def volume : K PersistentVolume := Prog.issue (Call.getVolume name)

def check (nodeID : String) (ids : List ID) : K (List Report) :=
  Prog.issue (Call.check nodeID ids)

def fence (id : ID) (nodeID : String) : K Unit := Prog.issue (Call.fence id nodeID)

def patchTaints (node : String) (taints : List Taint) : K Unit :=
  Prog.issue (Call.patchTaints node taints)

def attachments : K (List VolumeAttachment) := Prog.issue Call.listAttachments

def deleteAttachment : K Unit := Prog.issue (Call.deleteAttachment name)

def deletePod (uid : String) : K Unit := Prog.issue (Call.deletePod ns name uid)

def event (eventType reason message : String) : K Unit :=
  Prog.issue (Call.event ns name eventType reason message)

end Ask

def driverName : String := "csi.truenas.watteel.com"

def taintKey : String := driverName ++ "/fenced"

structure Controller where
  labelKey : String := ""
  labelValue : String := ""
  driverName : String := ""
deriving DecidableEq

def podIsReady (pod : Pod) : Bool :=
  match pod.conditions.find? (·.type == "Ready") with
  | some cond => cond.status == "True"
  | none => false

/-- Why the node counts as failed, if it does. -/
def nodeHasFailed (node : Node) : Option String :=
  match node.taints.find? fun t => t.effect == "NoExecute" &&
      (t.key == "node.kubernetes.io/unreachable" || t.key == "node.kubernetes.io/not-ready") with
  | some t => some ("node carries the " ++ t.key ++ " NoExecute taint")
  | none =>
    (node.conditions.find? fun cond => cond.type == "Ready" && cond.status != "True").map
      fun cond => "node Ready condition is " ++ cond.status

namespace Controller

variable (c : Controller) (node : Node) (pod : Pod)

def theLabelKey : String :=
  if c.labelKey = "" then PodFencing.driverName ++ "/fence" else c.labelKey

def theLabelValue : String := if c.labelValue = "" then "true" else c.labelValue

def theDriverName : String :=
  if c.driverName = "" then PodFencing.driverName else c.driverName

def event (pod : Pod) (eventType reason msg : String) : K Unit :=
  Ask.event pod.ns pod.name eventType reason msg

def abort (msg : String) : K Unit := event pod "Warning" "FencingAborted" msg

/-- The handle of a volume of this driver. -/
def handleOf (pv : PersistentVolume) : Except ApiError (Option ID) :=
  match pv.csi with
  | none => .ok none
  | some csi =>
    if csi.driver ≠ c.theDriverName then .ok none
    else
      match Volume.parseID csi.volumeHandle with
      | .ok id => .ok (some id)
      | .error e => .error ⟨.other, "volume handle on " ++ pv.name ++ ": " ++ e.text⟩

/-- The volume behind a claim of the pod, if it is one of the driver's. -/
def volumeOf (ns : String) (vol : PodVolume) : K (Option ID) := do
  match vol.persistentVolumeClaim with
  | none => return none
  | some claimName =>
    let pvc ← (Ask.claim ns claimName).mapError
      (ApiError.wrap ("reading claim " ++ claimName ++ ": "))
    if pvc.volumeName = "" then return none
    else
      let pv ← (Ask.volume pvc.volumeName).mapError
        (ApiError.wrap ("reading volume " ++ pvc.volumeName ++ ": "))
      Prog.ofExcept (c.handleOf pv)

def volumesIn (c : Controller) (ns : String) : List PodVolume → K (List ID)
  | [] => return []
  | vol :: rest => do
    let id ← c.volumeOf ns vol
    let ids ← c.volumesIn ns rest
    return id.toList ++ ids

def volumesOf : K (List ID) := c.volumesIn pod.ns pod.volumes

/-- Fences one volume after the other; the first failure ends it. -/
def fenceAll (pod : Pod) : List ID → K Unit
  | [] => return ()
  | id :: rest => do
    match ← (Ask.fence id pod.nodeName).attempt with
    | .ok _ => fenceAll pod rest
    | .error e =>
      event pod "Warning" "FencingRevokeFailed"
        ("aborting: appliance access for volume " ++ id.string ++ " could not be revoked (" ++
          e.text ++ "); the pod has NOT been deleted, because a partially fenced node is still " ++
          "a writer")
      throw (e.wrap ("revoking " ++ id.string ++ " on " ++ pod.nodeName ++ ": "))

def taintNode : K Unit :=
  if node.taints.any (·.key == taintKey) then return ()
  else Ask.patchTaints node.name (node.taints ++ [⟨taintKey, "true", "NoSchedule"⟩])

def attachmentMatches (handles : List String) (va : VolumeAttachment) : K Bool := do
  match va.inlineVolume, va.persistentVolumeName with
  | some csi, _ => return handles.contains csi.volumeHandle
  | none, none => return false
  | none, some name =>
    match ← (Ask.volume name).attempt with
    | .error _ => return false
    | .ok pv =>
      match pv.csi with
      | none => return false
      | some csi => return handles.contains csi.volumeHandle

/-- Delete one attachment of a fenced volume. -/
def deleteAttachment (c : Controller) (nodeName : String) (handles : List String)
    (va : VolumeAttachment) : K (Option String) := do
  if va.nodeName ≠ nodeName ∨ va.attacher ≠ c.theDriverName then return none
  else if ← attachmentMatches handles va then
    match ← (Ask.deleteAttachment va.name).attempt with
    | .ok _ => return none
    | .error e => return if e.reason = .notFound then none else some e.text
  else return none

def deleteEach (c : Controller) (nodeName : String) (handles : List String) :
    List VolumeAttachment → K (List String)
  | [] => return []
  | va :: rest => do
    let failed ← c.deleteAttachment nodeName handles va
    let more ← c.deleteEach nodeName handles rest
    return failed.toList ++ more

/-- Attachments of the fenced volumes to the node. -/
def deleteAttachments (nodeName : String) (ids : List ID) : K Unit := do
  let list ← Ask.attachments
  match ← c.deleteEach nodeName (ids.map (·.string)) list with
  | [] => return ()
  | errs => throw ⟨.other, Text.join "\n" errs⟩

/-- A pod that is gone needs no deleting. -/
def forceDelete : K Unit := do
  match ← (Ask.deletePod pod.ns pod.name pod.uid).attempt with
  | .ok _ => return ()
  | .error e => if e.reason = .notFound ∨ e.reason = .conflict then return () else throw e

/-- The taint, the attachments and the pod. -/
def cleanUp (failureReason : String) (pod : Pod) (ids : List ID) : K Unit := do
  let _ ← (taintNode node).attempt
  let _ ← (c.deleteAttachments pod.nodeName ids).attempt
  (forceDelete pod).mapError
    (ApiError.wrap ("force-deleting pod " ++ pod.ns ++ "/" ++ pod.name ++ ": "))
  event pod "Normal" "VolumeAccessFenced"
    ("revoked appliance access to " ++ toString ids.length ++ " volume(s) for node " ++
      pod.nodeName ++ " and force-deleted this pod (" ++ failureReason ++
      "); the appliance reported no session or lease held by that node")

def evict (failureReason : String) (pod : Pod) : K Unit := do
  match ← (c.volumesOf pod).attempt with
  | .error e =>
    abort pod ("the volumes this pod holds could not be resolved: " ++ e.text)
    throw e
  | .ok ids =>
    if ids = [] then return ()
    else
      let reports ← Ask.check pod.nodeName ids
      if (safeToFence reports).1 then
        fenceAll pod ids
        c.cleanUp node failureReason pod ids
      else abort pod ("not fencing: " ++ (safeToFence reports).2)

/-- One stuck pod: re-read, resolve, check, fence, and only then evict. -/
def handle : K Unit := do
  if (pod.labels.lookup c.theLabelKey).getD "" ≠ c.theLabelValue then return ()
  else if pod.nodeName = "" ∨ podIsReady pod then return ()
  else
    let node ← (Ask.node pod.nodeName).mapError
      (ApiError.wrap ("reading node " ++ pod.nodeName ++ ": "))
    match nodeHasFailed node with
    | none => return ()
    | some failureReason =>
      match ← (Ask.pod pod.ns pod.name).attempt with
      | .error e =>
        if e.reason = .notFound then return ()
        else throw (e.wrap ("re-reading pod " ++ pod.ns ++ "/" ++ pod.name ++ ": "))
      | .ok live => if live.uid ≠ pod.uid then return () else c.evict node failureReason live

end Controller

end TruenasCsi.PodFencing
