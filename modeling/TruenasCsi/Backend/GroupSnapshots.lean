import TruenasCsi.Backend.Snapshots

/-! A group snapshot is one recursive snapshot, less what is no member's. -/

namespace TruenasCsi.Backend

open Truenas (Client)
open Appliance (atOrBelow)
open Volume (ID)
open Text

structure GroupSnapshot where
  id : String
  members : List Snapshot
  creationTime : Option Moment
  readyToUse : Bool
deriving DecidableEq

/-- The first source that is not the group's. -/
def sameParent (first : ID) (parent : String) : List ID → Except Err Unit
  | [] => .ok ()
  | s :: rest =>
    if s.backend ≠ first.backend then
      .error (.status .invalidArgument ("volumes " ++ first.string ++ " and " ++ s.string ++
        " live on different appliances (" ++ quote first.backend ++ " and " ++
        quote s.backend ++ "); a group snapshot cannot be crash-consistent across appliances"))
    else if dirPath s.datasetPath ≠ parent then
      .error (.status .failedPrecondition ("volumes " ++ first.string ++ " and " ++ s.string ++
        " do not share a parent dataset (" ++ quote parent ++ " and " ++
        quote (dirPath s.datasetPath) ++ "); ZFS can only snapshot several datasets " ++
        "atomically beneath a common parent, so this group cannot be made crash-consistent"))
    else sameParent first parent rest

namespace Registry

variable (r : Registry)

/-- The dataset the recursive snapshot is taken on. -/
def groupParent : List ID → Except Err String
  | [] => .error (.status .invalidArgument "a volume group snapshot needs at least one source volume")
  | first :: rest =>
    let parent := dirPath first.datasetPath
    match sameParent first parent rest with
    | .error e => .error e
    | .ok () =>
    match r.backend first.backend with
    | .error e => .error e
    | .ok cfg =>
    let want := cfg.pool ++ "/" ++ cfg.parentDataset
    if parent ≠ want ∧ dirPath parent ≠ want then
      .error (.status .invalidArgument ("group members live under " ++ quote parent ++
        ", outside backend " ++ quote first.backend ++ "'s parent dataset " ++ quote want))
    else .ok parent

end Registry

def snapshotDataset (s : Appliance.Snapshot) : String :=
  if s.dataset = "" then (splitSnapshotID s.id).1 else s.dataset

variable (c : Client) (parent name : String) (sources : List ID)

/-- A snapshot of the name at or below the parent. -/
def inGroup (s : Appliance.Snapshot) : Bool :=
  snapshotName s.id == name && atOrBelow parent (snapshotDataset s)

/-- The datasets whose snapshots are kept. -/
def kept : List String :=
  parent :: sources.map (·.datasetPath)

def removeNonMembers (c : Client) : List Appliance.Snapshot → M Unit
  | [] => return ()
  | s :: rest => do
    (c.snapshotDelete s.id).mapError fun e => e.wrap ("removing " ++ s.id ++
      ", which the recursive snapshot took of " ++ snapshotDataset s ++
      " -- a dataset that is not a member of this group: ")
    removeNonMembers c rest

/-- A recursive snapshot covers all below the parent; what is no member's is removed. -/
def trimNonMembers : M Unit := do
  let snaps ← (c.snapshotList parent).mapError
    fun e => e.wrap "listing the recursive snapshot's members: "
  removeNonMembers c (snaps.filter fun s =>
    inGroup parent name s && snapshotDataset s ∉ kept parent sources)

/-- The anchor, found or made and trimmed. -/
def ensureAnchor : M (Option Appliance.Snapshot) := do
  match ← c.snapshotQuery (parent ++ "@" ++ name) with
  | some existing => return some existing
  | none =>
    let _ ← c.snapshotCreateRecursive parent name
    trimNonMembers c parent name sources
    match ← (c.snapshotQuery (parent ++ "@" ++ name)).attempt with
    | .ok found => return found
    | .error _ => return none

def groupMembers (c : Client) (backendName name : String) (created : Moment) :
    List ID → M (List Snapshot)
  | [] => return []
  | s :: rest => do
    let memberZFS := s.datasetPath ++ "@" ++ name
    let member := (← (c.snapshotQuery memberZFS).attempt).toOption.join
    let size ← provisionedBytes c member s.datasetPath
    let others ← groupMembers c backendName name created rest
    return ⟨snapshotID backendName memberZFS, s.string, size,
      some ((member.bind creationTime).getD created), true⟩ :: others

namespace Registry

variable (r : Registry)

def createGroupSnapshot (sources : List ID) (name : String) : M GroupSnapshot := do
  let parent ← Prog.ofExcept (r.groupParent sources)
  let backendName := (sources.head?.map (·.backend)).getD ""
  let c ← r.client backendName
  let anchor ← ensureAnchor c parent name sources
  let created := (anchor.bind Backend.creationTime).getD (.clock r.env.now)
  let members ← groupMembers c backendName name created sources
  return ⟨snapshotID backendName (parent ++ "@" ++ name), members, some created, true⟩

end Registry

def groupSnapshots (groupZFS : String) : M (List Appliance.Snapshot) := do
  let (parent, name) := splitSnapshotID groupZFS
  let snaps ← c.snapshotList parent
  return (snaps.filter (inGroup parent name)).map fun s => { s with dataset := snapshotDataset s }

/-- A named member is the group's. -/
def validateGroupMembers (groupID backendName groupZFS : String) : List String → Except Err Unit
  | [] => .ok ()
  | m :: rest =>
    match parseSnapshotID m with
    | .error e => .error e
    | .ok (mBackend, mZFS) =>
      let (parent, name) := splitSnapshotID groupZFS
      let (ds, mName) := splitSnapshotID mZFS
      if mBackend ≠ backendName ∨ mName ≠ name ∨ startsWith ds (parent ++ "/") = false then
        .error (.status .invalidArgument ("snapshot " ++ m ++ " is not a member of group snapshot " ++
          groupID))
      else validateGroupMembers groupID backendName groupZFS rest

def foundMembers (c : Client) (backendName parent : String) :
    List Appliance.Snapshot → M (List Snapshot)
  | [] => return []
  | s :: rest => do
    if s.dataset = parent then foundMembers c backendName parent rest
    else
      let size ← provisionedBytes c (some s) s.dataset
      let others ← foundMembers c backendName parent rest
      return ⟨snapshotID backendName s.id, s.dataset, size, creationTime s, true⟩ :: others

def deleteSnapshots (c : Client) : List Appliance.Snapshot → M Unit
  | [] => return ()
  | s :: rest => do
    c.snapshotDelete s.id
    deleteSnapshots c rest

/-- The longest id first, so that the anchor is last. -/
def childrenFirst (found : List Appliance.Snapshot) : List Appliance.Snapshot :=
  found.insertionSort fun a b => a.id.utf8ByteSize ≥ b.id.utf8ByteSize

def blockedBy (all : List Appliance.Dataset) (found : List Appliance.Snapshot) : List String :=
  found.flatMap fun s => (all.filter fun ds => ds.origin != "" && ds.origin == s.id).map (·.id)

namespace Registry

variable (r : Registry)

variable (id : String) (memberIDs : List String)

def getGroupSnapshot : M GroupSnapshot := do
  let (backendName, groupZFS) ← Prog.ofExcept (parseSnapshotID id)
  Prog.ofExcept (validateGroupMembers id backendName groupZFS memberIDs)
  let c ← r.client backendName
  let found ← groupSnapshots c groupZFS
  if found = [] then
    throw (.status .notFound ("group snapshot " ++ id ++ " does not exist"))
  else
    let parent := (splitSnapshotID groupZFS).1
    let members ← foundMembers c backendName parent found
    let anchor := (found.filter fun s => s.dataset == parent).getLast?
    return ⟨id, if memberIDs = [] then members else members.filter (·.id ∈ memberIDs),
      anchor.bind Backend.creationTime, true⟩

/-- Refuses if there are clones, and deletes the anchor last. -/
def deleteGroupSnapshot : M Unit := do
  let (backendName, groupZFS) ← Prog.ofExcept (parseSnapshotID id)
  Prog.ofExcept (validateGroupMembers id backendName groupZFS memberIDs)
  let c ← r.client backendName
  let found ← groupSnapshots c groupZFS
  if found = [] then return ()
  else
    let all ← c.datasetList (poolOf (splitSnapshotID groupZFS).1)
    let blocked := blockedBy all found
    if blocked ≠ [] then
      throw (.status .failedPrecondition ("group snapshot " ++ id ++
        " still has dependent volume(s) " ++ listed (blocked.insertionSort (· ≤ ·)) ++
        "; delete them first"))
    else deleteSnapshots c (childrenFirst found)

end Registry

end TruenasCsi.Backend
