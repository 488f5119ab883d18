import TruenasCsi.Backend.GroupSnapshots
import TruenasCsi.Csi.Controller

/-! The service that snapshots several volumes at once. -/

namespace TruenasCsi.Csi

def snapshotChar (c : Char) : Bool :=
  ('a' ≤ c && c ≤ 'z') || ('A' ≤ c && c ≤ 'Z') || ('0' ≤ c && c ≤ '9') ||
    c == '-' || c == '_' || c == '.' || c == ':'

def maxSnapshotName : Nat := 200

def sanitiseSnapshotName (n : String) : String :=
  String.ofList (((Text.trimSpace n).toList.map
    fun c => if snapshotChar c then c else '-').take maxSnapshotName)

theorem sanitiseSnapshotName_clean (n : String) : '@' ∉ (sanitiseSnapshotName n).toList := by
  intro member
  rw [sanitiseSnapshotName, String.toList_ofList] at member
  obtain ⟨c, -, same⟩ := List.mem_map.mp (List.mem_of_mem_take member)
  split_ifs at same with good
  · rw [same] at good
    exact absurd good (by decide)
  · exact absurd same (by decide)

structure CreateGroupRequest where
  name : String
  sourceVolumeIds : List String

structure DeleteGroupRequest where
  groupSnapshotId : String
  snapshotIds : List String

/-- Run an RPC of the group service locked. -/
def withGroupLock {α : Type} (key : String) (body : M α) : M α := do
  if ← process (.tryAcquire ("/" ++ key)) then
    let result ← body.attempt
    process (.release ("/" ++ key))
    Prog.ofExcept result
  else throw (.status .aborted ("another operation is in progress for group snapshot " ++ key))

def parseSources : List String → Except Err (List Volume.ID)
  | [] => .ok []
  | raw :: rest =>
    match Volume.parseID raw with
    | .error _ => .error (.status .notFound ("unknown source volume " ++ Text.quote raw))
    | .ok id => (parseSources rest).map (id :: ·)

namespace Controller

variable (c : Controller)

def requireAllExist : List Volume.ID → M Unit
  | [] => return ()
  | id :: rest => do
    c.requireVolumeExists id
    requireAllExist rest

def createGroupLocked (sources : List Volume.ID) (name : String) : M Backend.GroupSnapshot := do
  withStatus (Prog.ofExcept ((c.reg.groupParent sources).map fun _ => ()))
  c.requireAllExist sources
  withStatus (c.reg.createGroupSnapshot sources name)

def createVolumeGroupSnapshot (req : CreateGroupRequest) : M Backend.GroupSnapshot :=
  if req.name = "" then throw (.status .invalidArgument "group snapshot name is required")
  else if req.sourceVolumeIds = [] then
    throw (.status .invalidArgument "source volume ids are required")
  else do
    let sources ← Prog.ofExcept (parseSources req.sourceVolumeIds)
    let name := sanitiseSnapshotName req.name
    withGroupLock name (c.createGroupLocked sources name)

def deleteVolumeGroupSnapshot (req : DeleteGroupRequest) : M Unit :=
  if req.groupSnapshotId = "" then
    throw (.status .invalidArgument "group snapshot id is required")
  else
    match Backend.parseSnapshotID req.groupSnapshotId with
    -- An id that does not parse cannot name a group this driver made.
    | .error _ => return ()
    | .ok _ => withGroupLock req.groupSnapshotId
        (withStatus (c.reg.deleteGroupSnapshot req.groupSnapshotId req.snapshotIds))

end Controller

end TruenasCsi.Csi
