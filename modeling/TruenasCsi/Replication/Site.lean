import TruenasCsi.Appliance.Dataset
import TruenasCsi.Replication.Group

/-! An appliance also holds snapshot and replication tasks. -/

namespace TruenasCsi.Replication

open Appliance

inductive ReadonlyPolicy where
  | set
  | ignore
deriving DecidableEq

structure ReplicationSpec where
  name : String
  direction : String := "PUSH"
  transport : String := "SSH"
  sshCredentials : Int
  sourceDatasets : List String
  targetDataset : String
  recursive : Bool := false
  auto : Bool
  periodicSnapshotTasks : List Nat := []
  restrictSchedule : Option Cron := none
  retentionPolicy : String
  readonly : ReadonlyPolicy
  allowFromScratch : Bool
  enabled : Bool
deriving DecidableEq

structure ReplicationTask extends ReplicationSpec where
  id : Nat
  /-- The state of the last run, and its error. -/
  state : String := "PENDING"
  error : String := ""
deriving DecidableEq

structure SnapshotTaskSpec where
  dataset : String
  recursive : Bool := false
  namingSchema : String
  lifetime : Retention
  enabled : Bool := true
  allowEmpty : Bool := true
  schedule : Cron
deriving DecidableEq

structure SnapshotTask extends SnapshotTaskSpec where
  id : Nat
deriving DecidableEq

/-- The replication tasks, with distinct names. -/
structure TaskTable where
  rows : List ReplicationTask
  distinct : (rows.map (·.name)).Nodup

namespace TaskTable

def empty : TaskTable := ⟨[], List.nodup_nil⟩

variable (t : TaskTable)

def named (name : String) : Option ReplicationTask :=
  t.rows.find? fun task => task.name == name

def withID (id : Nat) : Option ReplicationTask :=
  t.rows.find? fun task => task.id == id

theorem named_eq_none {t : TaskTable} {name : String} :
    t.named name = none ↔ ∀ task ∈ t.rows, task.name ≠ name := by
  simp [named]

/-- A new task goes last; a taken name is refused. -/
def insert (task : ReplicationTask) (free : t.named task.name = none) : TaskTable where
  rows := t.rows ++ [task]
  distinct := by
    rw [List.map_append, List.nodup_append]
    refine ⟨t.distinct, by simp, ?_⟩
    intro name member other single same
    obtain ⟨row, present, rfl⟩ := List.mem_map.mp member
    obtain rfl : other = task.name := by simpa using single
    exact named_eq_none.mp free row present same

def modify (f : ReplicationTask → ReplicationTask)
    (keeps : ∀ task, (f task).name = task.name) : TaskTable where
  rows := t.rows.map f
  distinct := by
    have same : (fun task : ReplicationTask => task.name) ∘ f = (·.name) := funext keeps
    rw [List.map_map, same]
    exact t.distinct

def delete (id : Nat) : TaskTable where
  rows := t.rows.filter fun task => task.id != id
  distinct := t.distinct.sublist (List.filter_sublist.map _)

end TaskTable

/-- An appliance as replication sees it. -/
structure Site where
  storage : Storage := {}
  replications : TaskTable := .empty
  snapshotTasks : List SnapshotTask := []
  nextID : Nat := 1
  /-- When the contents were last written by the user. -/
  written : String → Int := fun _ => 0
  /-- Where an SSH credential leads. -/
  peer : Int → Option String := fun _ => none

inductive Op where
  | dataset (op : DatasetOp)
  | promote (id : String)
  | snapshotsOf (dataset : String)
  | replicationQuery (name : String)
  | replicationCreate (spec : ReplicationSpec)
  | replicationUpdate (id : Nat) (enabled : Bool)
  | replicationDelete (id : Nat)
  | replicationRun (id : Nat)
  | snapshotTaskQuery (dataset : String)
  | snapshotTaskCreate (spec : SnapshotTaskSpec)
  | snapshotTaskUpdate (id : Nat) (enabled : Bool)
  | snapshotTaskDelete (id : Nat)

@[reducible] def Op.Answer : Op → Type
  | .dataset op => op.Answer
  | .promote _ => Unit
  | .snapshotsOf _ => List Snapshot
  | .replicationQuery _ => List ReplicationTask
  | .replicationCreate _ => ReplicationTask
  | .replicationUpdate _ _ => Unit
  | .replicationDelete _ => Unit
  | .replicationRun _ => Unit
  | .snapshotTaskQuery _ => List SnapshotTask
  | .snapshotTaskCreate _ => SnapshotTask
  | .snapshotTaskUpdate _ _ => Unit
  | .snapshotTaskDelete _ => Unit

/-- Promotion swaps a clone with its origin. -/
def promoted (s : Storage) (id : String) (d : DatasetState) (origin : SnapshotState) : Storage :=
  let other := origin.dataset
  let inherited := ((s.datasets.get? other).map (·.origin)).getD ""
  let turned := (s.datasets.get? other).map fun o => { o with origin := id ++ "@" ++ origin.name }
  { s with
    datasets := (match turned with
      | some o => s.datasets.set other o
      | none => s.datasets).set id { d with origin := inherited }
    snapshots := s.snapshots.map fun snap =>
      if snap.dataset = other ∧ snap.createTXG ≤ origin.createTXG then { snap with dataset := id }
      else snap }

/-- The clone takes over the snapshots it came from. -/
def promote (s : Storage) (id : String) : Except Err Unit × Storage :=
  match s.datasets.get? id with
  | none => (.error (.call "pool.dataset.promote" "EINVAL" ("[ENOENT] " ++ id ++
      " does not exist")), s)
  | some d =>
    match s.snapshot? d.origin with
    | none => (.error (.call "pool.dataset.promote" "EBADMSG" "[EBADMSG] not a cloned filesystem"), s)
    | some origin => (.ok (), promoted s id d origin)

def olderFirst (a b : SnapshotState) : Prop := a.createTXG ≤ b.createTXG

instance : DecidableRel olderFirst := fun a b => inferInstanceAs (Decidable (a.createTXG ≤ b.createTXG))

namespace Site

def snapshotsOf (s : Site) (dataset : String) : List SnapshotState :=
  (s.storage.snapshots.filter fun snap => snap.dataset == dataset).insertionSort olderFirst

variable (method : String) (id : Nat) (enabled : Bool) (task : ReplicationTask)

def replicationMissing : Err :=
  .call method "EINVAL" ("[ENOENT] replication task " ++ toString id ++ " does not exist")

def snapshotTaskMissing : Err :=
  .call method "EINVAL" ("[ENOENT] snapshot task " ++ toString id ++ " does not exist")

def setEnabled : ReplicationTask :=
  if task.id = id then { task with enabled := enabled } else task

theorem setEnabled_name : (setEnabled id enabled task).name = task.name := by
  unfold setEnabled
  split_ifs <;> rfl

/-- A run of a task needs both appliances. -/
def act : (op : Op) → Site → Except Err op.Answer × Site
  | .dataset op, s => ((Storage.act op s.storage).1, { s with storage := (Storage.act op s.storage).2 })
  | .promote id, s => ((Replication.promote s.storage id).1,
      { s with storage := (Replication.promote s.storage id).2 })
  | .snapshotsOf dataset, s =>
    (.ok ((s.storage.snapshots.filter fun snap => snap.dataset == dataset).map
      Storage.snapshotView), s)
  | .replicationQuery name, s => (.ok (s.replications.named name).toList, s)
  | .replicationCreate spec, s =>
    if free : s.replications.named spec.name = none then
      let task : ReplicationTask := { spec with id := s.nextID }
      (.ok task, { s with
        replications := s.replications.insert task free
        nextID := s.nextID + 1 })
    else
      (.error (.call "replication.create" "EINVAL"
        "[EEXIST] replication_create.name: Object with this name already exists"), s)
  | .replicationUpdate id enabled, s =>
    if (s.replications.withID id).isNone then
      (.error (replicationMissing "replication.update" id), s)
    else (.ok (), { s with
      replications := s.replications.modify (setEnabled id enabled) (setEnabled_name id enabled) })
  | .replicationDelete id, s =>
    if (s.replications.withID id).isNone then
      (.error (replicationMissing "replication.delete" id), s)
    else (.ok (), { s with replications := s.replications.delete id })
  | .replicationRun _, s => (.ok (), s)
  | .snapshotTaskQuery dataset, s =>
    (.ok (s.snapshotTasks.filter fun task => task.dataset == dataset), s)
  | .snapshotTaskCreate spec, s =>
    if (s.storage.datasets.get? spec.dataset).isNone then
      (.error (.call "pool.snapshottask.create" "EINVAL"
        "[EINVAL] pool_snapshottask_create.dataset: Dataset not found"), s)
    else
      let task : SnapshotTask := { spec with id := s.nextID }
      (.ok task, { s with snapshotTasks := s.snapshotTasks ++ [task], nextID := s.nextID + 1 })
  | .snapshotTaskUpdate id enabled, s =>
    if s.snapshotTasks.all (fun task => task.id != id) then
      (.error (snapshotTaskMissing "pool.snapshottask.update" id), s)
    else (.ok (), { s with
      snapshotTasks := s.snapshotTasks.map fun task =>
        if task.id = id then { task with enabled := enabled } else task })
  | .snapshotTaskDelete id, s =>
    if s.snapshotTasks.all (fun task => task.id != id) then
      (.error (snapshotTaskMissing "pool.snapshottask.delete" id), s)
    else (.ok (), { s with snapshotTasks := s.snapshotTasks.filter fun task => task.id != id })

end Site

def leaf (path : String) : String := (Text.split '/' path).getLastD ""

/-- Where a task puts a source dataset on the target. -/
def landing (task : ReplicationTask) (source : String) : String :=
  task.targetDataset ++ "/" ++ leaf source

/-- The same snapshot on two appliances. -/
def sameSnapshot (a b : SnapshotState) : Bool := a.name == b.name && a.creation == b.creation

/-- The newest snapshot both sides have; without one a transfer starts over. -/
def commonSnapshot (sent held : List SnapshotState) : Option SnapshotState :=
  held.reverse.find? fun h => sent.any (sameSnapshot h)

def laterThan (common : SnapshotState) (sent : List SnapshotState) : List SnapshotState :=
  (sent.dropWhile fun s => !sameSnapshot common s).tail

def renumbered (path : String) : Nat → List SnapshotState → List SnapshotState
  | _, [] => []
  | txg, s :: rest => { s with dataset := path, createTXG := txg } :: renumbered path (txg + 1) rest

namespace Site

def readonlyProperty : String := "readonly"

def lock (policy : ReadonlyPolicy) (d : DatasetState) : DatasetState :=
  match policy with
  | .set => { d with zfsProperties := d.zfsProperties.set readonlyProperty "ON" }
  | .ignore => d

/-- Rolled back to `kept`, given `arrived`. -/
def restream (s : Site) (path : String) (d : DatasetState) (kept arrived : List SnapshotState) :
    Site :=
  let incoming := renumbered path s.storage.txg arrived
  let now := kept ++ incoming
  { s with
    storage := { s.storage with
      datasets := s.storage.datasets.set path d
      snapshots := (s.storage.snapshots.filter fun snap => snap.dataset != path) ++ now
      txg := s.storage.txg + incoming.length }
    written := Function.update s.written path ((now.getLast?.map (·.creation)).getD 0) }

/-- Receive the stream of one source dataset. -/
def receive (task : ReplicationTask) (sender : Site) (source : String) (s : Site) :
    Except Err Unit × Site :=
  match sender.storage.datasets.get? source with
  | none => (.error (.call "replication.run" "EFAULT" ("[EFAULT] Dataset " ++ source ++
      " does not exist")), s)
  | some original =>
    let path := landing task source
    let sent := sender.snapshotsOf source
    let held := s.snapshotsOf path
    match s.storage.datasets.get? path with
    | none => (.ok (), s.restream path (lock task.readonly { original with
        origin := "", mountpoint := "/mnt/" ++ path }) [] sent)
    | some d =>
      match commonSnapshot sent held with
      | some common =>
        (.ok (), s.restream path (lock task.readonly d)
          (held.filter fun h => h.createTXG ≤ common.createTXG) (laterThan common sent))
      | none =>
        if task.allowFromScratch then (.ok (), s.restream path (lock task.readonly d) [] sent)
        else (.error (.call "replication.run" "EFAULT" ("[EFAULT] No incremental base on dataset " ++
          source ++ " and replication from scratch is not allowed")), s)

def receiveAll (task : ReplicationTask) (sender : Site) : List String → Site → Except Err Unit × Site
  | [], s => (.ok (), s)
  | source :: rest, s =>
    let first := receive task sender source s
    let others := receiveAll task sender rest first.2
    (match first.1 with
      | .error e => .error e
      | .ok () => others.1, others.2)

end Site

end TruenasCsi.Replication
