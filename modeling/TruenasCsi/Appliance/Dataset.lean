import TruenasCsi.Volume.Ownership

/-! The `pool.*` part of the middleware: datasets and snapshots. -/

namespace TruenasCsi.Appliance

open Text Volume

inductive DatasetType where
  | filesystem
  | volume
deriving DecidableEq

/-- One dataset: what is set on it itself. -/
structure DatasetState where
  type : DatasetType
  mountpoint : String := ""
  volSize : Int := 0
  refQuota : Int := 0
  quota : Int := 0
  used : Int := 0
  available : Int := 0
  origin : String := ""
  sparse : Bool := false
  volBlockSize : String := ""
  shareType : String := ""
  userProperties : Dict String := ∅
  /-- The native properties set here. -/
  zfsProperties : Dict String := ∅

structure SnapshotState where
  dataset : String
  name : String
  createTXG : Nat
  creation : Int
  volSize : Int
  type : DatasetType

def SnapshotState.id (s : SnapshotState) : String := s.dataset ++ "@" ++ s.name

structure PoolState where
  status : String
  healthy : Bool
  size : Int
  free : Int
  recommendedZvolBlocksize : String

structure Storage where
  pools : Dict PoolState := ∅
  datasets : Dict DatasetState := ∅
  snapshots : List SnapshotState := []
  /-- Mode, owner and access list set on a path. -/
  perms : Dict (String × Int × Int) := ∅
  acls : Dict (List (String × String × String) × Int × Int) := ∅
  /-- What the next snapshot is stamped with. -/
  clock : Int := 0
  txg : Nat := 0

structure Dataset where
  id : String
  type : DatasetType
  mountpoint : String
  volSize : Int
  refQuota : Int
  used : Int
  available : Int
  origin : String
  userProperties : String → Option Property
  zfsProperty : String → Property

structure Snapshot where
  id : String
  name : String
  dataset : String
  createTXG : Nat
  creation : Int
  volSize : Int

structure Pool where
  name : String
  status : String
  healthy : Bool
  size : Int
  free : Int

structure DatasetSpec where
  name : String
  type : DatasetType
  volSize : Int := 0
  refQuota : Int := 0
  sparse : Bool := false
  volBlockSize : String := ""
  shareType : String := ""
  userProperties : List (String × String) := []

/-- The fields of a `pool.dataset.update` payload. -/
structure DatasetPatch where
  volSize : Option Int := none
  refQuota : Option Int := none
  quota : Option Int := none
  userPropertiesUpdate : List (String × String) := []
  /-- Native properties, by their middleware names. -/
  zfsProperties : List (String × String) := []
deriving DecidableEq

inductive DatasetOp where
  | create (spec : DatasetSpec)
  | query (id : String)
  | list (start : String)
  | update (id : String) (patch : DatasetPatch)
  | rename (id newName : String) (force : Bool)
  | delete (id : String) (recursive force : Bool)
  | recommendedZvolBlocksize (pool : String)
  | poolQuery (name : String)
  | snapshotCreate (dataset name : String) (recursive : Bool)
  | snapshotQuery (id : String)
  | snapshotList (start : String)
  | snapshotDelete (id : String)
  | snapshotClone (snapshot dst : String) (props : List (String × String))
  | setPerm (path mode : String) (uid gid : Int)
  | setACL (path : String) (entries : List (String × String × String)) (uid gid : Int)

namespace DatasetOp

@[reducible] def Answer : DatasetOp → Type
  | create _ => Dataset
  | query _ => List Dataset
  | list _ => List Dataset
  | update _ _ => Dataset
  | rename _ _ _ => Unit
  | delete _ _ _ => Unit
  | recommendedZvolBlocksize _ => String
  | poolQuery _ => List Pool
  | snapshotCreate _ _ _ => Snapshot
  | snapshotQuery _ => List Snapshot
  | snapshotList _ => List Snapshot
  | snapshotDelete _ => Unit
  | snapshotClone _ _ _ => Unit
  | setPerm _ _ _ _ => Unit
  | setACL _ _ _ _ => Unit

end DatasetOp

/-- The path is the root or in its subtree. -/
def atOrBelow (root path : String) : Bool := path == root || startsWith path (root ++ "/")

def parentOf (path : String) : Option String :=
  match (split '/' path).dropLast with
  | [] => none
  | parts => some (join "/" parts)

/-- The nearest value on the way up. -/
def nearest (set? : DatasetState → Option String) (datasets : Dict DatasetState) :
    List String → Option (String × String)
  | [] => none
  | last :: rest =>
    let path := join "/" (last :: rest).reverse
    match (datasets.get? path).bind set? with
    | some value => some (path, value)
    | none => nearest set? datasets rest

namespace Storage

variable (s : Storage) (method path : String) (snap : SnapshotState) (src : String)
  (d : DatasetState) (root : String) (patch : DatasetPatch) (dst id name dataset : String)

/-- A property that is not set on a dataset is inherited from the nearest one above. -/
def userProperty (key : String) : Option Property :=
  (nearest (fun d => d.userProperties.get? key) s.datasets (split '/' path).reverse).map
    fun found => ⟨found.2, sourceLocal⟩

def zfsDefault : String → String
  | "sync" => "STANDARD"
  | "compression" => "LZ4"
  | "atime" => "OFF"
  | "recordsize" => "128K"
  | _ => ""

def zfsProperty : Property :=
  match nearest (fun d => d.zfsProperties.get? name) s.datasets (split '/' path).reverse with
  | none => ⟨zfsDefault name, "DEFAULT"⟩
  | some (setOn, value) => ⟨value, if setOn = path then "LOCAL" else "INHERITED"⟩

/-- A dataset as the middleware shows it: inherited properties look like its own. -/
def view : Dataset where
  id := path
  type := d.type
  mountpoint := d.mountpoint
  volSize := d.volSize
  refQuota := d.refQuota
  used := d.used
  available := d.available
  origin := d.origin
  userProperties := s.userProperty path
  zfsProperty := s.zfsProperty path

def dataset? : Option Dataset :=
  (s.datasets.get? path).map (s.view path)

def children : List String :=
  s.datasets.keys.filter fun p => startsWith p (path ++ "/")

def snapshotView : Snapshot :=
  ⟨snap.id, snap.name, snap.dataset, snap.createTXG, snap.creation, snap.volSize⟩

def snapshot? : Option SnapshotState :=
  s.snapshots.find? fun snap => snap.id == id

/-- Outside datasets cloned from a snapshot inside. -/
def outsideClones : List String :=
  s.datasets.keys.filter fun p => !atOrBelow root p &&
    s.snapshots.any fun snap => atOrBelow root snap.dataset &&
      ((s.datasets.get? p).any fun d => d.origin == snap.id)

private def missing : Err :=
  .call method "EINVAL" ("[ENOENT] " ++ id ++ " does not exist")

@[simp] theorem missing_isNotFound : (missing method id).isNotFound = true := by
  refine startsWith_iff.mpr ⟨" " ++ id ++ " does not exist", ?_⟩
  rw [String.append_assoc, String.append_assoc, ← String.append_assoc]
  rfl

def newDataset (spec : DatasetSpec) : DatasetState :=
  match spec.type with
  | .volume => {
      type := .volume, volSize := spec.volSize, sparse := spec.sparse
      volBlockSize := spec.volBlockSize, shareType := spec.shareType
      userProperties := .ofList spec.userProperties }
  | .filesystem => {
      type := .filesystem, mountpoint := "/mnt/" ++ spec.name
      refQuota := if spec.refQuota > 0 then spec.refQuota else 0
      shareType := spec.shareType, userProperties := .ofList spec.userProperties }

/-- Why nothing can be made at a path: it is taken, or its parent is missing. -/
def refuseNew : Option Err :=
  if (s.datasets.get? path).isSome then
    some (.call method "EINVAL" ("[EEXIST] Path " ++ path ++ " already exists"))
  else
    match parentOf path with
    | none => some (.call method "EINVAL" "[EINVAL] a dataset needs a parent")
    | some parent =>
      if (s.datasets.get? parent).isSome then none
      else some (.call method "EINVAL" (method ++ ".name: Parent dataset (" ++ parent ++
        ") does not exist"))

def put : Storage :=
  { s with datasets := s.datasets.set path d }

/-- `INHERIT` takes a native property off again. -/
def setZfs (m : Dict String) (entry : String × String) : Dict String :=
  if entry.2 = "INHERIT" then m.delete entry.1 else m.set entry.1 entry.2

def patched : DatasetState :=
  { d with
    volSize := patch.volSize.getD d.volSize
    refQuota := patch.refQuota.getD d.refQuota
    quota := patch.quota.getD d.quota
    userProperties := d.userProperties.setAll patch.userPropertiesUpdate
    zfsProperties := patch.zfsProperties.foldl setZfs d.zfsProperties }

def misfit : Bool :=
  match d.type with
  | .filesystem => patch.volSize.isSome
  | .volume => patch.refQuota.isSome || patch.quota.isSome

/-- A patch the middleware refuses. -/
def refusePatch : Option Err :=
  if misfit d patch then
    some (.call "pool.dataset.update" "EINVAL"
      "[EINVAL] pool_dataset_update: this field is not valid for this type of dataset")
  else if d.type = .volume ∧ patch.volSize.any (· < d.volSize) then
    some (.call "pool.dataset.update" "EINVAL" "[EINVAL] volsize: cannot shrink a zvol")
  else if patch.userPropertiesUpdate.any (fun e => e.2.length > 1024) then
    some (.call "pool.dataset.update" "EINVAL"
      "[EINVAL] user_properties_update: String should have at most 1024 characters")
  else none

def moved (path : String) : String :=
  if atOrBelow src path then
    String.ofList (dst.toList ++ path.toList.drop src.toList.length)
  else path

def movedSnapshot : String :=
  match split '@' id with
  | [dataset, name] => moved src dst dataset ++ "@" ++ name
  | _ => id

def movedDataset (path : String) (d : DatasetState) : DatasetState :=
  { d with
    origin := movedSnapshot src dst d.origin
    mountpoint := if d.mountpoint = "/mnt/" ++ path then "/mnt/" ++ moved src dst path
      else d.mountpoint }

/-- A rename moves everything below, snapshots and origins included. -/
def renameTree : Storage :=
  { s with
    datasets := (s.datasets.entries.map fun e =>
      (⟨moved src dst e.1, movedDataset src dst e.1 e.2⟩ : Sigma fun _ : String => _)).toAList
    snapshots := s.snapshots.map fun snap => { snap with dataset := moved src dst snap.dataset } }

def deleteTree : Storage :=
  { s with
    datasets := s.datasets.filterKeys fun p => !atOrBelow root p
    snapshots := s.snapshots.filter fun snap => !atOrBelow root snap.dataset }

/-- What a snapshot covers. -/
def captured (recursive : Bool) : List String :=
  if recursive then s.datasets.keys.filter (atOrBelow dataset) else [dataset]

def newSnapshot : SnapshotState :=
  let d := (s.datasets.get? dataset).getD { type := .filesystem }
  ⟨dataset, name, s.txg, s.clock, d.volSize, d.type⟩

def cloneOf (props : List (String × String)) : DatasetState where
  type := snap.type
  mountpoint := if snap.type = .filesystem then "/mnt/" ++ dst else ""
  volSize := snap.volSize
  origin := snap.id
  zfsProperties := .ofList props

/-- One call on datasets or snapshots. -/
def act : (op : DatasetOp) → Storage → Except Err op.Answer × Storage
  | .create spec, s =>
    match s.refuseNew "pool.dataset.create" spec.name with
    | some e => (.error e, s)
    | none =>
      let s' := s.put spec.name (newDataset spec)
      (.ok (s'.view spec.name (newDataset spec)), s')
  | .query id, s => (.ok (s.dataset? id).toList, s)
  | .list start, s =>
    (.ok ((s.datasets.keys.filter fun p => startsWith p start).filterMap s.dataset?), s)
  | .update id patch, s =>
    match s.datasets.get? id with
    | none => (.error (missing "pool.dataset.update" id), s)
    | some d =>
      match refusePatch d patch with
      | some e => (.error e, s)
      | none =>
        let s' := s.put id (patched d patch)
        (.ok (s'.view id (patched d patch)), s')
  | .rename id newName force, s =>
    if (s.datasets.get? id).isNone then (.error (missing "pool.dataset.rename" id), s)
    else if !force then
      (.error (.call "pool.dataset.rename" "EINVAL" "[EINVAL] rename requires force"), s)
    else
      match s.refuseNew "pool.dataset.rename" newName with
      | some e => (.error e, s)
      | none => (.ok (), s.renameTree id newName)
  | .delete id recursive _, s =>
    if (s.datasets.get? id).isNone then (.error (missing "pool.dataset.delete" id), s)
    else if !recursive && !(s.children id == [] &&
        s.snapshots.all fun snap => !atOrBelow id snap.dataset) then
      (.error (.call "pool.dataset.delete" "EFAULT" "[EFAULT] dataset has children"), s)
    else if s.outsideClones id ≠ [] then
      (.error (.call "pool.dataset.delete" "EFAULT" "[EFAULT] dataset has dependent clones"), s)
    else (.ok (), s.deleteTree id)
  | .recommendedZvolBlocksize pool, s =>
    match s.pools.get? pool with
    | none => (.error (missing "pool.dataset.recommended_zvol_blocksize" pool), s)
    | some p => (.ok p.recommendedZvolBlocksize, s)
  | .poolQuery name, s =>
    (.ok ((s.pools.get? name).map fun p => ⟨name, p.status, p.healthy, p.size, p.free⟩).toList, s)
  | .snapshotCreate dataset name recursive, s =>
    if (s.datasets.get? dataset).isNone then
      (.error (.call "pool.snapshot.create" "EINVAL" ("[EINVAL] dataset " ++ dataset ++
        " not found")), s)
    else if (s.captured dataset recursive).any fun p => (s.snapshot? (p ++ "@" ++ name)).isSome then
      (.error (.call "pool.snapshot.create" "EINVAL" "[EEXIST] snapshot already exists"), s)
    else
      (.ok (snapshotView (s.newSnapshot name dataset)),
        { s with
          snapshots := s.snapshots ++ (s.captured dataset recursive).map (s.newSnapshot name)
          txg := s.txg + 1 })
  | .snapshotQuery id, s => (.ok ((s.snapshot? id).map snapshotView).toList, s)
  | .snapshotList start, s =>
    (.ok ((s.snapshots.filter fun snap => startsWith snap.dataset start).map snapshotView), s)
  | .snapshotDelete id, s =>
    if (s.snapshot? id).isNone then (.error (missing "pool.snapshot.delete" id), s)
    else if s.datasets.entries.any fun e => e.2.origin == id then
      (.error (.call "pool.snapshot.delete" "EFAULT" "[EFAULT] snapshot has dependent clones"), s)
    else (.ok (), { s with snapshots := s.snapshots.filter fun snap => snap.id != id })
  | .snapshotClone snapshot dst props, s =>
    match s.snapshot? snapshot with
    | none => (.error (missing "pool.snapshot.clone" snapshot), s)
    | some snap =>
      match s.refuseNew "pool.snapshot.clone" dst with
      | some e => (.error e, s)
      | none => (.ok (), s.put dst (cloneOf snap dst props))
  | .setPerm path mode uid gid, s => (.ok (), { s with perms := s.perms.set path (mode, uid, gid) })
  | .setACL path entries uid gid, s =>
    (.ok (), { s with acls := s.acls.set path (entries, uid, gid) })

@[simp] theorem misfit_properties (properties : List (String × String))
    (zfs : List (String × String)) :
    misfit d { userPropertiesUpdate := properties, zfsProperties := zfs } = false := by
  unfold misfit
  cases d.type <;> rfl

variable {s : Storage} {d : DatasetState} {set? : DatasetState → Option String} {path : String}

theorem act_error {op : DatasetOp} {e : Err} (refused : (act op s).1 = .error e) :
    (act op s).2 = s := by
  cases op <;> simp only [act] at refused ⊢ <;> (try split_ifs at refused ⊢) <;>
    (try split at refused) <;> (try split at refused) <;> simp_all

theorem nearest_congr {before after : Dict DatasetState}
    (same : ∀ path, (after.get? path).bind set? = (before.get? path).bind set?)
    (components : List String) : nearest set? after components = nearest set? before components := by
  induction components with
  | nil => rfl
  | cons last rest ih => rw [nearest, nearest, same, ih]

theorem nearest_own {datasets : Dict DatasetState}
    {value : String} (own : (datasets.get? path).bind set? = some value) :
    nearest set? datasets (split '/' path).reverse = some (path, value) := by
  cases components : (split '/' path).reverse with
  | nil => exact absurd components (by simp [split_ne_nil])
  | cons last rest =>
    have whole : join "/" (last :: rest).reverse = path := by
      rw [← components, List.reverse_reverse]
      exact join_split '/' path
    rw [nearest, whole, own]

theorem dataset?_of_get?
    (present : s.datasets.get? path = some d) : s.dataset? path = some (s.view path d) := by
  simp [dataset?, present]

theorem dataset?_put_self (s : Storage) (path : String) (d : DatasetState) :
    (s.put path d).dataset? path = some ((s.put path d).view path d) :=
  dataset?_of_get? (Dict.get?_set_self _ _ _)

theorem act_setProperty (s : Storage) (id key value : String) :
    (act (.update id { userPropertiesUpdate := [(key, value)] }) s).2 = s ∧
        (act (.update id { userPropertiesUpdate := [(key, value)] }) s).1.isOk = false ∨
      ∃ d, s.datasets.get? id = some d ∧
        (act (.update id { userPropertiesUpdate := [(key, value)] }) s).2 =
          s.put id { d with userProperties := d.userProperties.set key value } := by
  cases present : s.datasets.get? id with
  | none =>
    left
    simp [act, present, Except.isOk, Except.toBool]
  | some d =>
    by_cases long : value.length > 1024
    · left
      simp [act, present, refusePatch, long, Except.isOk, Except.toBool]
    · right
      refine ⟨d, rfl, ?_⟩
      simp [act, present, refusePatch, long, patched, Dict.setAll]

theorem userProperty_put_self {id key value : String}
    (own : d.userProperties.get? key = some value) :
    (s.put id d).userProperty id key = some ⟨value, sourceLocal⟩ := by
  unfold userProperty
  rw [nearest_own (by simpa [put] using own)]
  rfl

theorem userProperty_put_same {id : String} {d' : DatasetState}
    (present : s.datasets.get? id = some d) {key : String}
    (same : d'.userProperties.get? key = d.userProperties.get? key) (path : String) :
    (s.put id d').userProperty path key = s.userProperty path key := by
  unfold userProperty
  rw [nearest_congr]
  intro p
  by_cases here : p = id
  · subst here
    simp [put, present, same]
  · simp [put, Dict.get?_set_ne _ _ here]

end Storage

end TruenasCsi.Appliance
