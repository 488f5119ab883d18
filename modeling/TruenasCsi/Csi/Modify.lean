import TruenasCsi.Csi.Requests

/-! A closed list of native properties may be changed. -/

namespace TruenasCsi.Csi

open Appliance Text

structure MutableProperty where
  name : String
  /-- A property that a zvol does not have. -/
  filesystemOnly : Bool := false
  values : List String
  why : String

def inheritValue : String := "INHERIT"

def compressionValues : List String :=
  ["ON", "OFF", "LZ4", "GZIP", "GZIP-1", "GZIP-9", "ZSTD", "ZSTD-FAST", "ZLE", "LZJB", inheritValue] ++
  ((List.range 19).map fun i => "ZSTD-" ++ toString (i + 1)) ++
  ([1, 2, 3, 4, 5, 6, 7, 8, 9, 10, 20, 30, 40, 50, 60, 70, 80, 90, 100, 500, 1000].map
    fun n : Nat => "ZSTD-FAST-" ++ toString n)

def mutableProperties : List MutableProperty := [
  { name := "sync"
    values := ["STANDARD", "ALWAYS", "DISABLED", inheritValue]
    why := "synchronous write behaviour; DISABLED trades durability across a power " ++
      "failure for write throughput" },
  { name := "compression"
    values := compressionValues
    why := "compression algorithm applied to blocks written from now on" },
  { name := "atime"
    filesystemOnly := true
    values := ["ON", "OFF", inheritValue]
    why := "whether reading a file writes back its access time; a zvol has no " ++
      "filenames and therefore no atime" },
  { name := "recordsize"
    filesystemOnly := true
    values := ["512", "1K", "2K", "4K", "8K", "16K", "32K", "64K", "128K", "256K", "512K", "1M",
      "2M", "4M", "8M", "16M", inheritValue]
    why := "the block size ZFS uses for files written from now on; the zvol " ++
      "equivalent is volblocksize, which cannot be changed after creation" }]

def lookupMutableProperty (name : String) : Option MutableProperty :=
  mutableProperties.find? fun p => p.name == name

def mutablePropertyNames : List String := sortedSet (mutableProperties.map (·.name))

/-- The properties to change, in the order of names. -/
abbrev Modification := List (String × String)

def parseProperty (key value : String) : Except Err (String × String) :=
  match lookupMutableProperty key with
  | none => .error (.status .invalidArgument ("volume attribute " ++ quote key ++
      " is not one this driver will change; supported: " ++ join ", " mutablePropertyNames))
  | some p =>
    let want := String.ofList ((trimSpace value).toList.map Label.upperChar)
    if want ∈ p.values then .ok (key, want)
    else .error (.status .invalidArgument ("volume attribute " ++ quote key ++
      " does not accept the value " ++ quote value ++ " (" ++ p.why ++ "); accepted: " ++
      join ", " (sortedSet p.values)))

def parseModification (mutable : Dict String) : Except Err Modification :=
  (sortedSet mutable.keys).mapM fun key => parseProperty key (mutable.getD key "")

def equalFold (a b : String) : Bool := a.toList.map Char.toLower == b.toList.map Char.toLower

/-- Whether a dataset is at the requested value. -/
def propertyMatches (ds : Dataset) (key want : String) : Bool :=
  let current := ds.zfsProperty key
  if want = inheritValue then current.source != "" && current.source != "LOCAL"
  else equalFold current.value want

def patchEntry (ds : Dataset) (entry : String × String) : Except Err (List (String × String)) :=
  let (key, want) := entry
  match lookupMutableProperty key with
  | some p =>
    if p.filesystemOnly && ds.type == .volume then
      .error (.status .invalidArgument ("volume attribute " ++ quote key ++ " cannot be set on " ++
        ds.id ++ ": it is a zvol, and " ++ key ++ " applies only to filesystem datasets (" ++ p.why ++
        ")"))
    else .ok (if propertyMatches ds key want then [] else [entry])
  | none => .ok (if propertyMatches ds key want then [] else [entry])

/-- The requested properties that are not there yet. -/
def patch (mod : Modification) (ds : Dataset) : Except Err (List (String × String)) :=
  List.flatten <$> mod.mapM (patchEntry ds)

def requireOwned (ds : Dataset) : Except Err Unit :=
  match Truenas.verifyOwned ds with
  | .ok () => .ok ()
  | .error e => .error (.status .failedPrecondition e.text)

namespace Controller

variable (c : Controller)

def volumeDataset (id : Volume.ID) : M Dataset := do
  match c.reg.backends.get? id.backend with
  | none => throw (.status .notFound (Backend.Registry.unknownBackend id.backend))
  | some b =>
    (Prog.ofExcept (Volume.confine id b.pool b.parentDataset)).mapError
      fun _ => .status .notFound ("unknown volume " ++ id.string)
    let cl ← withStatus (c.reg.client id.backend)
    match ← withStatus (cl.datasetQuery id.datasetPath) with
    | some ds => return ds
    | none => throw (.status .notFound ("volume " ++ id.string ++ " does not exist"))

/-- One update with what differs, or none. -/
def applyModification (id : Volume.ID) (ds : Dataset) (mod : Modification) : M Unit :=
  if mod.isEmpty then return ()
  else do
    Prog.ofExcept (requireOwned ds)
    let changes ← Prog.ofExcept (patch mod ds)
    if changes.isEmpty then return ()
    else
      let cl ← withStatus (c.reg.client id.backend)
      let _ ← (cl.datasetUpdate id.datasetPath { zfsProperties := changes }).mapError
        fun e => .status .internal ("setting " ++ join ", " (changes.map Prod.fst) ++ " on " ++
          id.datasetPath ++ ": " ++ e.text)

def controllerModifyVolume (volumeId : String) (mutable : Dict String) : M Unit :=
  if volumeId = "" then throw (.status .invalidArgument "volume id is required")
  else do
    let mod ← Prog.ofExcept (parseModification mutable)
    let id ← (Prog.ofExcept (Volume.parseID volumeId)).mapError fun _ => unknownVolume volumeId
    withVolumeLock id do
      let ds ← c.volumeDataset id
      c.applyModification id ds mod

end Controller

end TruenasCsi.Csi
