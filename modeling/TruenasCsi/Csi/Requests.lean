import TruenasCsi.Csi.Controller
import TruenasCsi.Support.Edits

/-! The checks on a new volume that need nothing from the appliance. -/

namespace TruenasCsi.Csi

open Appliance (DatasetType)
open Text Volume Backend

def namespaceFor (b : Config) (params : Dict String) : String :=
  if !b.namespaceQuotas.enabled then ""
  else
    let ns := (identityFrom params).pvcNamespace
    if ns = "" then ""
    else
      match validateNamespace ns with
      | .ok () => ns
      | .error _ => ""

def backendFor (reg : Registry) (params : Dict String) : Except Err String :=
  match params.getD "backend" "", reg.names with
  | "", [only] => .ok only
  | "", _ => .error (.status .invalidArgument
      "storage class must set the 'backend' parameter when several backends are configured")
  | name, _ => .ok name

/-- The id of a new volume. -/
def resolveID (reg : Registry) (name : String) (params : Dict String) : Except Err ID := do
  let backendName ← backendFor reg params
  match reg.backends.get? backendName with
  | none => .error (.status .invalidArgument (Registry.unknownBackend backendName))
  | some b =>
    let pool := params.getD "pool" ""
    if pool ≠ "" ∧ pool ≠ b.pool then
      throw (.status .invalidArgument ("storage class pool " ++ quote pool ++
        " does not match backend " ++ quote backendName ++ " pool " ++ quote b.pool))
    let parent := params.getD "parentDataset" ""
    if parent ≠ "" ∧ parent ≠ b.parentDataset then
      throw (.status .invalidArgument ("storage class parentDataset " ++ quote parent ++
        " does not match backend " ++ quote backendName ++ " parentDataset " ++
        quote b.parentDataset))
    let proto := params.getD "protocol" ""
    if proto = "" then
      throw (.status .invalidArgument
        "storage class must set the 'protocol' parameter (nfs or iscsi)")
    let id : ID := ⟨backendName, proto, b.pool, b.parentDataset, namespaceFor b params, name⟩
    match confine id b.pool b.parentDataset with
    | .error e => .error (.status .invalidArgument e.text)
    | .ok () => .ok id

def capabilityForFS (fsType : String) : Option String :=
  if fsType ∈ ["ext4", "ext3", "ext2"] then some "ext4" else if fsType = "xfs" then some "xfs" else none

variable (protocol got : String) (accepted : List String) (caps : List VolumeCapability)
  (params : Dict String)

def supportedCapability (c : VolumeCapability) : Except Err Unit :=
  match c.accessType with
  | .block =>
    if accessClassOf protocol = .sharedFilesystem then
      .error (.status .invalidArgument ("protocol " ++ quote protocol ++
        " serves a filesystem and cannot provide a raw block device: use volumeMode: Filesystem, " ++
        "or a StorageClass whose protocol is iscsi or nvme"))
    else .ok ()
  | .unset => .ok ()
  | .mount fs =>
    if fs = "" ∨ (capabilityForFS fs).isSome then .ok ()
    else .error (.status .invalidArgument ("filesystem " ++ quote fs ++
      " is not supported by this driver; use ext4, ext3, ext2 or xfs"))

def requireSupportedCapabilities : Except Err Unit :=
  caps.forM (supportedCapability protocol)

def capabilityFSType : String :=
  (caps.findSome? fun c =>
    match c.accessType with
    | .mount fs => if fs = "" then none else some fs
    | _ => none).getD ""

def datasetTypeFor : DatasetType :=
  if protocol = "iscsi" ∨ protocol = "nvme" then .volume else .filesystem

/-- The filesystem a block volume will hold. -/
def blockFilesystemFor : String :=
  if datasetTypeFor protocol ≠ .volume then ""
  else if caps.any fun c => c.accessType == .block then ""
  else if capabilityFSType caps ≠ "" then capabilityFSType caps
  else "ext4"

def shape : DatasetType → String
  | .volume => "block volume"
  | .filesystem => "filesystem"

/-- A clone keeps the shape of its source. -/
def requireRestorableInto (source : Option DatasetType) (name : String) : Except Err Unit :=
  match source with
  | none => .ok ()
  | some type =>
    if type = datasetTypeFor protocol then .ok ()
    else .error (.status .invalidArgument ("source " ++ quote name ++ " is a " ++ shape type ++
      " and cannot become a " ++ quote protocol ++ " volume, which needs a " ++
      shape (datasetTypeFor protocol) ++ ": a ZFS clone keeps the shape of what it came from, so " ++
      "use a StorageClass whose protocol serves the same shape"))

def requireFilesystemMatches (want got source : String) : Except Err Unit :=
  if want = "" ∨ got = "" ∨ want = got then .ok ()
  else .error (.status .invalidArgument ("source " ++ quote source ++ " holds an " ++ got ++
    " filesystem and a ZFS clone copies it verbatim, so the volume cannot be " ++ want ++
    " as this StorageClass asks: restore it into a StorageClass whose fsType is " ++ got ++
    ", or create an empty volume and copy the data in"))

def commonParameters : List String :=
  ["backend", "protocol", "pool", "parentDataset", "fsType", "multipath"]

/-- The parameters that are for the node. -/
def nodeParameterKeys : List String :=
  ["bandwidthLimit", "readBandwidthLimit", "writeBandwidthLimit",
    "iopsLimit", "readIOPSLimit", "writeIOPSLimit"]

private def bytes (s : String) : List UInt8 := s.toList.flatMap String.utf8EncodeChar

/-- One row of the table after the one above. -/
def nextRow (a : UInt8) : List UInt8 → List Nat → Nat → List Nat
  | b :: rest, diagonal :: above :: row, left =>
    let entry := min (min (left + 1) (above + 1)) (diagonal + if a = b then 0 else 1)
    entry :: nextRow a rest (above :: row) entry
  | _, _, _ => []

/-- Levenshtein's distance, row by row. -/
def editDistance (a b : List UInt8) : Nat :=
  let last := a.foldl
    (fun (row : List Nat × Nat) c => ((row.2 :: nextRow c b row.1 row.2), row.2 + 1))
    (List.range (b.length + 1), 1)
  last.1.getLastD 0

section

variable (toLower : String → String)

/-- How far two keys are apart, in bytes and after lower-casing. -/
def gap (key : String) : Nat := editDistance (bytes (toLower got)) (bytes (toLower key))

/-- The closest of the accepted keys; of several, the first. -/
def closest : String × Nat :=
  accepted.foldl (fun best candidate =>
    if best.1 = "" ∨ gap got toLower candidate < best.2 then (candidate, gap got toLower candidate)
    else best) ("", 0)

/-- The key to suggest for a rejected one, or none. -/
def nearestParameter : String :=
  let best := closest got accepted toLower
  if best.2 > 0 ∧ best.2 ≤ 1 + (bytes got).length / 3 then best.1 else ""

/-- Close enough to be suggested, and not the rejected key in another case. -/
def Plausible (key : String) : Prop :=
  0 < gap got toLower key ∧ gap got toLower key ≤ 1 + (bytes got).length / 3

end

/-- The distances from `p` to growing prefixes. -/
inductive Row (p : List UInt8) : List UInt8 → List UInt8 → List Nat → Prop
  | nil (q : List UInt8) : Row p q [] []
  | cons {q rest : List UInt8} {b : UInt8} {d : Nat} {row : List Nat} :
    Edits.Distance d p (q ++ [b]) → Row p (q ++ [b]) rest row → Row p q (b :: rest) (d :: row)

section

variable {p q rest : List UInt8} {c : UInt8} {d left : Nat} {row : List Nat}

theorem Row.next (above : Row p q rest row) (diagonal : Edits.Distance d p q)
    (before : Edits.Distance left (p ++ [c]) q) :
    Row (p ++ [c]) q rest (nextRow c rest (d :: row) left) := by
  induction above generalizing d left with
  | nil q => exact .nil q
  | cons here _ ih =>
    have entry := Edits.distance_snoc diagonal before here
    exact .cons entry (ih here entry)

theorem Row.last (entries : Row p q rest row) (first : Edits.Distance d p q) :
    Edits.Distance ((d :: row).getLastD 0) p (q ++ rest) := by
  induction entries generalizing d with
  | nil q => simpa using first
  | cons here _ ih => simpa using ih here

theorem row_range (q rest : List UInt8) : Row [] q rest (List.range' (q.length + 1) rest.length) := by
  induction rest generalizing q with
  | nil => exact .nil q
  | cons b rest ih =>
    have here : Edits.Distance (q.length + 1) [] (q ++ [b]) := by
      simpa using Edits.distance_nil_left (q ++ [b])
    exact .cons here (by simpa using ih (q ++ [b]))

/-- The table after some of the first word. -/
theorem row_foldl (a b : List UInt8) (entries : Row p [] b row) :
    ∃ row', Row (p ++ a) [] b row' ∧ (a.foldl (fun (row : List Nat × Nat) c =>
      ((row.2 :: nextRow c b row.1 row.2), row.2 + 1)) (p.length :: row, p.length + 1)).1 =
        (p ++ a).length :: row' := by
  induction a generalizing p row with
  | nil => exact ⟨row, by simpa using entries, by simp⟩
  | cons c a ih =>
    have next := entries.next (Edits.distance_nil_right p)
      (by simpa using Edits.distance_nil_right (p ++ [c]))
    simpa using ih next

theorem distance_editDistance (a b : List UInt8) : Edits.Distance (editDistance a b) a b := by
  obtain ⟨row, entries, last⟩ := row_foldl a b (row_range [] b)
  have start : List.range (b.length + 1) = 0 :: List.range' 1 b.length := by
    rw [List.range_eq_range', List.range'_succ]
  have ended := entries.last (Edits.distance_nil_right a)
  simp only [List.nil_append, List.length_nil, Nat.zero_add] at last ended
  simp only [editDistance, start, last]
  exact ended

end

section

variable {measure : String → Nat} {seen : List String} {best : String × Nat}

/-- One of the keys, and none is closer. -/
structure Closest (measure : String → Nat) (keys : List String) (best : String × Nat) : Prop where
  member : best.1 ∈ keys
  measured : best.2 = measure best.1
  least : ∀ key ∈ keys, best.2 ≤ measure key

theorem closest_singleton (measure : String → Nat) (key : String) :
    Closest measure [key] (key, measure key) :=
  ⟨by simp, rfl, by simp⟩

theorem closest_foldl (so : Closest measure seen best) (rest : List String)
    (named : ∀ key ∈ seen ++ rest, key ≠ "") :
    Closest measure (seen ++ rest) (rest.foldl (fun best candidate =>
      if best.1 = "" ∨ measure candidate < best.2 then (candidate, measure candidate) else best)
      best) := by
  induction rest generalizing seen best with
  | nil => simpa using so
  | cons key rest ih =>
    have stays : best.1 ≠ "" := named _ (by simp [so.member])
    have next : Closest measure (seen ++ [key]) (if best.1 = "" ∨ measure key < best.2 then
        (key, measure key) else best) := by
      split_ifs with closer
      · have nearer := closer.resolve_left stays
        refine ⟨by simp, rfl, fun k among => ?_⟩
        rcases List.mem_append.mp among with old | new
        · exact (nearer.trans_le (so.least k old)).le
        · rw [List.mem_singleton.mp new]
      · refine ⟨by simp [so.member], so.measured, fun k among => ?_⟩
        rcases List.mem_append.mp among with old | new
        · exact so.least k old
        · rw [List.mem_singleton.mp new]
          exact not_lt.mp fun nearer => closer (.inr nearer)
    simpa using ih next (by simpa using named)

end

theorem closest_closest {accepted : List String} (toLower : String → String)
    (nonempty : accepted ≠ []) (named : ∀ key ∈ accepted, key ≠ "") :
    Closest (gap got toLower) accepted (closest got accepted toLower) := by
  cases accepted with
  | nil => exact absurd rfl nonempty
  | cons key rest =>
    have all := closest_foldl (closest_singleton (gap got toLower) key) rest named
    have start : closest got (key :: rest) toLower = rest.foldl (fun best candidate =>
        if best.1 = "" ∨ gap got toLower candidate < best.2 then (candidate, gap got toLower candidate)
        else best) (key, gap got toLower key) := by
      rw [closest, List.foldl_cons]
      simp only [true_or, if_true]
    rw [start]
    exact all

/-- For any way of lower-casing and any non-empty list of non-empty keys: the distance is
Levenshtein's; a key that is suggested is accepted, nearest and plausible; and if none is suggested,
no nearest key is plausible. -/
theorem suggestion_nearest (toLower : String → String) (a b : List UInt8) (got : String)
    (accepted : List String) (nonempty : accepted ≠ []) (named : ∀ key ∈ accepted, key ≠ "") :
    Edits.Distance (editDistance a b) a b ∧
      (∀ key, key ≠ "" → nearestParameter got accepted toLower = key →
        key ∈ accepted ∧ (∀ other ∈ accepted, gap got toLower key ≤ gap got toLower other) ∧
          Plausible got toLower key) ∧
      (nearestParameter got accepted toLower = "" → ∀ key ∈ accepted,
        (∀ other ∈ accepted, gap got toLower key ≤ gap got toLower other) →
          ¬Plausible got toLower key) := by
  have found := closest_closest got toLower nonempty named
  refine ⟨distance_editDistance a b, ?_, ?_⟩
  · rintro key given rfl
    simp only [nearestParameter] at given ⊢
    split_ifs at given ⊢ with near
    · rw [found.measured] at near
      have least := found.least
      rw [found.measured] at least
      exact ⟨found.member, least, near⟩
    · exact absurd rfl given
  · intro silent key among nearest near
    have same : (closest got accepted toLower).2 = gap got toLower key := by
      have other := nearest _ found.member
      rw [← found.measured] at other
      exact le_antisymm (found.least key among) other
    simp only [nearestParameter, same] at silent
    rw [if_pos ⟨near.1, near.2⟩] at silent
    exact named _ found.member silent

def asciiLower (s : String) : String := String.ofList (s.toList.map Char.toLower)

/-- A slip is answered, and a key in another case only is not. -/
theorem suggestion_nearest_uid :
    ("uid" ∈ ["gid", "uid"] ∧
      (∀ other ∈ ["gid", "uid"], gap "UIDD" asciiLower "uid" ≤ gap "UIDD" asciiLower other) ∧
      Plausible "UIDD" asciiLower "uid") ∧ ¬Plausible "GID" asciiLower "gid" := by
  constructor
  · exact (suggestion_nearest asciiLower [] [] "UIDD" ["gid", "uid"] (by decide) (by decide)).2.1
      "uid" (by decide) (by decide)
  · exact (suggestion_nearest asciiLower [] [] "GID" ["gid", "uid"] (by decide) (by decide)).2.2
      (by decide) "gid" (by decide) (by decide)

def knownParameters : List String :=
  sortedSet (commonParameters ++ accepted ++ nodeParameterKeys)

/-- The keys of a request that nothing reads. -/
def unknownParameters : List String :=
  sortedSet (params.keys.filter fun key =>
    !startsWith key "csi.storage.k8s.io/" && key ∉ knownParameters accepted)

/-- An unknown parameter is refused, with the nearest known one. -/
def requireKnownParameters (toLower : String → String) (accepted : List String)
    (params : Dict String) : Except Err Unit :=
  match unknownParameters accepted params with
  | [] => .ok ()
  | key :: rest =>
    let suggestion := nearestParameter key (knownParameters accepted) toLower
    .error (.status .invalidArgument ("storage class sets " ++
      join ", " ((key :: rest).map quote) ++ ", which this driver does not read" ++
      (if suggestion = "" then "" else " (did you mean " ++ quote suggestion ++ "?)") ++
      ". Accepted: " ++ join ", " (knownParameters accepted)))

def topologyKey (capability : String) : String := "csi.truenas.watteel.com/" ++ capability

def backendTopologyKey (name : String) : String := topologyKey ("backend-" ++ name)

def requiredTopology (backendName protocol : String) (params : Dict String)
    (caps : List VolumeCapability) : Dict String :=
  let fs := if capabilityFSType caps = "" then params.getD "fsType" "" else capabilityFSType caps
  let tooling := match capabilityForFS fs with
    | some capability => [capability]
    | none => if fs = "" ∧ (protocol = "iscsi" ∨ protocol = "nvme") then ["ext4"] else []
  let keys := [topologyKey protocol] ++
    (if backendName = "" then [] else [backendTopologyKey backendName]) ++ tooling.map topologyKey ++
    (if params.getD "multipath" "" = "true" then [topologyKey "multipath"] else [])
  Dict.ofList (keys.map fun key => (key, "true"))

structure TopologyRequirement where
  requisite : List (Dict String)
  preferred : List (Dict String)

/-- What a candidate publishes differently. -/
def lacking (need offered : Dict String) : List String :=
  need.keys.filter fun key => match offered.get? key with
    | some got => some got != need.get? key
    | none => false

def TopologyRequirement.candidates (r : TopologyRequirement) : List (Dict String) :=
  if r.requisite.isEmpty then r.preferred else r.requisite

def requireTopologyReachable (req : Option TopologyRequirement) (need : Dict String) :
    Except Err Unit :=
  match req with
  | none => .ok ()
  | some req =>
    if req.candidates.isEmpty ∨ req.candidates.any fun offered => (lacking need offered).isEmpty then .ok ()
    else .error (.status .resourceExhausted (
      "no node the scheduler offered can serve this volume: it needs " ++
        join ", " (sortedSet (req.candidates.flatMap (lacking need))) ++
        ". The node plugin publishes what each node supports; a volume created here " ++
        "would bind and then never mount"))

end TruenasCsi.Csi
