import TruenasCsi.Support.Json
import TruenasCsi.Support.Dict
import TruenasCsi.Status

/-! The publish ledger: which nodes hold access to a volume. -/

namespace TruenasCsi.Volume

def publishedProperty : String := "io.truenas.csi:published"

def lunProperty : String := "io.truenas.csi:lun"

def nvmePortProperty : String := "io.truenas.csi:nvmeport"

def networksProperty : String := "io.truenas.csi:networks"

def nfsVersionProperty : String := "io.truenas.csi:nfsversion"

def smbMountProperty : String := "io.truenas.csi:smbmount"

def fsTypeProperty : String := "io.truenas.csi:fstype"

def maxGrantsBytes : Nat := 1024

/-- Node ids with their granted addresses. -/
abbrev Grants := Dict (List String)

namespace Grants

variable (g : Grants)

def nodes : List String := g.keys.insertionSort (· ≤ ·)

def others (nodeID : String) : List String :=
  (g.keys.filter (· ≠ nodeID)).insertionSort (· ≤ ·)

theorem mem_nodes {g : Grants} {node : String} :
    node ∈ g.nodes ↔ ∃ addrs, g.get? node = some addrs := by
  simp [nodes, Dict.mem_keys_iff]

theorem mem_others {g : Grants} {node nodeID : String} :
    node ∈ g.others nodeID ↔ node ∈ g.nodes ∧ node ≠ nodeID := by
  simp [others, nodes]

/-- No addresses is the nil slice, `null`. -/
def addrsJson : List String → Json
  | [] => .null
  | addrs => .arr (addrs.map fun a => .str a.toList)

def toJson : Json :=
  .obj (g.nodes.map fun node => (node.toList, addrsJson (g.getD node [])))

@[irreducible] def encode : Except Err String :=
  if g.keys = [] then .ok "\x7b\x7d"
  else
    let text := String.ofList g.toJson.print
    if text.utf8ByteSize > maxGrantsBytes then
      .error (.sentinel .grantsTooLarge ("publish ledger exceeds 1024 bytes: " ++
        toString g.keys.length ++ " nodes hold this volume and their addresses " ++
        "no longer fit in the ZFS user property the ledger lives in"))
    else .ok text

end Grants

def addrOfJson : Json → Option String
  | .str s => some (String.ofList s)
  | .null => some ""
  | _ => none

def addrsOfJson : Json → Option (List String)
  | .null => some []
  | .arr items => items.mapM addrOfJson
  | _ => none

/-- Of two fields with one name the last counts. -/
def grantsOfFields : Grants → List (List Char × Json) → Option Grants
  | g, [] => some g
  | g, (node, x) :: rest =>
    match addrsOfJson x with
    | none => none
    | some addrs => grantsOfFields (g.set (String.ofList node) addrs) rest

def grantsOfJson : Json → Option Grants
  | .null => some ∅
  | .obj fields => grantsOfFields ∅ fields
  | _ => none

@[irreducible] def decodeGrants (s : String) : Except Err Grants :=
  if s = "" then .ok ∅
  else
    match (Json.parse s.toList).bind grantsOfJson with
    | some g => .ok g
    | none => .error (.plain ("decoding the publish ledger " ++ Text.quote s ++
        ": not a JSON object of address lists"))

variable {g : Grants} {s : String}

theorem decodeGrants_plain {e : Err} (refused : decodeGrants s = .error e) : e.sentinels = [] := by
  unfold decodeGrants at refused
  split_ifs at refused
  split at refused
  · cases refused
  · cases refused
    rfl

/-- What a cifs mount presents to the pod. -/
structure SMBMount where
  uid : Int := 0
  gid : Int := 0
  fileMode : String := ""
  dirMode : String := ""
deriving DecidableEq

variable (m : SMBMount) (addrs : List String) (key : List Char)

def encodeSMBMount : String :=
  String.ofList (Json.obj [
    ("uid".toList, .num (toString m.uid).toList), ("gid".toList, .num (toString m.gid).toList),
    ("fileMode".toList, .str m.fileMode.toList), ("dirMode".toList, .str m.dirMode.toList)]).print

private def sameKey (name : String) : Bool :=
  key.map Char.toLower == name.toList.map Char.toLower

/-- Store one decoded field, if it is known. -/
def setMountField (x : Json) : Option SMBMount :=
  if sameKey key "uid" ∨ sameKey key "gid" then
    match x with
    | .null => some m
    | .num token => (Text.atoi (String.ofList token)).map fun n =>
        if sameKey key "uid" then { m with uid := n } else { m with gid := n }
    | _ => none
  else if sameKey key "fileMode" ∨ sameKey key "dirMode" then
    match x with
    | .null => some m
    | .str s => some (if sameKey key "fileMode" then { m with fileMode := String.ofList s }
        else { m with dirMode := String.ofList s })
    | _ => none
  else some m

def decodeSMBMount (s : String) : Except Err (Option SMBMount) :=
  if Text.trimSpace s = "" then .ok none
  else
    let decoded := (Json.parse s.toList).bind fun
      | .null => some {}
      | .obj fields => fields.foldlM (fun m f => setMountField m f.1 f.2) {}
      | _ => none
    match decoded with
    | some m => .ok (some m)
    | none => .error (.plain ("decoding smb mount options " ++ Text.quote s ++
        ": not a JSON object of mount options"))

theorem addrsOfJson_addrsJson : addrsOfJson (Grants.addrsJson addrs) = some addrs := by
  cases addrs with
  | nil => rfl
  | cons a rest =>
    have each : ∀ l : List String, (l.map fun a => Json.str a.toList).mapM addrOfJson = some l := by
      intro l
      induction l with
      | nil => rfl
      | cons b l ih => simp [addrOfJson, ih]
    exact each (a :: rest)

theorem addrsJson_wellFormed : (Grants.addrsJson addrs).wellFormed = true := by
  have each : ∀ l : List String,
      Json.itemsWellFormed (l.map fun a => Json.str a.toList) = true := by
    intro l
    induction l with
    | nil => rfl
    | cons b l ih => simp [Json.itemsWellFormed, Json.wellFormed, ih]
  cases addrs with
  | nil => rfl
  | cons a rest => exact each (a :: rest)

theorem toJson_wellFormed (g : Grants) : g.toJson.wellFormed = true := by
  have each : ∀ l : List String, Json.fieldsWellFormed
      (l.map fun node => (node.toList, Grants.addrsJson (g.getD node []))) = true := by
    intro l
    induction l with
    | nil => rfl
    | cons node l ih => simp [Json.fieldsWellFormed, addrsJson_wellFormed, ih]
  exact each g.nodes

theorem grantsOfFields_map (value : String → List String) (nodes : List String) (start : Grants) :
    ∃ g, grantsOfFields start
        (nodes.map fun node => (node.toList, Grants.addrsJson (value node))) = some g ∧
      ∀ key, g.get? key = if key ∈ nodes then some (value key) else start.get? key := by
  induction nodes generalizing start with
  | nil => exact ⟨start, rfl, fun key => by simp⟩
  | cons node rest ih =>
    obtain ⟨g, decoded, lookup⟩ := ih (start.set node (value node))
    refine ⟨g, ?_, ?_⟩
    · simpa [grantsOfFields, addrsOfJson_addrsJson] using decoded
    · intro key
      rw [lookup key, Dict.get?_set]
      by_cases same : key = node
      · subst same
        simp
      · simp [same]

theorem decode_toJson (g : Grants) :
    ∃ g', grantsOfJson g.toJson = some g' ∧ ∀ node, g'.get? node = g.get? node := by
  obtain ⟨g', decoded, lookup⟩ := grantsOfFields_map (fun node => g.getD node []) g.nodes ∅
  refine ⟨g', decoded, ?_⟩
  intro node
  rw [lookup node]
  cases stored : g.get? node with
  | none =>
    have absent : node ∉ g.nodes := by simp [Grants.mem_nodes, stored]
    simp [absent]
  | some addrs =>
    have present : node ∈ g.nodes := Grants.mem_nodes.mpr ⟨addrs, stored⟩
    simp [present, Dict.getD, stored]

/-- An encoded ledger is read back the same. -/
theorem decodeGrants_encode (encoded : g.encode = .ok s) :
    ∃ g', decodeGrants s = .ok g' ∧ ∀ node, g'.get? node = g.get? node := by
  unfold Grants.encode at encoded
  simp only at encoded
  split_ifs at encoded with empty large
  · obtain rfl : "\x7b\x7d" = s := by simpa using encoded
    refine ⟨∅, by unfold decodeGrants; rfl, fun node => ?_⟩
    cases stored : g.get? node with
    | none => rfl
    | some addrs =>
      have present : node ∈ g.keys := Dict.mem_keys_iff.mpr ⟨addrs, stored⟩
      simp [empty] at present
  · obtain ⟨g', decoded, lookup⟩ := decode_toJson g
    have text : String.ofList g.toJson.print = s := by simpa using encoded
    have nonempty : s ≠ "" := by
      rintro rfl
      have chars : g.toJson.print = [] := by simpa using congrArg String.toList text
      obtain ⟨c, tail, head, -⟩ := Json.print_head g.toJson (toJson_wellFormed g)
      simp [chars] at head
    refine ⟨g', ?_, lookup⟩
    unfold decodeGrants
    rw [if_neg nonempty, ← text, String.toList_ofList, Json.parse_print _ (toJson_wellFormed g)]
    simp [decoded]

theorem encode_length (encoded : g.encode = .ok s) : s.length ≤ maxGrantsBytes := by
  unfold Grants.encode at encoded
  simp only at encoded
  split_ifs at encoded with empty large
  · obtain rfl : "\x7b\x7d" = s := by simpa using encoded
    decide
  · have text : String.ofList g.toJson.print = s := by simpa using encoded
    have bytes := Text.length_le_utf8ByteSize s
    rw [text] at large
    omega

end TruenasCsi.Volume
