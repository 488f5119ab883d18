import TruenasCsi.Support.Fence
import TruenasCsi.Csi.Publish

/-!
# The fence of a volume

The abstract fence (`Fence.State`) knows who is recorded and who is let in. `view` reads both off a world:
the ledger from a property of the dataset, the addresses from the share at its mountpoint. Entries are
trimmed when they are written and not when they are read, so most results are about shares without blanks
(`Clean`).
-/

namespace TruenasCsi.Fencing

open Backend Truenas Appliance
open Backend.Smb (normaliseHosts)
open Backend.Nfs (denyHost)
open Appliance.Storage Text

variable (p : Protocol) (a : State) (mp : String)

/-- Whether an entry lets a client in. -/
def letsIn (h : String) : Bool :=
  h != "" && !(p == .nfs && h == denyHost)

/-- The host list of the share at a mountpoint, as it is stored. -/
def entriesAt : Protocol → State → String → List String
  | .nfs, a, mp => ((a.nfs.byPath mp).map NfsShare.hosts).getD []
  | .smb, a, mp => ((a.smb.byPath mp).map Smb.hostsAllow).getD []
  | _, _, _ => []

/-- What of an NFS or SMB share decides who may mount it. -/
structure Export where
  hosts : List String
  networks : List String := []
  options : Dict Json := ∅

/-- The share at a mountpoint, for access. -/
def exportAt : Protocol → State → String → Option Export
  | .nfs, a, mp => (a.nfs.byPath mp).map fun share => { hosts := share.hosts, networks := share.networks }
  | .smb, a, mp => (a.smb.byPath mp).map fun share =>
      { hosts := Smb.hostsAllow share, options := share.options }
  | _, _, _ => none

theorem entriesAt_eq : entriesAt p a mp = ((exportAt p a mp).map Export.hosts).getD [] := by
  cases p <;> simp [entriesAt, exportAt, Function.comp_def]

/-- The addresses a share lets in. -/
def hostsAt : Set String :=
  {h | h ∈ entriesAt p a mp ∧ letsIn p h}

/-- A list as written: no blanks around entries. -/
def CleanAt : Prop :=
  ∀ h ∈ entriesAt p a mp, letsIn p h → trimSpace h = h

/-- Node addresses as they are put on a list. -/
def addresses (addrs : List String) : Set String :=
  {a | a ∈ addrs.map trimSpace ∧ letsIn p a}

variable {p : Protocol} {a : String}

theorem addresses_mono {fewer more : List String} (part : fewer ⊆ more) :
    addresses p fewer ⊆ addresses p more := by
  rintro a ⟨member, client⟩
  obtain ⟨r, present, rfl⟩ := List.mem_map.mp member
  exact ⟨List.mem_map.mpr ⟨r, part present, rfl⟩, client⟩

theorem addresses_append (a b : List String) :
    addresses p (a ++ b) = addresses p a ∪ addresses p b := by
  ext h
  simp only [addresses, List.map_append, List.mem_append, Set.mem_union, Set.mem_ofPred_eq, or_and_right]

/-- The two normal forms of a host list. -/
structure Normalises (p : Protocol) (normal : List String → List String) : Prop where
  mem : ∀ {hosts a}, letsIn p a = true → (a ∈ normal hosts ↔ a ∈ hosts.map trimSpace)
  trimmed : ∀ {hosts a}, letsIn p a = true → a ∈ normal hosts → trimSpace a = a

theorem normalises_of_mem {normal : List String → List String}
    (mem : ∀ {hosts a}, letsIn p a = true → (a ∈ normal hosts ↔ a ∈ hosts.map trimSpace)) :
    Normalises p normal where
  mem := mem
  trimmed := by
    intro hosts a client present
    obtain ⟨h, -, rfl⟩ := List.mem_map.mp ((mem client).mp present)
    exact trimSpace_trimSpace h

theorem letsIn_nfs : letsIn .nfs a = true ↔ a ≠ "" ∧ a ≠ denyHost := by
  simp [letsIn]

theorem letsIn_smb : letsIn .smb a = true ↔ a ≠ "" := by
  simp [letsIn]

theorem normalises_nfs : Normalises .nfs Nfs.withDenyHost := by
  refine normalises_of_mem fun {hosts a} client => ?_
  obtain ⟨notEmpty, notDeny⟩ := letsIn_nfs.mp client
  simp [Nfs.withDenyHost, notEmpty, notDeny]

theorem normalises_smb : Normalises .smb normaliseHosts := by
  refine normalises_of_mem fun {hosts a} client => ?_
  have notEmpty := letsIn_smb.mp client
  simp [normaliseHosts, notEmpty]

/-- The protocols whose access is a host list. -/
def Shared (p : Protocol) : Prop := p = .nfs ∨ p = .smb

def normalForm : Protocol → List String → List String
  | .nfs => Nfs.withDenyHost
  | .smb => normaliseHosts
  | _ => id

theorem normalises_shared (shared : Shared p) : Normalises p (normalForm p) := by
  rcases shared with rfl | rfl
  · exact normalises_nfs
  · exact normalises_smb

/-- A share after its host list was written. -/
def rewritten (p : Protocol) (old : Option Export) (hosts : List String) : Export where
  hosts := normalForm p hosts
  options := if p = .smb then Smb.accessOptions ((old.map Export.options).getD ∅) hosts else ∅

section

variable {p : Protocol} {a b : State} {mp : String} {normal : List String → List String}
  {hosts : List String} {h : String}

/-- Whatever the driver has written is clean. -/
theorem clean_of_written (law : Normalises p normal)
    (written : entriesAt p b mp = normal hosts) : CleanAt p b mp := by
  intro h present client
  rw [written] at present
  exact law.trimmed client present

theorem letsIn_of_trimmed (client : letsIn p (trimSpace h) = true) : letsIn p h = true := by
  by_contra closed
  have special : h = "" ∨ p = .nfs ∧ h = denyHost := by
    by_cases empty : h = ""
    · exact .inl empty
    · simpa [letsIn, empty] using closed
  rcases special with rfl | ⟨rfl, rfl⟩
  · have blank : trimSpace "" = "" := by decide
    simp [letsIn, blank] at client
  · have same : trimSpace denyHost = denyHost := by decide
    simp [letsIn, same] at client

theorem Normalises.twice (law : Normalises p normal)
    (client : letsIn p h = true) : h ∈ normal (normal hosts) ↔ h ∈ normal hosts := by
  rw [law.mem client]
  constructor
  · intro member
    obtain ⟨e, present, rfl⟩ := List.mem_map.mp member
    rw [law.trimmed (letsIn_of_trimmed client) present]
    exact present
  · intro present
    exact List.mem_map.mpr ⟨h, present, law.trimmed client present⟩

/-- On a clean share, adding addresses lets in those and no others. -/
theorem hostsAt_granted {granted : List String} (law : Normalises p normal) (clean : CleanAt p a mp)
    (written : entriesAt p b mp = normal (entriesAt p a mp ++ granted)) :
    hostsAt p b mp = hostsAt p a mp ∪ addresses p granted := by
  ext h
  constructor
  · rintro ⟨present, client⟩
    rw [written, law.mem client, List.map_append, List.mem_append] at present
    rcases present with before | new
    · obtain ⟨e, listed, rfl⟩ := List.mem_map.mp before
      have trimmed : trimSpace e = e := clean e listed (letsIn_of_trimmed client)
      rw [trimmed] at client ⊢
      exact .inl ⟨listed, client⟩
    · exact .inr ⟨new, client⟩
  · rintro (⟨listed, client⟩ | ⟨new, client⟩)
    · refine ⟨?_, client⟩
      rw [written, law.mem client, List.map_append, List.mem_append]
      exact .inl (List.mem_map.mpr ⟨h, listed, clean h listed client⟩)
    · refine ⟨?_, client⟩
      rw [written, law.mem client, List.map_append, List.mem_append]
      exact .inr new

end

section

variable (p : Protocol) (v : Volume.ID) (w : World)

def datasetOf : Option Dataset := (w.appliance v.backend).storage.dataset? v.datasetPath

/-- The publish ledger as it is recorded on the dataset. -/
def ledgerText : Option Dataset → String
  | none => ""
  | some ds => localProperty ds Volume.publishedProperty

/-- The ledger as the driver reads it. -/
def ledgerOf : Volume.Grants :=
  match Volume.decodeGrants (ledgerText (datasetOf v w)) with
  | .ok g => g
  | .error _ => ∅

def mountpoint : Option String := (datasetOf v w).map fun ds => mountpointOf (some ds) v.datasetPath

def hostsOf : Set String :=
  match mountpoint v w with
  | none => ∅
  | some mp => hostsAt p (w.appliance v.backend) mp

instance (a : String) : Decidable (a ∈ hostsOf p v w) :=
  match found : mountpoint v w with
  | none => isFalse (by simp [hostsOf, found])
  | some mp => decidable_of_iff (a ∈ entriesAt p (w.appliance v.backend) mp ∧ letsIn p a)
      (by simp [hostsOf, found, hostsAt])

/-- The entries of the volume's share have no blanks around them. -/
def Clean : Prop := ∀ mp, mountpoint v w = some mp → CleanAt p (w.appliance v.backend) mp

variable {v w} in
theorem ledgerOf_gone (gone : datasetOf v w = none) (node : String) : (ledgerOf v w).get? node = none := by
  have blank : Volume.decodeGrants "" = .ok ∅ := by unfold Volume.decodeGrants; rfl
  simp [ledgerOf, gone, ledgerText, blank]

/-- The fence of a volume: who is recorded, and who is let in. -/
def view : Fence.State String String where
  ledger node := ((ledgerOf v w).get? node).map (addresses p)
  hosts := hostsOf p v w

end

section

variable {p : Protocol} {v : Volume.ID} {w t : World}

theorem datasetOf_congr (same : (t.appliance v.backend).storage = (w.appliance v.backend).storage) :
    datasetOf v t = datasetOf v w := by
  unfold datasetOf
  rw [same]

theorem ledgerOf_congr (same : (t.appliance v.backend).storage = (w.appliance v.backend).storage) :
    ledgerOf v t = ledgerOf v w := by
  unfold ledgerOf
  rw [datasetOf_congr same]

theorem mountpoint_congr
    (same : (t.appliance v.backend).storage = (w.appliance v.backend).storage) :
    mountpoint v t = mountpoint v w := by
  unfold mountpoint
  rw [datasetOf_congr same]

theorem entriesAt_congr {a b : State} (nfs : b.nfs = a.nfs) (smb : b.smb = a.smb)
    (mp : String) : entriesAt p b mp = entriesAt p a mp := by
  cases p <;> simp [entriesAt, nfs, smb]

theorem view_congr (same : t.appliance v.backend = w.appliance v.backend) :
    view p v t = view p v w := by
  unfold view ledgerOf hostsOf mountpoint datasetOf
  rw [same]

theorem clean_congr (same : t.appliance v.backend = w.appliance v.backend)
    (clean : Clean p v w) : Clean p v t := by
  intro mp found
  rw [same]
  refine clean mp ?_
  rw [← found, mountpoint_congr (by rw [same])]

end

section

variable {v : Volume.ID} {w : World} {c : Client} (here : c.name = v.backend)

include here

variable (key value : String) {p : Protocol}

theorem withProperty_storage :
    ((withProperty c w v.datasetPath key value).appliance v.backend).storage =
      (act (.update v.datasetPath { userPropertiesUpdate := [(key, value)] })
        (w.appliance v.backend).storage).2 := by
  rw [← here]
  simp [withProperty, World.acted, State.act]

theorem withProperty_shares :
    ((withProperty c w v.datasetPath key value).appliance v.backend).nfs =
        (w.appliance v.backend).nfs ∧
      ((withProperty c w v.datasetPath key value).appliance v.backend).smb =
        (w.appliance v.backend).smb := by
  rw [← here]
  simp [withProperty, World.acted, State.act]

/-- The dataset with or without the new property. -/
theorem datasetOf_withProperty :
    datasetOf v (withProperty c w v.datasetPath key value) = datasetOf v w ∧
        (act (.update v.datasetPath { userPropertiesUpdate := [(key, value)] })
          (w.appliance v.backend).storage).1.isOk = false ∨
      ∃ ds ds', datasetOf v w = some ds ∧
        datasetOf v (withProperty c w v.datasetPath key value) = some ds' ∧
        ds'.mountpoint = ds.mountpoint ∧
        ds'.userProperties key = some ⟨value, Volume.sourceLocal⟩ ∧
        ∀ other ≠ key, ds'.userProperties other = ds.userProperties other := by
  unfold datasetOf
  rw [withProperty_storage here]
  rcases act_setProperty (w.appliance v.backend).storage v.datasetPath key value with
    ⟨unchanged, refused⟩ | ⟨d, present, changed⟩
  · exact .inl ⟨by rw [unchanged], refused⟩
  · right
    rw [changed, dataset?_of_get? present, dataset?_put_self]
    refine ⟨_, _, rfl, rfl, rfl, ?_, ?_⟩
    · apply userProperty_put_self
      exact Dict.get?_set_self _ _ _
    · intro other different
      apply userProperty_put_same present
      exact Dict.get?_set_ne _ _ different

theorem mountpoint_withProperty :
    mountpoint v (withProperty c w v.datasetPath key value) = mountpoint v w := by
  unfold mountpoint
  rcases datasetOf_withProperty here key value with ⟨same, -⟩ | ⟨ds, ds', before, after, same, -⟩
  · rw [same]
  · simp [before, after, mountpointOf, same]

theorem entriesAt_withProperty (mp : String) :
    entriesAt p ((withProperty c w v.datasetPath key value).appliance v.backend) mp =
      entriesAt p (w.appliance v.backend) mp := by
  obtain ⟨nfs, smb⟩ := withProperty_shares here key value (w := w)
  exact entriesAt_congr nfs smb mp

/-- Recording something on the dataset does not touch its share. -/
theorem hostsOf_withProperty :
    hostsOf p v (withProperty c w v.datasetPath key value) = hostsOf p v w := by
  unfold hostsOf
  rw [mountpoint_withProperty here]
  cases mountpoint v w with
  | none => rfl
  | some mp => simp only [hostsAt, entriesAt_withProperty here]

theorem clean_withProperty (clean : Clean p v w) :
    Clean p v (withProperty c w v.datasetPath key value) := by
  intro mp found a present client
  rw [mountpoint_withProperty here] at found
  rw [entriesAt_withProperty here] at present
  exact clean mp found a present client

/-- A stored ledger is the ledger that is read. -/
theorem ledgerOf_saved {g : Volume.Grants} {text : String} (encoded : g.encode = .ok text) :
    (datasetOf v (withProperty c w v.datasetPath Volume.publishedProperty text) = datasetOf v w ∧
        (act (.update v.datasetPath { userPropertiesUpdate := [(Volume.publishedProperty, text)] })
          (w.appliance v.backend).storage).1.isOk = false) ∨
      ∀ node, (ledgerOf v (withProperty c w v.datasetPath Volume.publishedProperty text)).get? node =
        g.get? node := by
  rcases datasetOf_withProperty here Volume.publishedProperty text with
    unchanged | ⟨ds, ds', before, after, -, stored, -⟩
  · exact .inl unchanged
  · right
    intro node
    obtain ⟨g', decoded, same⟩ := Volume.decodeGrants_encode encoded
    have read : ledgerText (some ds') = text := by simp [ledgerText, localProperty, stored, Volume.sourceLocal]
    unfold ledgerOf
    rw [after, read, decoded]
    exact same node

end

end TruenasCsi.Fencing
