import TruenasCsi.Support.Label
import Mathlib.Logic.Relation

/-! Stale devices: before a volume is staged, the disk at its place on the target is removed if it
is another one and nothing seems to use it. -/

namespace TruenasCsi.Node

open Text

structure MountEntry where
  source : String
  target : String
  fsType : String
deriving DecidableEq

structure Host where
  /-- The mount table, if it can be read. -/
  mounts : Option (List MountEntry)
  /-- The device a mount is really on, whatever its source calls it. The code does not see this. -/
  mountedOn : MountEntry → Option String
  /-- Where the links below `/dev` lead. -/
  byPath : String → Option String
  mapper : String → Option String
  /-- What a device is made of, or a partition's disk. -/
  slaves : String → List String
  diskOf : String → Option String
  /-- The number of a device, and where its link leads. -/
  blockDeviceNumber : String → Option UInt64
  deviceLink : UInt64 → UInt64 → Option String
  wwid : String → Option String
  /-- Whether the kernel forgets a disk on request. -/
  deletes : String → Bool

def lower (s : String) : String := String.ofList (s.toList.map Label.lowerChar)

def trimPrefix (s start : String) : String :=
  if startsWith s start then String.ofList (s.toList.drop start.length) else s

def normalizeNAA (naa : String) : String := lower (trimPrefix (trimSpace (lower naa)) "0x")

def base (path : String) : String :=
  let cs := path.toList.rdropWhile (· == '/')
  if path = "" then "." else if cs = [] then "/" else String.ofList (cs.rtakeWhile (· != '/'))

variable (dev : UInt64) (e : MountEntry)

def unixMajor : UInt64 :=
  ((dev >>> 8) &&& (0xfff : UInt64)) ||| ((dev >>> 32) &&& ~~~(0xfff : UInt64))

def unixMinor : UInt64 := (dev &&& (0xff : UInt64)) ||| ((dev >>> 12) &&& ~~~(0xff : UInt64))

namespace Host

variable (h : Host)

variable (source portal device : String)

def deviceOf : String :=
  if startsWith source "/dev/mapper/" then ((h.mapper (base source)).map base).getD (base source)
  else base source

def deviceNamesOf : List String :=
  if startsWith source "/dev/" then h.deviceOf source :: h.slaves (h.deviceOf source) else []

def deviceNameForNumber : String :=
  ((h.deviceLink (unixMajor dev) (unixMinor dev)).map base).getD ""

def blockDeviceAt (path : String) : String :=
  ((h.blockDeviceNumber path).map h.deviceNameForNumber).getD ""

def blockDeviceOfMount : String :=
  if e.fsType ∈ ["devtmpfs", "tmpfs", "udev"] then h.blockDeviceAt e.target else ""

def deviceNamesOfMount : List String :=
  if startsWith e.source "/dev/" then h.deviceNamesOf e.source
  else
    let name := h.blockDeviceOfMount e
    if name ≠ "" then h.deviceNamesOf ("/dev/" ++ name) else []

def devicesAtLUN (iqn lun : String) : Option String :=
  (h.byPath ("ip-" ++ portal ++ "-iscsi-" ++ iqn ++ "-lun-" ++ lun)).map base

/-- The identity of a disk, if it can be read. -/
def deviceWWID (name : String) : String :=
  match h.wwid name with
  | none => ""
  | some text => normalizeNAA (trimPrefix (trimSpace text) "naa.")

/-- The device at the LUN is removed if its identity differs and no mount is found on it. -/
def dropStaleTargetDevices (iqn wantNAA lun : String) : List String :=
  if lun = "" then []
  else
    match h.devicesAtLUN portal iqn lun, h.mounts with
    | some name, some entries =>
      let inUse := entries.flatMap h.deviceNamesOfMount
      let id := h.deviceWWID name
      if name ∈ inUse ∨ id = "" ∨ id = normalizeNAA wantNAA ∨ h.deletes name = false then [] else [name]
    | _, _ => []

def Below (upper device : String) : Prop := device ∈ h.slaves upper ∨ h.diskOf upper = some device

/-- A mount lives on its device and on all that this is made of. -/
def LivesOn : Prop :=
  ∃ own, h.mountedOn e = some own ∧ Relation.ReflTransGen h.Below own device

/-- What may be removed: a device nothing uses. -/
structure Spared (portal iqn wantNAA lun device : String) : Prop where
  place : h.devicesAtLUN portal iqn lun = some device
  read : h.deviceWWID device ≠ ""
  differs : h.deviceWWID device ≠ normalizeNAA wantNAA
  idle : ∀ entries, h.mounts = some entries → ∀ e ∈ entries, ¬ h.LivesOn e device

/-- If any mount lives on the device, then the code finds it through some mount: the mount's source,
or the device node it shows, names the device or something made directly of it. -/
def Sighted : Prop :=
  ∀ entries, h.mounts = some entries → (∃ e ∈ entries, h.LivesOn e device) →
    ∃ e ∈ entries, device ∈ h.deviceNamesOfMount e

variable {h} {portal iqn wantNAA lun device : String}

theorem mem_dropStale : device ∈ h.dropStaleTargetDevices portal iqn wantNAA lun ↔
    lun ≠ "" ∧ h.devicesAtLUN portal iqn lun = some device ∧ h.deviceWWID device ≠ "" ∧
      h.deviceWWID device ≠ normalizeNAA wantNAA ∧ h.deletes device = true ∧
      ∃ entries, h.mounts = some entries ∧ ∀ e ∈ entries, device ∉ h.deviceNamesOfMount e := by
  unfold dropStaleTargetDevices
  split_ifs with noLun
  · simp [noLun]
  split
  next name entries place table =>
    simp only [place, table, Option.some.injEq, List.mem_flatMap]
    split_ifs with keeps
    · simp only [List.not_mem_nil, false_iff]
      rintro ⟨-, rfl, read, differs, deletes, _, rfl, unused⟩
      rcases keeps with ⟨e, listed, names⟩ | unread | same | refused
      · exact unused e listed names
      · exact read unread
      · exact differs same
      · simp [deletes] at refused
    · push Not at keeps
      obtain ⟨unused, read, differs, deletes⟩ := keeps
      constructor
      · intro only
        obtain rfl := List.mem_singleton.mp only
        exact ⟨noLun, rfl, read, differs, by simpa using deletes, entries, rfl, unused⟩
      · rintro ⟨-, rfl, -⟩
        exact List.mem_singleton_self name
  next other =>
    simp only [List.not_mem_nil, false_iff]
    rintro ⟨-, place, -, -, -, entries, table, -⟩
    exact other device entries place table

end Host

/-- A host with one mount and a stale disk `sdb` at the volume's place. -/
def staleHost (mount : MountEntry) (device : String) : Host where
  mounts := some [mount]
  mountedOn e := if e = mount then some device else none
  byPath _ := some "../../sdb"
  mapper _ := none
  slaves _ := []
  diskOf name := if name = "sdb1" then some "sdb" else none
  blockDeviceNumber _ := none
  deviceLink _ _ := none
  wwid _ := some "naa.6589cfc000000111"
  deletes _ := true

def partitionMount : MountEntry := ⟨"/dev/sdb1", "/var/lib/data", "ext4"⟩

def aliasMount : MountEntry := ⟨"/dev/disk/by-id/wwn-0x6589cfc000000111", "/var/lib/data", "ext4"⟩

end TruenasCsi.Node
