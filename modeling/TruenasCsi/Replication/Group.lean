import TruenasCsi.Support.Dict
import TruenasCsi.Volume.Id

/-! A group is a set of volumes on one appliance that is replicated to another. -/

namespace TruenasCsi.Replication

/-- A schedule, as tasks carry it. -/
structure Cron where
  minute : String := ""
  hour : String := ""
  dom : String := ""
  month : String := ""
  dow : String := ""
deriving DecidableEq

def firstNonEmpty : List String → String
  | [] => ""
  | value :: rest => if value ≠ "" then value else firstNonEmpty rest

def Cron.payload (c : Cron) : Cron where
  minute := firstNonEmpty [c.minute, "00"]
  hour := firstNonEmpty [c.hour, "*"]
  dom := firstNonEmpty [c.dom, "*"]
  month := firstNonEmpty [c.month, "*"]
  dow := firstNonEmpty [c.dow, "*"]

structure Retention where
  value : Int := 0
  unit : String := ""
deriving DecidableEq

def Retention.orDefault (r : Retention) : Retention :=
  if r.value ≤ 0 ∨ r.unit = "" then ⟨2, "WEEK"⟩ else r

structure Group where
  name : String
  sourceBackend : String
  targetBackend : String
  volumes : List Volume.ID
  /-- The source's credential for the target. -/
  sshCredentialID : Int := 0
  /-- The target's credential for the source. -/
  sshCredentialIDReverse : Int := 0
  schedule : Cron := {}
  snapshotRetention : Retention := {}
deriving DecidableEq

variable (g : Group)

def taskName : String := "csi-" ++ g.name

def reverseTaskName : String := "csi-" ++ g.name ++ "-failback"

def namingSchema : String := "csi-" ++ g.name ++ "-%Y-%m-%d_%H-%M"

def scratchRoot (targetRoot : String) : String :=
  targetRoot ++ "/csi-testfailover-" ++ g.name

def targetDataset (dstRoot : String) (id : Volume.ID) : String := dstRoot ++ "/" ++ id.name

def baselineName : String := "csi-" ++ g.name ++ "-baseline"

def snapshotShortName (id : String) : String :=
  match Text.cutLast '@' id with
  | some (_, name) => name
  | none => id

/-- A group's position in the failover lifecycle. -/
inductive Phase where
  /-- Never reconciled. -/
  | unknown
  | ready
  | suspended
  | failingOver
  | failedOver
  | failingBack
deriving DecidableEq

def Phase.text : Phase → String
  | unknown => ""
  | ready => "Ready"
  | suspended => "Suspended"
  | failingOver => "FailingOver"
  | failedOver => "FailedOver"
  | failingBack => "FailingBack"

structure TestFailoverState where
  root : String
  /-- Per volume its clone, and the clone's snapshot. -/
  datasets : Dict String := ∅
  snapshots : Dict String := ∅

structure State where
  phase : Phase := .unknown
  taskID : Nat := 0
  /-- Per volume its periodic snapshot task. -/
  snapshotTaskIDs : Dict Nat := ∅
  suspended : Bool := false
  /-- Per volume the newest snapshot at promotion. -/
  failoverSnapshots : Dict String := ∅
  testFailover : Option TestFailoverState := none
  message : String := ""

end TruenasCsi.Replication
