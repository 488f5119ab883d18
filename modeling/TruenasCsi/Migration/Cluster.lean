import TruenasCsi.Appliance.World
import TruenasCsi.Migration.Manifest

/-! What a migration talks to: the API server and the target's appliance. -/

namespace TruenasCsi.Migration

inductive ClaimPhase where
  | pending
  | bound
  | lost
deriving DecidableEq

def ClaimPhase.text : ClaimPhase → String
  | .pending => "Pending"
  | .bound => "Bound"
  | .lost => "Lost"

structure Claim where
  ns : String
  name : String
  phase : ClaimPhase := .pending
  volumeName : String := ""
  storageClassName : Option String := none
deriving DecidableEq

structure CSISource where
  driver : String
  volumeHandle : String
deriving DecidableEq

structure PersistentVolume where
  name : String
  csi : Option CSISource := none
  capacity : Option Int := none
deriving DecidableEq

/-- The storage behind a PersistentVolume. -/
inductive Volume where
  | csi (driver handle : String)
  | other (name : String)
deriving DecidableEq

def Volume.of (name driver handle : String) : Volume :=
  if driver = "" ∧ handle = "" then .other name else .csi driver handle

variable (pv : PersistentVolume)

def PersistentVolume.driver : String := (pv.csi.map CSISource.driver).getD ""

def PersistentVolume.handle : String :=
  (pv.csi.map CSISource.volumeHandle).getD ""

def PersistentVolume.volume : Volume := .of pv.name pv.driver pv.handle

inductive BindingMode where
  | immediate
  | waitForFirstConsumer
deriving DecidableEq

structure StorageClass where
  name : String
  volumeBindingMode : Option BindingMode := none
deriving DecidableEq

inductive Mode where
  | auto
  | rsync
  | tar
  /-- Any other text; the script takes it for `auto`. -/
  | other (text : String)
deriving DecidableEq

def Mode.text : Mode → String
  | .auto => "auto"
  | .rsync => "rsync"
  | .tar => "tar"
  | .other text => text

structure PodVolume where
  name : String
  /-- The claim, or none for an empty directory. -/
  claim : Option (String × Bool)
deriving DecidableEq

structure VolumeMount where
  name : String
  mountPath : String
  readOnly : Bool
deriving DecidableEq

structure JobSpec where
  ns : String
  name : String
  labels : List (String × String)
  annotations : List (String × String)
  backoffLimit : Int
  serviceAccountName : String
  image : String
  /-- The copy script, by the mode it is rendered for. -/
  script : Mode
  volumes : List PodVolume
  volumeMounts : List VolumeMount
deriving DecidableEq

def JobSpec.claimAt (j : JobSpec) (path : String) : Option String := do
  let mount ← j.volumeMounts.find? (·.mountPath == path)
  let volume ← j.volumes.find? (·.name == mount.name)
  return (← volume.claim).1

inductive JobCondition where
  | complete
  | failed
  | suspended
deriving DecidableEq

structure Job where
  uid : Nat
  spec : JobSpec
  /-- How many of its pods have failed. -/
  failed : Nat := 0
  /-- The conditions with their status. -/
  conditions : List (JobCondition × Bool) := []
deriving DecidableEq

def Job.isNamed (j : Job) (ns name : String) : Bool := j.spec.ns == ns && j.spec.name == name

inductive PodPhase where
  | pending
  | running
  | succeeded
  | failed
deriving DecidableEq

structure ContainerStatus where
  name : String
  /-- The message of a container that has ended. -/
  terminated : Option String := none
deriving DecidableEq

/-- A pod of a Job, with its mounted volumes. -/
structure Pod where
  ns : String
  /-- The value of the label `job-name`. -/
  jobName : String
  /-- The Job that owns it. -/
  owner : Nat
  created : Nat
  phase : PodPhase := .running
  source : Volume
  target : Volume
  containerStatuses : List ContainerStatus := []
deriving DecidableEq

def Pod.isOf (p : Pod) (ns jobName : String) : Bool := p.ns == ns && p.jobName == jobName

/-- The cluster and the appliance that the target is on. -/
structure World where
  claims : List Claim := []
  volumes : List PersistentVolume := []
  classes : List StorageClass := []
  jobs : List Job := []
  pods : List Pod := []
  nextUid : Nat := 0
  /-- The datasets of the appliance the target is on. -/
  storage : Appliance.Storage
  /-- What is on each volume. -/
  files : Volume → Files := fun _ => []

inductive Call where
  | getClaim (ns name : String)
  | getVolume (name : String)
  | getClass (name : String)
  /-- The Job of a name, if found. -/
  | getJob (ns name : String)
  /-- Create a Job, unless it exists. -/
  | createJob (spec : JobSpec)
  | listPods (ns jobName : String)
  | queryDataset (id : String)

@[reducible] def Call.Answer : Call → Type
  | .getClaim _ _ => Claim
  | .getVolume _ => PersistentVolume
  | .getClass _ => StorageClass
  | .getJob _ _ => Option Job
  | .createJob _ => Option Job
  | .listPods _ _ => List Pod
  | .queryDataset _ => List Appliance.Dataset

namespace World

variable (w : World) (ns name : String)

def claim? : Option Claim :=
  w.claims.find? fun c => c.ns == ns && c.name == name

def volume? : Option PersistentVolume :=
  w.volumes.find? (·.name == name)

def job? : Option Job := w.jobs.find? (·.isNamed ns name)

def podsOf (jobName : String) : List Pod := w.pods.filter (·.isOf ns jobName)

def resolve : Option Volume := do
  let claim ← w.claim? ns name
  if claim.phase = .bound ∧ claim.volumeName ≠ "" then
    return (← w.volume? claim.volumeName).volume
  else none

def notFound (resource name : String) : Err :=
  .plain (resource ++ " " ++ Text.quote name ++ " not found")

def found {α : Type} (resource name : String) : Option α → Except Err α
  | some a => .ok a
  | none => .error (notFound resource name)

def createJob (w : World) (spec : JobSpec) : Option Job × World :=
  if (w.job? spec.ns spec.name).isSome then (none, w)
  else
    let job : Job := { uid := w.nextUid, spec }
    (some job, { w with jobs := w.jobs ++ [job], nextUid := w.nextUid + 1 })

def act : (c : Call) → Except Err c.Answer × World
  | .getClaim ns name => (found "persistentvolumeclaims" name (w.claim? ns name), w)
  | .getVolume name => (found "persistentvolumes" name (w.volume? name), w)
  | .getClass name =>
    (found "storageclasses.storage.k8s.io" name (w.classes.find? (·.name == name)), w)
  | .getJob ns name => (.ok (w.job? ns name), w)
  | .createJob spec => (.ok (w.createJob spec).1, (w.createJob spec).2)
  | .listPods ns jobName => (.ok (w.podsOf ns jobName), w)
  | .queryDataset id => (.ok (w.storage.dataset? id).toList, w)

def handle (fault : Fault) (c : Call) (w : World) : Except Err c.Answer × World :=
  match fault with
  | .none => w.act c
  | .refused e => (.error e.err, w)
  | .lost e => (.error e.err, (w.act c).2)

end World

abbrev G := Prog Call Call.Answer Err

abbrev G.wp {α : Type} (p : G α) (Q : Except Err α → World → Prop) (w : World) : Prop :=
  Prog.wp World.handle p Q w

abbrev G.run {α : Type} (p : G α) (faults : List Fault) (w : World) : Except Err α × World :=
  Prog.run World.handle p faults w

abbrev G.yields {α : Type} (p : G α) (Q : α → World → Prop) (w : World) : Prop :=
  Prog.yields World.handle p Q w

variable (ns name : String)

def getClaim : G Claim := Prog.issue (Call.getClaim ns name)

def getVolume : G PersistentVolume := Prog.issue (Call.getVolume name)

def getClass : G StorageClass := Prog.issue (Call.getClass name)

def getJob : G (Option Job) := Prog.issue (Call.getJob ns name)

def createJob (spec : JobSpec) : G (Option Job) := Prog.issue (Call.createJob spec)

def listPods (jobName : String) : G (List Pod) := Prog.issue (Call.listPods ns jobName)

def queryDataset (id : String) : G (List Appliance.Dataset) := Prog.issue (Call.queryDataset id)

def Call.Reads : Call → Prop
  | .createJob _ => False
  | _ => True

variable {c : Call} {w : World}

theorem handle_reads (reads : c.Reads) (fault : Fault) (w : World) :
    (World.handle fault c w).2 = w := by
  cases c <;> first | exact reads.elim | (cases fault <;> rfl)

theorem handle_answer {fault : Fault} {a : c.Answer}
    (answered : (World.handle fault c w).1 = .ok a) :
    (w.act c).1 = .ok a ∧ (World.handle fault c w).2 = (w.act c).2 := by
  cases fault with
  | none => exact ⟨answered, rfl⟩
  | refused e => cases answered
  | lost e => cases answered

theorem yields_issue {Q : c.Answer → World → Prop}
    (ends : ∀ a, (w.act c).1 = .ok a → Q a (w.act c).2) : G.yields (Prog.issue c) Q w := by
  refine Prog.yields_iff_wp.mpr (Prog.wp_issue.mpr fun fault a answered => ?_)
  have carried := handle_answer answered
  rw [carried.2]
  exact ends a carried.1

end TruenasCsi.Migration
