import TruenasCsi.Migration.Cluster
import TruenasCsi.Truenas.Ops

/-! Planning and running a migration. -/

namespace TruenasCsi.Migration

open Text (quote)

def sourceVolumeName : String := "source"

def targetVolumeName : String := "target"

def sourceMountPath : String := "/source"

def targetMountPath : String := "/target"

def workVolumeName : String := "work"

def workMountPath : String := "/work"

def containerName : String := "copy"

def defaultImage : String := "docker.io/library/alpine:3.22"

def defaultBackoffLimit : Int := 4

structure Endpoint where
  ns : String
  claim : String
  persistentVol : String
  driver : String := ""
  handle : String := ""
  capacityBytes : Int := 0
deriving DecidableEq

def Endpoint.volume (e : Endpoint) : Volume := .of e.persistentVol e.driver e.handle

structure Request where
  sourceNamespace : String
  sourcePVC : String
  targetPVC : String
  /-- Empty asks for the default. -/
  mode : Option Mode := none
  image : String := ""
  serviceAccount : String := ""
  backoffLimit : Int := 0
deriving DecidableEq

structure Plan where
  source : Endpoint
  target : Endpoint
  targetVolume : TruenasCsi.Volume.ID
  targetDataset : String
  ns : String
  jobName : String
  mode : Mode
  image : String
  serviceAccount : String
  backoffLimit : Int
  job : Option JobSpec := none
deriving DecidableEq

/-- Derived from the claims, so two plans of the same claims share a job. -/
def jobName (sha256 : String → String) (ns sourcePVC targetPVC : String) : String :=
  "truenas-csi-migrate-" ++
    String.ofList ((sha256 (ns ++ "\x00" ++ sourcePVC ++ "\x00" ++ targetPVC)).toList.take 16)

variable (p : Plan) (ns : String)

def buildJob : JobSpec where
  ns := p.ns
  name := p.jobName
  labels := [("app.kubernetes.io/name", "truenas-csi-migration"),
    ("app.kubernetes.io/component", "copy"),
    ("truenas-csi.io/source-pvc", p.source.claim),
    ("truenas-csi.io/target-pvc", p.target.claim)]
  annotations := [("truenas-csi.io/source-driver", p.source.driver),
    ("truenas-csi.io/target-handle", p.target.handle),
    ("truenas-csi.io/target-dataset", p.targetDataset),
    ("truenas-csi.io/mode", p.mode.text)]
  backoffLimit := if p.backoffLimit = 0 then defaultBackoffLimit else p.backoffLimit
  serviceAccountName := p.serviceAccount
  image := p.image
  script := p.mode
  -- The source is read-only in the volume and in the mount.
  volumes := [⟨sourceVolumeName, some (p.source.claim, true)⟩,
    ⟨targetVolumeName, some (p.target.claim, false)⟩, ⟨workVolumeName, none⟩]
  volumeMounts := [⟨sourceVolumeName, sourceMountPath, true⟩,
    ⟨targetVolumeName, targetMountPath, false⟩, ⟨workVolumeName, workMountPath, false⟩]

@[simp] theorem claimAt_source : (buildJob p).claimAt sourceMountPath = some p.source.claim := rfl

@[simp] theorem claimAt_target : (buildJob p).claimAt targetMountPath = some p.target.claim := rfl

structure Migrator where
  sha256 : String → String
  driverName : String := "csi.truenas.watteel.com"
  backend : String
  pool : String
  parentDataset : String

def notEligible (detail : String) : Err :=
  .sentinel .notEligible ("migration request is not eligible: " ++ detail)

/-- Why a claim of a late-binding class is pending. -/
def bindingHint (pvc : Claim) : G String :=
  match pvc.storageClassName with
  | none => return ""
  | some name =>
    if name = "" then return ""
    else do
      match ← (getClass name).attempt with
      | .error _ => return ""
      | .ok sc =>
        if sc.volumeBindingMode = some .waitForFirstConsumer then
          return "StorageClass " ++ quote name ++
            " uses volumeBindingMode: WaitForFirstConsumer, " ++
            "so the claim stays Pending until a pod is scheduled with it -- and " ++
            "migration cannot be that pod, because the target's dataset has to be " ++
            "verified as this driver's before any Job exists. Bind " ++ pvc.ns ++ "/" ++ pvc.name ++
            " first by running any short-lived pod that mounts it, or provision the target from " ++
            "a StorageClass with volumeBindingMode: Immediate. docs/migration.md, " ++
            "\"Preparing the target\", has a manifest to paste."
        else return ""

variable (name : String) (m : Migrator)

def endpointOf (pv : PersistentVolume) : Endpoint where
  ns := ns
  claim := name
  persistentVol := pv.name
  driver := pv.driver
  handle := pv.handle
  capacityBytes := pv.capacity.getD 0

def endpoint : G Endpoint := do
  let pvc ← (getClaim ns name).mapError
    fun e => e.wrap ("reading PersistentVolumeClaim " ++ ns ++ "/" ++ name ++ ": ")
  if pvc.phase ≠ .bound ∨ pvc.volumeName = "" then do
    let hint ← bindingHint pvc
    throw (notEligible (ns ++ "/" ++ name ++ " is " ++ pvc.phase.text ++ ", not Bound" ++
      if hint = "" then "" else ". " ++ hint))
  else do
    let pv ← (getVolume pvc.volumeName).mapError
      fun e => e.wrap ("reading PersistentVolume " ++ pvc.volumeName ++ ": ")
    return endpointOf ns name pv

def Migrator.verifyOwned (dataset : String) : G Unit := do
  let gone : Err := .sentinel .notManaged
    ("dataset is not managed by this driver — refusing to delete: " ++ quote dataset ++
      " does not exist on " ++ m.backend)
  match ← (queryDataset dataset).attempt with
  | .error e => throw (if e.isNotFound then gone
      else e.wrap ("querying target dataset " ++ quote dataset ++ ": "))
  | .ok [] => throw gone
  | .ok (ds :: _) =>
    (Prog.ofExcept (Truenas.verifyOwned ds)).mapError
      fun e => e.wrap ("refusing to migrate into " ++ quote dataset ++ ": ")

/-- The volume of a target that may be written. -/
def Migrator.targetVolume (dst : Endpoint) : Except Err TruenasCsi.Volume.ID := do
  if dst.driver ≠ m.driverName then
    throw (notEligible ("target " ++ dst.ns ++ "/" ++ dst.claim ++ " is served by " ++
      quote dst.driver ++ ", not " ++ quote m.driverName))
  else
    let context := fun e : Err => e.wrap ("target " ++ dst.ns ++ "/" ++ dst.claim ++ ": ")
    let id ← (TruenasCsi.Volume.parseID dst.handle).mapError context
    if id.backend ≠ m.backend then
      throw (notEligible ("target lives on backend " ++ quote id.backend ++
        ", this migrator serves " ++ quote m.backend))
    else
      (TruenasCsi.Volume.confine id m.pool m.parentDataset).mapError context
      return id

def planFor (sha256 : String → String) (r : Request) (src dst : Endpoint)
    (id : TruenasCsi.Volume.ID) : Plan :=
  let p : Plan :=
    { source := src
      target := dst
      targetVolume := id
      targetDataset := id.datasetPath
      ns := r.sourceNamespace
      jobName := jobName sha256 r.sourceNamespace r.sourcePVC r.targetPVC
      mode := r.mode.getD .auto
      image := if r.image = "" then defaultImage else r.image
      serviceAccount := r.serviceAccount
      backoffLimit := r.backoffLimit }
  { p with job := some (buildJob p) }

/-- Everything that is checked before a job is made. -/
def Migrator.plan (r : Request) : G Plan :=
  if r.sourceNamespace = "" ∨ r.sourcePVC = "" ∨ r.targetPVC = "" then
    throw (notEligible "sourceNamespace, sourcePVC and targetPVC are all required")
  else if r.sourcePVC = r.targetPVC then
    throw (notEligible ("source and target are the same claim " ++ quote r.sourcePVC))
  else do
    let src ← (endpoint r.sourceNamespace r.sourcePVC).mapError fun e => e.wrap "source: "
    let dst ← (endpoint r.sourceNamespace r.targetPVC).mapError fun e => e.wrap "target: "
    let id ← Prog.ofExcept (m.targetVolume dst)
    m.verifyOwned id.datasetPath
    if 0 < dst.capacityBytes ∧ 0 < src.capacityBytes ∧ dst.capacityBytes < src.capacityBytes then
      throw (notEligible ("target is " ++ toString dst.capacityBytes ++ " bytes, source is " ++
        toString src.capacityBytes ++ " bytes"))
    else return planFor m.sha256 r src dst id

inductive Phase where
  | running
  | succeeded
  | failed
deriving DecidableEq

structure Report where
  ns : String
  jobName : String
  source : Endpoint
  target : Endpoint
  phase : Phase := .running
  summary : Option Summary := none
  verified : Bool := false
  message : String := ""
  sourceRetained : Bool := true
deriving DecidableEq

def finished (j : Job) (want : JobCondition) : Bool := j.conditions.any (· == (want, true))

/-- The youngest pod that has succeeded. -/
def newestSucceeded : Option Pod → List Pod → Option Pod
  | newest, [] => newest
  | newest, pod :: rest =>
    if pod.phase ≠ .succeeded then newestSucceeded newest rest
    else
      match newest with
      | none => newestSucceeded (some pod) rest
      | some best => newestSucceeded (some (if best.created < pod.created then pod else best)) rest

def copyMessage (pod : Pod) : Option String :=
  pod.containerStatuses.findSome? fun cs => if cs.name = containerName then cs.terminated else none

def summaryOf : Option Pod → Except Err (Option Summary)
  | none => .ok none
  | some pod =>
    match copyMessage pod with
    | none => .ok none
    | some message => parseSummary message

def summary : G (Option Summary) := do
  let pods ← (listPods p.ns p.jobName).mapError
    fun e => e.wrap ("listing pods of migration job " ++ p.jobName ++ ": ")
  Prog.ofExcept (summaryOf (newestSucceeded none pods))

/-- A job of the name is taken for this plan's own. -/
def adopt (spec : JobSpec) : G Job := do
  match ← (getJob p.ns p.jobName).mapError
      fun e => e.wrap ("reading migration job " ++ p.jobName ++ ": ") with
  | some job => return job
  | none =>
    match ← (createJob spec).mapError
        fun e => e.wrap ("creating migration job " ++ p.jobName ++ ": ") with
    | some job => return job
    -- A concurrent run was faster.
    | none =>
      match ← (getJob p.ns p.jobName).mapError
          fun e => e.wrap ("adopting migration job " ++ p.jobName ++ ": ") with
      | some job => return job
      | none => throw ((World.notFound "jobs.batch" p.jobName).wrap
          ("adopting migration job " ++ p.jobName ++ ": "))

def judged (rep : Report) : Except Err (Option Summary) → Report
  | .error e => { rep with phase := .failed, message := e.text }
  | .ok summary =>
    match Summary.check summary with
    | .error e => { rep with summary, phase := .failed, message := e.text }
    | .ok () => { rep with
        summary
        phase := .succeeded
        verified := true
        message := "verified " ++ toString (summary.getD {}).sourceFiles ++
          " files; the source volume was NOT deleted — reclaiming it is your decision" }

/-- Starts or adopts the job, and judges it by its pod's summary. -/
def run (plan : Option Plan) : G Report :=
  match plan with
  | none => throw (notEligible "Run needs a Plan from Plan()")
  | some p =>
    match p.job with
    | none => throw (notEligible "Run needs a Plan from Plan()")
    | some spec => do
      let job ← adopt p spec
      let rep : Report := { ns := p.ns, jobName := p.jobName, source := p.source, target := p.target }
      if 0 < job.failed ∧ finished job .failed = true then
        return { rep with
          phase := .failed
          message := "the copy job failed; re-run to resume from the partial copy" }
      else if finished job .complete then do
        let read ← (summary p).attempt
        return judged rep read
      else return { rep with message := "the copy job is running" }

end TruenasCsi.Migration
