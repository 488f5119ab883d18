import TruenasCsi.Appliance.World
import TruenasCsi.Replication.Resource
import TruenasCsi.Replication.Site

/-! What the engine and the reconciler talk to. -/

namespace TruenasCsi.Replication

instance : Inhabited StorageProtectionGroup :=
  ⟨{ ns := "", name := "", spec := { sourceBackend := "", targetBackend := "", volumeHandles := [] } }⟩

structure World where
  site : String → Site
  /-- Backends that have been dialled. -/
  connected : List String := []
  /-- The store in the process's memory, by group. -/
  records : Dict State := ∅
  /-- The object as the reconcile in progress has it. -/
  copy : StorageProtectionGroup := default
  /-- The objects on the API server. -/
  objects : List StorageProtectionGroup := []

inductive Call where
  | api (backend : String) (op : Op)
  /-- Obtain the client of a backend. -/
  | client (backend : String)
  | load (group : String)
  | save (group : String) (st : State)
  | read
  | write (spg : StorageProtectionGroup)
  | get (ns name : String)
  | update (spg : StorageProtectionGroup)
  | updateStatus (spg : StorageProtectionGroup)

@[reducible] def Call.Answer : Call → Type
  | .api _ op => op.Answer
  | .client _ => Unit
  | .load _ => State
  | .save _ _ => Unit
  | .read => StorageProtectionGroup
  | .write _ => Unit
  | .get _ _ => Option StorageProtectionGroup
  | .update _ => Unit
  | .updateStatus _ => Unit

namespace World

variable (w : World) (backend : String) (id : Nat) (spg : StorageProtectionGroup) (s : Site)

def setSite : World :=
  { w with site := Function.update w.site backend s }

variable (result : Except Err Unit) (ns : String) (fault : Fault) (task : ReplicationTask)
  (name : String)

def finished : ReplicationTask :=
  if task.id = id then
    match result with
    | .ok () => { task with state := "SUCCESS", error := "" }
    | .error e => { task with state := "ERROR", error := e.text }
  else task

theorem finished_name : (finished id result task).name = task.name := by
  unfold finished
  split_ifs
  · cases result <;> rfl
  · rfl

/-- Run a task towards where its credential leads. -/
def runReplication : Except Err Unit × World :=
  match (w.site backend).replications.withID id with
  | none => (.error (Site.replicationMissing "replication.run" id), w)
  | some task =>
    if !task.enabled then
      (.error (.call "replication.run" "EFAULT" "[EFAULT] Task is not enabled"), w)
    else
      match (w.site backend).peer task.sshCredentials with
      | none => (.error (.call "replication.run" "EFAULT" "[EFAULT] No route to host"), w)
      | some other =>
        let received := Site.receiveAll task (w.site backend) task.sourceDatasets (w.site other)
        let sent := w.setSite other received.2
        (received.1, sent.setSite backend { sent.site backend with
          replications := (sent.site backend).replications.modify (finished id received.1)
            (finished_name id received.1) })

def act (w : World) (backend : String) : (op : Op) → Except Err op.Answer × World
  | .replicationRun id => w.runReplication backend id
  | .dataset op => lift (.dataset op)
  | .promote id => lift (.promote id)
  | .snapshotsOf dataset => lift (.snapshotsOf dataset)
  | .replicationQuery name => lift (.replicationQuery name)
  | .replicationCreate spec => lift (.replicationCreate spec)
  | .replicationUpdate id enabled => lift (.replicationUpdate id enabled)
  | .replicationDelete id => lift (.replicationDelete id)
  | .snapshotTaskQuery dataset => lift (.snapshotTaskQuery dataset)
  | .snapshotTaskCreate spec => lift (.snapshotTaskCreate spec)
  | .snapshotTaskUpdate id enabled => lift (.snapshotTaskUpdate id enabled)
  | .snapshotTaskDelete id => lift (.snapshotTaskDelete id)
where
  /-- A call that concerns one site only. -/
  lift (op : Op) : Except Err op.Answer × World :=
    (((w.site backend).act op).1, w.setSite backend ((w.site backend).act op).2)

def isObject (spg : StorageProtectionGroup) : Bool :=
  spg.ns == ns && spg.name == name

def object? : Option StorageProtectionGroup :=
  w.objects.find? (isObject ns name)

def objectMissing : Err :=
  .plain ("storageprotectiongroups.replication.truenas.io " ++ Text.quote spg.name ++ " not found")

/-- An update leaves the status alone. -/
def updated : World :=
  { w with objects := w.objects.filterMap fun stored =>
      if isObject spg.ns spg.name stored then
        if stored.deleting && spg.finalizers == [] then none
        else some { stored with finalizers := spg.finalizers, spec := spg.spec }
      else some stored }

def statusUpdated : World :=
  { w with objects := w.objects.map fun stored =>
      if isObject spg.ns spg.name stored then { stored with status := spg.status } else stored }

def faulty {α : Type} (fault : Fault) (done : Except Err α × World) (w : World) : Except Err α × World :=
  match fault with
  | .none => done
  | .refused e => (.error e.err, w)
  | .lost e => (.error e.err, done.2)

def handle : (c : Call) → World → Except Err c.Answer × World
  | .api backend op, w => faulty fault (w.act backend op) w
  | .client backend, w =>
    if backend ∈ w.connected then (.ok (), w)
    else
      match fault with
      | .none => (.ok (), { w with connected := backend :: w.connected })
      | .refused e => (.error e.err, w)
      | .lost e => (.error e.err, w)
  | .load group, w => (.ok (w.records.getD group {}), w)
  | .save group st, w => (.ok (), { w with records := w.records.set group st })
  | .read, w => (.ok w.copy, w)
  | .write spg, w => (.ok (), { w with copy := spg })
  | .get ns name, w => faulty fault (.ok (w.object? ns name), w) w
  | .update spg, w =>
    faulty fault (if (w.object? spg.ns spg.name).isNone then (.error (objectMissing spg), w)
      else (.ok (), w.updated spg)) w
  | .updateStatus spg, w =>
    faulty fault (if (w.object? spg.ns spg.name).isNone then (.error (objectMissing spg), w)
      else (.ok (), w.statusUpdated spg)) w

@[simp] theorem setSite_self : (w.setSite backend s).site backend = s :=
  Function.update_self ..

theorem setSite_other {backend other : String} (different : other ≠ backend) :
    (w.setSite backend s).site other = w.site other :=
  Function.update_of_ne different ..

@[simp] theorem setSite_site : w.setSite backend (w.site backend) = w := by
  simp [setSite]

end World

abbrev R := Prog Call Call.Answer Err

abbrev R.wp {α : Type} (p : R α) (Q : Except Err α → World → Prop) (w : World) : Prop :=
  Prog.wp World.handle p Q w

abbrev R.run {α : Type} (p : R α) (faults : List Fault) (w : World) : Except Err α × World :=
  Prog.run World.handle p faults w

abbrev R.yields {α : Type} (p : R α) (Q : α → World → Prop) (w : World) : Prop :=
  Prog.yields World.handle p Q w

/-- The engine's view of a client. -/
abbrev Caller := (op : Op) → R op.Answer

def caller (backend : String) : Caller := fun op => Prog.issue (Call.api backend op)

end TruenasCsi.Replication
