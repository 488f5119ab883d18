import TruenasCsi.Support.Prog
import TruenasCsi.Appliance.Dataset
import TruenasCsi.Appliance.Iscsi
import TruenasCsi.Appliance.Nvmet

/-! The driver's surroundings: one appliance per backend, and the process. -/

namespace TruenasCsi

open Appliance (DatasetOp NfsOp SmbOp IscsiOp NvmetOp)

namespace Appliance

structure State where
  storage : Storage := {}
  nfs : NfsTable := {}
  smb : SmbTable := {}
  iscsi : Iscsi := {}
  nvmet : Nvmet := {}

inductive Op where
  | dataset (op : DatasetOp)
  | nfs (op : NfsOp)
  | smb (op : SmbOp)
  | iscsi (op : IscsiOp)
  | nvmet (op : NvmetOp)

@[reducible] def Op.Answer : Op → Type
  | .dataset op => op.Answer
  | .nfs op => op.Answer
  | .smb op => op.Answer
  | .iscsi op => op.Answer
  | .nvmet op => op.Answer

def State.act : (op : Op) → State → Except Err op.Answer × State
  | .dataset op, a => ((Storage.act op a.storage).1, { a with storage := (Storage.act op a.storage).2 })
  | .nfs op, a => ((NfsTable.act op a.nfs).1, { a with nfs := (NfsTable.act op a.nfs).2 })
  | .smb op, a => ((SmbTable.act op a.smb).1, { a with smb := (SmbTable.act op a.smb).2 })
  | .iscsi op, a => ((Iscsi.act op a.iscsi).1, { a with iscsi := (Iscsi.act op a.iscsi).2 })
  | .nvmet op, a => ((Nvmet.act op a.nvmet).1, { a with nvmet := (Nvmet.act op a.nvmet).2 })

theorem State.act_error {op : Op} {a : State} {e : Err} (refused : (a.act op).1 = .error e) :
    (a.act op).2 = a := by
  cases op with
  | dataset op => exact congrArg (fun s => { a with storage := s }) (Storage.act_error refused)
  | nfs op => exact congrArg (fun t => { a with nfs := t }) (NfsTable.act_error refused)
  | smb op => exact congrArg (fun t => { a with smb := t }) (SmbTable.act_error refused)
  | iscsi op => exact congrArg (fun t => { a with iscsi := t }) (Iscsi.act_error refused)
  | nvmet op => exact congrArg (fun t => { a with nvmet := t }) (Nvmet.act_error refused)

end Appliance

/-- What the driver holds in memory: locks and reserved LUNs. -/
structure Process where
  /-- Volumes an RPC is at work on. -/
  volumeLocks : List String := []
  connected : List String := []
  /-- LUNs promised and not mapped yet, by target. -/
  lunReserved : Nat → List Nat := fun _ => []
  lunLocks : List Nat := []
  targetLocks : List String := []
  portsLocked : Bool := false

inductive ProcessOp where
  | tryAcquire (volume : String)
  | release (volume : String)
  | lockTarget (name : String)
  | unlockTarget (name : String)
  | lockLUNs (target : Nat)
  | unlockLUNs (target : Nat)
  | lockPorts
  | unlockPorts
  /-- Drop the reservations that are mapped by now. -/
  | pruneLUNs (target : Nat) (used : List Nat)
  | reserveLUN (target lun : Nat)
  | releaseLUN (target lun : Nat)

@[reducible] def ProcessOp.Answer : ProcessOp → Type
  | .tryAcquire _ => Bool
  | .pruneLUNs _ _ => List Nat
  | _ => Unit

namespace Process

def setReserved (p : Process) (target : Nat) (luns : List Nat) : Process :=
  { p with lunReserved := Function.update p.lunReserved target luns }

def act : (op : ProcessOp) → Process → op.Answer × Process
  | .tryAcquire volume, p =>
    if volume ∈ p.volumeLocks then (false, p)
    else (true, { p with volumeLocks := volume :: p.volumeLocks })
  | .release volume, p => ((), { p with volumeLocks := p.volumeLocks.filter (· ≠ volume) })
  | .lockTarget name, p => ((), { p with targetLocks := name :: p.targetLocks })
  | .unlockTarget name, p => ((), { p with targetLocks := p.targetLocks.filter (· ≠ name) })
  | .lockLUNs target, p => ((), { p with lunLocks := target :: p.lunLocks })
  | .unlockLUNs target, p => ((), { p with lunLocks := p.lunLocks.filter (· ≠ target) })
  | .lockPorts, p => ((), { p with portsLocked := true })
  | .unlockPorts, p => ((), { p with portsLocked := false })
  | .pruneLUNs target used, p =>
    let kept := (p.lunReserved target).filter (· ∉ used)
    (kept, p.setReserved target kept)
  | .reserveLUN target lun, p => ((), p.setReserved target (lun :: p.lunReserved target))
  | .releaseLUN target lun, p => ((), p.setReserved target ((p.lunReserved target).filter (· ≠ lun)))

end Process

/-- All appliances and one process. -/
structure World where
  appliance : String → Appliance.State
  process : Process := {}

inductive Call where
  | api (backend : String) (op : Appliance.Op)
  /-- Obtain the client of a backend. -/
  | client (backend : String)
  | process (op : ProcessOp)

@[reducible] def Call.Answer : Call → Type
  | .api _ op => op.Answer
  | .client _ => Unit
  | .process op => op.Answer

/-- A failure that is no absence. -/
structure Failure where
  err : Err
  notAbsence : err.isNotFound = false
  bare : err.sentinels = []

def Failure.plain (detail : String) : Failure := ⟨.plain detail, rfl, rfl⟩

/-- What can happen to a call: nothing, a refusal, or an answer that is lost after it took effect. -/
inductive Fault where
  | none
  /-- The call fails and has no effect. -/
  | refused (e : Failure)
  /-- The call takes effect and its answer is lost. -/
  | lost (e : Failure)

instance : Inhabited Fault := ⟨.none⟩

namespace World

variable (w : World) (backend : String) (a : Appliance.State)

def setAppliance : World :=
  { w with appliance := Function.update w.appliance backend a }

def acted (op : Appliance.Op) : World :=
  w.setAppliance backend ((w.appliance backend).act op).2

/-- A call that is refused changes nothing; one whose answer is lost has been carried out. -/
def handle : Fault → (c : Call) → World → Except Err c.Answer × World
  | .none, .api backend op, w => (((w.appliance backend).act op).1, w.acted backend op)
  | .refused e, .api _ _, w => (.error e.err, w)
  | .lost e, .api backend op, w => (.error e.err, w.acted backend op)
  | fault, .client backend, w =>
    if backend ∈ w.process.connected then (.ok (), w)
    else
      match fault with
      | .none => (.ok (), { w with process := { w.process with
          connected := backend :: w.process.connected } })
      | .refused e => (.error e.err, w)
      | .lost e => (.error e.err, w)
  | _, .process op, w => (.ok (w.process.act op).1, { w with process := (w.process.act op).2 })

theorem handle_process (fault : Fault) (op : ProcessOp) (w : World) :
    handle fault (.process op) w =
      (.ok (w.process.act op).1, { w with process := (w.process.act op).2 }) := by
  cases fault <;> rfl

@[simp] theorem setAppliance_self : (w.setAppliance backend a).appliance backend = a :=
  Function.update_self ..

theorem setAppliance_other {backend other : String} (different : other ≠ backend) :
    (w.setAppliance backend a).appliance other = w.appliance other :=
  Function.update_of_ne different ..

@[simp] theorem setAppliance_process : (w.setAppliance backend a).process = w.process := rfl

@[simp] theorem setAppliance_appliance : w.setAppliance backend (w.appliance backend) = w := by
  simp [setAppliance]

end World

/-- Programs of the driver. -/
abbrev M := Prog Call Call.Answer Err

abbrev M.wp {α : Type} (p : M α) (Q : Except Err α → World → Prop) (w : World) : Prop :=
  Prog.wp World.handle p Q w

abbrev M.run {α : Type} (p : M α) (faults : List Fault) (w : World) : Except Err α × World :=
  Prog.run World.handle p faults w

abbrev M.yields {α : Type} (p : M α) (Q : α → World → Prop) (w : World) : Prop :=
  Prog.yields World.handle p Q w

def middleware (backend : String) (op : Appliance.Op) : M op.Answer :=
  Prog.issue (Call.api backend op)

def process (op : ProcessOp) : M op.Answer := Prog.issue (Call.process op)

variable {op : Appliance.Op} {backend : String} {w : World}

/-- A call fails before or after its effect, or answers. -/
theorem wp_middleware {Q : Except Err op.Answer → World → Prop}
    : M.wp (middleware backend op) Q w ↔ (∀ e : Failure, Q (.error e.err) w) ∧
      (∀ e : Failure, Q (.error e.err) (w.acted backend op)) ∧
      Q ((w.appliance backend).act op).1 (w.acted backend op) := by
  unfold M.wp middleware
  rw [Prog.wp_issue]
  constructor
  · intro ends
    exact ⟨fun e => ends (.refused e), fun e => ends (.lost e), ends .none⟩
  · rintro ⟨refused, lost, answered⟩ fault
    cases fault with
    | none => exact answered
    | refused e => exact refused e
    | lost e => exact lost e

theorem yields_middleware {Q : op.Answer → World → Prop}
    (ends : ∀ a, ((w.appliance backend).act op).1 = .ok a → Q a (w.acted backend op)) :
    M.yields (middleware backend op) Q w := by
  refine Prog.yields_iff_wp.mpr (wp_middleware.mpr ⟨?_, ?_, ends⟩)
  · nofun
  · nofun

theorem wp_process {op : ProcessOp} {Q : Except Err op.Answer → World → Prop} :
    M.wp (process op) Q w ↔
      Q (.ok (w.process.act op).1) { w with process := (w.process.act op).2 } := by
  unfold M.wp process
  rw [Prog.wp_issue]
  constructor
  · intro ends
    exact ends .none
  · intro ends fault
    cases fault <;> exact ends

end TruenasCsi
