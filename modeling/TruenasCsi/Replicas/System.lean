import Mathlib.Order.CompletePartialOrder
import TruenasCsi.Support.Rely
import TruenasCsi.Fencing.Shares

/-! Two replicas of the driver work on one volume. -/

namespace TruenasCsi.Replicas

open Backend Fencing

/-- The replica that publishes and the one that revokes. -/
inductive Party where
  | publisher
  | revoker
deriving DecidableEq

/-- The appliances, processes and calls so far. -/
structure State where
  appliance : String → Appliance.State
  process : Party → Process
  log : List (Party × Call)

namespace State

variable (s : State) (i : Party)

def world : World := ⟨s.appliance, s.process i⟩

def seen : World := { appliance := s.appliance }

def after (c : Call) (w : World) : State where
  appliance := w.appliance
  process := Function.update s.process i w.process
  log := (i, c) :: s.log

def handle : Party × Fault → (c : Call) → State → Except Err c.Answer × State
  | (i, fault), c, s =>
    ((World.handle fault c (s.world i)).1, s.after i c (World.handle fault c (s.world i)).2)

end State

/-- What both of them read and write back. -/
inductive Record where
  | ledger
  | hosts
deriving DecidableEq

namespace Record

def reads : Record → Call → Bool
  | .ledger, .api _ (.dataset (.query _)) => true
  | .hosts, .api _ (.nfs (.query _)) => true
  | .hosts, .api _ (.smb (.query _)) => true
  | _, _ => false

def writes : Record → Call → Bool
  | .ledger, .api _ (.dataset op) => !op.reads
  | .hosts, .api _ (.nfs (.query _)) => false
  | .hosts, .api _ (.nfs _) => true
  | .hosts, .api _ (.smb (.query _)) => false
  | .hosts, .api _ (.smb _) => true
  | _, _ => false

/-- The record of the volume is as it was. -/
def Same (r : Record) (v : Volume.ID) (s t : State) : Prop :=
  match r with
  | .ledger => (t.appliance v.backend).storage = (s.appliance v.backend).storage
  | .hosts => (t.appliance v.backend).nfs = (s.appliance v.backend).nfs ∧
      (t.appliance v.backend).smb = (s.appliance v.backend).smb

variable {r : Record} {v : Volume.ID}

theorem Same.refl {s t : State} (same : t.appliance = s.appliance) : r.Same v s t := by
  cases r <;> simp [Same, same]

theorem Same.trans {s t u : State} (first : r.Same v s t)
    (second : r.Same v t u) : r.Same v s u := by
  cases r with
  | ledger => exact Eq.trans second first
  | hosts => exact ⟨second.1.trans first.1, second.2.trans first.2⟩

end Record

/-- Another process has written the record since. -/
def overtaken (i : Party) (r : Record) : List (Party × Call) → Bool
  | [] => false
  | (j, c) :: earlier =>
    j != i && r.writes c && (earlier.any fun (k, d) => k == i && r.reads d) || overtaken i r earlier

section

variable {i j : Party} {r : Record} {c : Call} {log : List (Party × Call)}

theorem overtaken_own : overtaken i r ((i, c) :: log) = overtaken i r log := by
  simp [overtaken]

theorem overtaken_earlier (fresh : overtaken i r ((j, c) :: log) = false) :
    overtaken i r log = false :=
  (Bool.or_eq_false_iff.mp fresh).2

/-- Who writes over something newer than what they read is overtaken. -/
theorem overtaken_write (other : j ≠ i) (writes : r.writes c = true) {d : Call}
    (read : (i, d) ∈ log) (reads : r.reads d = true) : overtaken i r ((j, c) :: log) = true := by
  have before : (log.any fun (k, d) => k == i && r.reads d) = true :=
    List.any_eq_true.mpr ⟨(i, d), read, by simp [reads]⟩
  simp [overtaken, other, writes, before]

end

/-- A publish against a revocation. -/
structure Contest where
  protocol : Protocol
  volume : Volume.ID
  start : World
  published : String
  revoked : String
  on : Set String
  off : Set String

namespace Contest

variable (x : Contest)

/-- What neither of the two changes. -/
structure Mild (s t : State) : Prop where
  mounted : mountpoint x.volume t.seen = mountpoint x.volume s.seen
  granted : ∀ node, grantedTo x.protocol x.volume t.seen node =
    grantedTo x.protocol x.volume s.seen node
  clean : Clean x.protocol x.volume s.seen → Clean x.protocol x.volume t.seen

/-- What each party does to the other's work: it adds no revoked and takes no granted address. -/
def Kind : Party → State → State → Prop
  | .publisher, s, t =>
    x.off ∩ hostsOf x.protocol x.volume t.seen ⊆ hostsOf x.protocol x.volume s.seen ∧
      (ledgerOf x.volume t.seen).get? x.revoked = (ledgerOf x.volume s.seen).get? x.revoked
  | .revoker, s, t =>
    x.on ∩ hostsOf x.protocol x.volume s.seen ⊆ hostsOf x.protocol x.volume t.seen ∧
      (ledgerOf x.volume t.seen).get? x.published = (ledgerOf x.volume s.seen).get? x.published

/-- What a step of one party means to the other. -/
def Promise (i : Party) (s t : State) : Prop :=
  ∃ c, t.log = (i, c) :: s.log ∧ (∀ r : Record, r.writes c = false → r.Same x.volume s t) ∧
    x.Mild s t ∧ x.Kind i s t

/-- A record is written only if unchanged. -/
def discipline : Discipline Party State (Party × Fault) Call Call.Answer Err where
  handler := State.handle
  may i c s o := o.1 = i ∧ ∀ r : Record, r.writes c = true → overtaken i r s.log = false
  guarantee := x.Promise

variable {x} {i : Party} {s t u : State} {I : State → Prop} {J : State → Prop}

theorem kind_same (hosts : hostsOf x.protocol x.volume t.seen = hostsOf x.protocol x.volume s.seen)
    (ledger : ledgerOf x.volume t.seen = ledgerOf x.volume s.seen) : x.Kind i s t := by
  cases i with
  | publisher => exact ⟨by rw [hosts]; exact Set.inter_subset_right, by rw [ledger]⟩
  | revoker => exact ⟨by rw [hosts]; exact Set.inter_subset_right, by rw [ledger]⟩

theorem promise_quiet {c : Call} (same : t.appliance = s.appliance) (log : t.log = (i, c) :: s.log) :
    x.Promise i s t := by
  have seen : t.seen = s.seen := by simp [State.seen, same]
  refine ⟨c, log, fun r _ => .refl same, ?_, kind_same (by rw [seen]) (by rw [seen])⟩
  exact ⟨by rw [seen], fun node => by rw [seen], fun clean => by rwa [seen]⟩

/-- A property the other process leaves alone. -/
structure Steady (x : Contest) (i : Party) (I : State → Prop) : Prop where
  others : ∀ j s t, j ≠ i → x.Promise j s t → I s → I t
  quiet : ∀ s t c, t.appliance = s.appliance → t.log = (i, c) :: s.log → I s → I t

/-- What writing the host list leaves alone. -/
structure Sturdy (x : Contest) (i : Party) (I : State → Prop) : Prop extends Steady x i I where
  shares : ∀ s t c, t.log = (i, c) :: s.log → Record.ledger.Same x.volume s t → x.Mild s t → I s → I t

theorem Steady.and (first : Steady x i I) (second : Steady x i J) :
    Steady x i fun s => I s ∧ J s where
  others := fun j s t other kept both =>
    ⟨first.others j s t other kept both.1, second.others j s t other kept both.2⟩
  quiet := fun s t c same log both =>
    ⟨first.quiet s t c same log both.1, second.quiet s t c same log both.2⟩

theorem Sturdy.and (first : Sturdy x i I) (second : Sturdy x i J) :
    Sturdy x i fun s => I s ∧ J s where
  toSteady := first.toSteady.and second.toSteady
  shares := fun s t c log same mild both =>
    ⟨first.shares s t c log same mild both.1, second.shares s t c log same mild both.2⟩

def Since (x : Contest) (i : Party) (u s : State) : Prop :=
  ∀ I : State → Prop, Steady x i I → I u → I s

/-- Mount, grants and a normal host list. -/
structure Base (x : Contest) (s : State) : Prop where
  mounted : mountpoint x.volume s.seen = mountpoint x.volume x.start
  granted : ∀ node, grantedTo x.protocol x.volume s.seen node =
    grantedTo x.protocol x.volume x.start node
  clean : Clean x.protocol x.volume s.seen

theorem Base.mild (base : x.Base s) (mild : x.Mild s t) : x.Base t where
  mounted := mild.mounted.trans base.mounted
  granted := fun node => (mild.granted node).trans (base.granted node)
  clean := mild.clean base.clean

theorem sturdy_base : Sturdy x i x.Base where
  others := by
    rintro j s t - ⟨c, -, -, mild, -⟩ base
    exact base.mild mild
  quiet := by
    intro s t c same log base
    obtain ⟨-, -, -, mild, -⟩ : x.Promise i s t := promise_quiet same log
    exact base.mild mild
  shares := fun _ _ _ _ _ mild base => base.mild mild

def ReadBy (i : Party) (r : Record) (s : State) : Prop := ∃ c, (i, c) ∈ s.log ∧ r.reads c = true

/-- A record is as read, unless overtaken. -/
def Recollects (x : Contest) (i : Party) (r : Record) (u s : State) : Prop :=
  ReadBy i r s ∧ (overtaken i r s.log = false → r.Same x.volume u s)

section

variable {r : Record} {c : Call} {j : Party}

theorem ReadBy.later (read : ReadBy i r s) (log : t.log = (j, c) :: s.log) : ReadBy i r t := by
  obtain ⟨d, member, reads⟩ := read
  exact ⟨d, by rw [log]; exact List.mem_cons_of_mem _ member, reads⟩

theorem Recollects.own (recollects : Recollects x i r u s) (log : t.log = (i, c) :: s.log)
    (same : r.Same x.volume s t) : Recollects x i r u t := by
  refine ⟨recollects.1.later log, fun fresh => ?_⟩
  rw [log, overtaken_own] at fresh
  exact (recollects.2 fresh).trans same

theorem Recollects.other (recollects : Recollects x i r u s) (other : j ≠ i)
    (kept : x.Promise j s t) : Recollects x i r u t := by
  obtain ⟨c, log, spares, -, -⟩ := kept
  refine ⟨recollects.1.later log, fun fresh => ?_⟩
  rw [log] at fresh
  cases writes : r.writes c with
  | false => exact (recollects.2 (overtaken_earlier fresh)).trans (spares r writes)
  | true =>
    obtain ⟨d, member, reads⟩ := recollects.1
    rw [overtaken_write other writes member reads] at fresh
    cases fresh

theorem steady_recollects : Steady x i (Recollects x i r u) where
  others := fun _ _ _ other kept recollects => recollects.other other kept
  quiet := fun _ _ _ same log recollects => recollects.own log (.refl same)

theorem sturdy_recollects : Sturdy x i (Recollects x i .ledger u) where
  toSteady := steady_recollects
  shares := fun _ _ _ log same _ recollects => recollects.own log same

theorem Since.recollects (since : Since x i u s) (read : ReadBy i r u) : Recollects x i r u s :=
  since _ steady_recollects ⟨read, fun _ => .refl rfl⟩

end

/-- What was granted stays on the share, -/
theorem steady_on : Steady x .publisher fun s => x.on ⊆ hostsOf x.protocol x.volume s.seen where
  others := by
    rintro j s t other ⟨c, -, -, -, kind⟩ listed
    cases j with
    | publisher => exact absurd rfl other
    | revoker => exact fun a member => kind.1 ⟨member, listed member⟩
  quiet := by
    intro s t c same log listed
    rwa [show t.seen = s.seen by simp [State.seen, same]]

/-- and what was revoked stays off. -/
theorem steady_off : Steady x .revoker fun s => Disjoint x.off (hostsOf x.protocol x.volume s.seen) where
  others := by
    rintro j s t other ⟨c, -, -, -, kind⟩ apart
    cases j with
    | revoker => exact absurd rfl other
    | publisher =>
      exact Set.disjoint_left.mpr fun a member listed =>
        Set.disjoint_left.mp apart member (kind.1 ⟨member, listed⟩)
  quiet := by
    intro s t c same log apart
    rwa [show t.seen = s.seen by simp [State.seen, same]]

end Contest

end TruenasCsi.Replicas
