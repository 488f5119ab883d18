import TruenasCsi.Replication.Divergence
import TruenasCsi.Replication.Objects
import TruenasCsi.Replication.Rehearsal

/-! The engine keeps its record in the status of the copy. -/

namespace TruenasCsi.Replication

open Prog Manager

/-- Two states that differ in bookkeeping only. -/
structure SameMarks (a b : StorageProtectionGroup) : Prop where
  ns : b.ns = a.ns
  name : b.name = a.name
  generation : b.generation = a.generation
  spec : b.spec = a.spec
  lastAction : b.status.lastAction = a.status.lastAction
  lastActionGeneration : b.status.lastActionGeneration = a.status.lastActionGeneration
  conditions : b.status.conditions = a.status.conditions

variable (a : StorageProtectionGroup) (objects : List StorageProtectionGroup)

theorem SameMarks.refl : SameMarks a a := ⟨rfl, rfl, rfl, rfl, rfl, rfl, rfl⟩

theorem SameMarks.trans {a b c : StorageProtectionGroup} (first : SameMarks a b)
    (second : SameMarks b c) : SameMarks a c where
  ns := second.ns.trans first.ns
  name := second.name.trans first.name
  generation := second.generation.trans first.generation
  spec := second.spec.trans first.spec
  lastAction := second.lastAction.trans first.lastAction
  lastActionGeneration := second.lastActionGeneration.trans first.lastActionGeneration
  conditions := second.conditions.trans first.conditions

/-- The copy has the marks of an object. -/
def Marked (w : World) : Prop :=
  SameMarks a w.copy ∧ w.objects = objects

def R.Keeps {α : Type} (a : StorageProtectionGroup) (objects : List StorageProtectionGroup)
    (p : R α) : Prop :=
  ∀ w, Marked a objects w → R.wp p (fun _ t => Marked a objects t) w

section

variable {α β : Type} {a : StorageProtectionGroup} {objects : List StorageProtectionGroup} {p : R α}
  {f : α → R β} {m : Manager} {group : String}

theorem keeps_ret {x : α} : R.Keeps a objects (Prog.ret x) := fun _ marked => marked

theorem keeps_ofExcept {r : Except Err α} : R.Keeps a objects (Prog.ofExcept r) := fun _ marked =>
  wp_ofExcept.mpr marked

theorem keeps_bind (first : R.Keeps a objects p) (rest : ∀ x, R.Keeps a objects (f x)) :
    R.Keeps a objects (p >>= f) := fun w marked =>
  wp_seq (first w marked) (fun _ _ ends => ends) fun x t ends => rest x t ends

theorem keeps_mapError (keeps : R.Keeps a objects p) (g : Err → Err) :
    R.Keeps a objects (p.mapError g) := fun w marked =>
  wp_mapError.mpr (keeps w marked)

theorem keeps_if {c : Prop} [Decidable c] {q : R α} (yes : R.Keeps a objects p)
    (no : R.Keeps a objects q) : R.Keeps a objects (if c then p else q) := by
  split_ifs
  · exact yes
  · exact no

theorem keeps_aside (emits : p.Emits Any Call.Aside) : R.Keeps a objects p := by
  intro w marked
  refine Prog.Emits.wp_invariant World.handle handle_any emits ?_ marked
  intro fault c t aside marked
  obtain ⟨copy, stored⟩ := aside.frame fault t
  unfold Marked
  rw [copy, stored]
  exact marked

theorem keeps_query {answer : World → α} (query : Query p answer) : R.Keeps a objects p := by
  intro w marked
  refine wp_mono (query.asks w) ?_
  rintro r t ⟨rfl, -⟩
  exact marked

theorem keeps_caller (backend : String) (op : Op) : R.Keeps a objects (caller backend op) :=
  keeps_aside (emits_caller trivial)

theorem keeps_save {st : State} : R.Keeps a objects (Store.status.save group st) := by
  intro w marked
  refine Store.wp_save.mpr ⟨marked.1.trans ?_, marked.2⟩
  exact ⟨rfl, rfl, rfl, rfl, rfl, rfl, rfl⟩

theorem keeps_load : R.Keeps a objects (Store.status.load group) := fun _ marked =>
  Store.wp_load.mpr marked

theorem Marked.dialled {w t : World} (marked : Marked a objects w) (dialled : Dialled w t) :
    Marked a objects t := by
  rw [dialled]
  exact marked

theorem keeps_client_seq {backend : String} {f : Caller → R β}
    (rest : R.Keeps a objects (f (caller backend))) : R.Keeps a objects (m.client backend >>= f) := by
  intro w marked
  refine wp_seq (m.wp_client backend w) (fun e t ended => marked.dialled ended.1) ?_
  rintro c t ⟨dialled, ⟨same, -⟩ | ⟨e, same, -⟩⟩
  · cases same
    exact rest t (marked.dialled dialled)
  · cases same

theorem keeps_clients_seq {g : Group} {f : Caller × Caller → R β}
    (rest : R.Keeps a objects (f (caller g.sourceBackend, caller g.targetBackend))) :
    R.Keeps a objects (m.clients g >>= f) := by
  intro w marked
  refine wp_seq (m.wp_clients g w) (fun e t ended => marked.dialled ended.1) ?_
  rintro pair t ⟨dialled, ⟨same, -⟩ | ⟨e, same, -⟩⟩
  · cases same
    exact rest t (marked.dialled dialled)
  · cases same

end

namespace Reconciler

variable {a : StorageProtectionGroup} {objects : List StorageProtectionGroup}
  (appliances : Backend.Registry) (g : Group)

theorem keeps_roots {m : Manager} : R.Keeps a objects (m.roots g) := keeps_aside emits_roots

theorem keeps_setTransfers (st : State) (enabled : Bool) :
    R.Keeps a objects (setTransfers (caller g.sourceBackend) g st enabled) :=
  keeps_aside (emits_setTransfers trivial (fun _ => trivial) (fun _ _ => trivial) fun _ => trivial)

theorem keeps_create : R.Keeps a objects ((manager appliances).create g) := by
  refine keeps_bind (keeps_aside (emits_verifyMembership (fun _ => trivial) fun _ => trivial))
    fun _ => ?_
  refine keeps_bind (keeps_roots g) fun roots => keeps_clients_seq ?_
  refine keeps_bind keeps_load fun st => ?_
  refine keeps_bind (keeps_aside (emits_ensureMembers (fun _ => trivial) _)) fun ids => ?_
  refine keeps_bind (keeps_aside (emits_ensureReplication (fun _ => trivial) _ _)) fun task => ?_
  exact keeps_bind keeps_save fun _ => keeps_ret

theorem keeps_failover (force : Bool) : R.Keeps a objects ((manager appliances).failover g force) := by
  refine keeps_bind keeps_load fun st => keeps_if keeps_ret ?_
  refine keeps_bind keeps_ofExcept fun _ => keeps_clients_seq ?_
  refine keeps_bind (keeps_roots g) fun roots => keeps_bind keeps_save fun _ => ?_
  refine keeps_bind (keeps_setTransfers g _ _) fun after => keeps_bind keeps_ofExcept fun _ => ?_
  refine keeps_bind (keeps_aside (emits_promoteMembers (fun _ => trivial) _ _)) fun st' => ?_
  exact keeps_bind keeps_save fun _ => keeps_ret

theorem keeps_testFailover : R.Keeps a objects ((manager appliances).testFailover g) := by
  refine keeps_bind keeps_load fun st => keeps_if keeps_ret ?_
  refine keeps_clients_seq (keeps_bind (keeps_roots g) fun roots => ?_)
  have all (op : Op) (_ : op.Keeps) : (scratchGuard (caller g.targetBackend)
      (scratchRoot g roots.2) op).Emits Any Call.Aside :=
    emits_scratchGuard fun _ => trivial
  refine keeps_bind (keeps_aside (emits_ensureScratch all _)) fun _ => ?_
  refine keeps_bind (keeps_aside (emits_cloneMembers all _ _ _ _)) fun tf => ?_
  exact keeps_bind keeps_save fun _ => keeps_ret

theorem keeps_stopTestFailover : R.Keeps a objects ((manager appliances).stopTestFailover g) := by
  refine keeps_bind keeps_load fun st => ?_
  cases st.testFailover with
  | none => exact keeps_ret
  | some tf =>
  have all (op : Op) : (scratchGuard (caller g.targetBackend) tf.root op).Emits Any Call.Aside :=
    emits_scratchGuard fun _ => trivial
  refine keeps_clients_seq (keeps_bind (keeps_aside (emits_deleteClones all _)) fun _ => ?_)
  refine keeps_bind (keeps_mapError (keeps_aside (emits_deleteIfOwned_of all _)) _) fun _ => ?_
  exact keeps_bind keeps_save fun _ => keeps_ret

theorem keeps_failback (force : Bool) : R.Keeps a objects ((manager appliances).failback g force) := by
  refine keeps_bind keeps_load fun st => keeps_if keeps_ret ?_
  refine keeps_bind keeps_ofExcept fun _ => keeps_clients_seq ?_
  refine keeps_bind (keeps_roots g) fun roots => ?_
  refine keeps_bind (keeps_query (query_divergence _ st ∅ g.volumes)) fun gained => ?_
  refine keeps_bind keeps_ofExcept fun _ => keeps_bind keeps_save fun _ => ?_
  refine keeps_bind (keeps_aside ?_) fun _ => keeps_bind (keeps_aside ?_) fun _ => ?_
  · refine emits_bind (emits_bind (emits_queryReplicationByName trivial) fun found => ?_)
      fun task => ?_
    · cases found with
      | some task => trivial
      | none => exact emits_mapError.mpr (emits_caller trivial)
    · exact emits_bind (emits_mapError.mpr (emits_caller trivial)) fun _ =>
        emits_ignoreAbsent (emits_caller trivial)
  · generalize g.volumes = volumes
    induction volumes with
    | nil => trivial
    | cons id rest ih =>
      exact emits_bind (emits_updateDataset (fun _ => trivial) _ _) fun _ => ih
  refine keeps_bind (keeps_setTransfers g _ _) fun after => keeps_bind keeps_ofExcept fun _ => ?_
  exact keeps_bind keeps_save fun _ => keeps_ret

theorem keeps_setSuspended (suspended : Bool) :
    R.Keeps a objects ((manager appliances).setSuspended g suspended) := by
  refine keeps_bind keeps_load fun st => keeps_bind keeps_ofExcept fun _ => keeps_client_seq ?_
  refine keeps_bind (keeps_setTransfers g _ _) fun after => keeps_bind keeps_ofExcept fun _ => ?_
  exact keeps_bind keeps_save fun _ => keeps_ret

theorem keeps_createRemoteVolume (id : Volume.ID) :
    R.Keeps a objects ((manager appliances).createRemoteVolume g id) := by
  refine keeps_bind keeps_ofExcept fun cfg => keeps_bind (keeps_mapError keeps_ofExcept _)
    fun _ => keeps_clients_seq (keeps_bind (keeps_roots g) fun roots => ?_)
  refine keeps_bind (keeps_aside (emits_verifyOwned trivial)) fun source => ?_
  refine keeps_bind (keeps_query (query_dataset _ _)) fun found => ?_
  cases found with
  | some existing => exact keeps_bind (keeps_mapError keeps_ofExcept _) fun _ => keeps_ret
  | none =>
    refine keeps_bind (keeps_mapError (keeps_bind (keeps_caller _ _) fun _ => keeps_ret) _) fun _ => ?_
    exact keeps_ret

theorem keeps_createRemoteVolumes (volumes : List Volume.ID) :
    R.Keeps a objects (createRemoteVolumes appliances g volumes) := by
  induction volumes with
  | nil => exact keeps_ret
  | cons id rest ih => exact keeps_bind (keeps_createRemoteVolume appliances g id) fun _ => ih

theorem keeps_serve (force : Bool) (action : Action) :
    R.Keeps a objects (serve appliances g force action) := by
  cases action with
  | none => exact keeps_ret
  | failover => exact keeps_bind (keeps_failover appliances g force) fun _ => keeps_ret
  | testFailover => exact keeps_bind (keeps_testFailover appliances g) fun _ => keeps_ret
  | stopTestFailover => exact keeps_bind (keeps_stopTestFailover appliances g) fun _ => keeps_ret
  | failback => exact keeps_bind (keeps_failback appliances g force) fun _ => keeps_ret
  | suspend => exact keeps_bind (keeps_setSuspended appliances g true) fun _ => keeps_ret
  | resume => exact keeps_bind (keeps_setSuspended appliances g false) fun _ => keeps_ret
  | createRemoteVolumes => exact keeps_createRemoteVolumes appliances g _
  | other text => exact keeps_ofExcept (r := .error _)

theorem keeps_delete (opts : DeleteOptions) : R.Keeps a objects ((manager appliances).delete g opts) := by
  refine keeps_clients_seq (keeps_bind (keeps_roots g) fun roots => keeps_bind keeps_load fun st => ?_)
  refine keeps_bind keeps_ofExcept fun _ => ?_
  refine keeps_bind (keeps_aside (emits_verifyTargets (fun _ => trivial) _)) fun _ => ?_
  refine keeps_bind (keeps_aside (emits_removeReplication (fun _ => trivial) fun _ => trivial))
    fun _ => ?_
  refine keeps_bind (keeps_aside (emits_deleteSnapshotTasks (fun _ => trivial)
    (fun _ => trivial) _)) fun _ => ?_
  refine keeps_bind (keeps_aside (emits_deleteTargets (fun _ => trivial) (fun _ => trivial) _))
    fun _ => ?_
  exact keeps_save

theorem keeps_status : R.Keeps a objects ((manager appliances).status g) :=
  keeps_aside (emits_status (fun _ => trivial) (fun _ => trivial) trivial trivial)

end Reconciler

end TruenasCsi.Replication
