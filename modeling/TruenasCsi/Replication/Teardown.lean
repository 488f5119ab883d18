import TruenasCsi.Replication.Restart
import TruenasCsi.Replication.Strangers

/-! A deletion keeps the replicas unless their removal was asked for. -/

namespace TruenasCsi.Replication

open Prog Manager

section

variable {m : Manager} {g : Group} {w : World}

def targetChecked (g : Group) (target : String) : Option Appliance.Dataset → Except Err Unit
  | none => .ok ()
  | some ds => (Truenas.verifyOwned ds).mapError fun e =>
      e.wrap ("group " ++ Text.quote g.name ++ " target " ++ target ++ ": ")

theorem check_verifyTarget (backend target : String) :
    Check (verifyTarget (caller backend) g target)
      fun w => targetChecked g target ((w.site backend).storage.dataset? target) := by
  refine @Check.bind _ _ _ _ (query_dataset backend target).check _
    (fun found _ => targetChecked g target found) fun found => ?_
  cases found with
  | none => exact check_ofExcept (.ok ())
  | some ds => exact (check_ofExcept _).mapError _

theorem wp_verifyTargets (backend root : String) (volumes : List Volume.ID) (w : World) :
    R.wp (verifyTargets (caller backend) g root volumes) (fun r t => t = w ∧
      (r = .ok () → ∀ id ∈ volumes,
        targetChecked g (targetDataset root id)
          ((w.site backend).storage.dataset? (targetDataset root id)) = .ok ())) w := by
  induction volumes with
  | nil => exact ⟨rfl, by simp⟩
  | cons id rest ih =>
    refine wp_seq ((check_verifyTarget backend (targetDataset root id)).asks w) ?_ ?_
    · rintro e t ⟨rfl, -⟩
      exact ⟨rfl, nofun⟩
    · rintro _ t ⟨rfl, passed | ⟨e, wrong⟩⟩
      · refine wp_mono ih ?_
        rintro r u ⟨rfl, others⟩
        exact ⟨rfl, fun ended => List.forall_mem_cons.mpr ⟨passed.symm, others ended⟩⟩
      · cases wrong

theorem not_stranger_of_checked {cfg : Backend.Config}
    (known : m.appliances.backend g.targetBackend = .ok cfg)
    (checked : ∀ id ∈ g.volumes, targetChecked g (targetDataset (rootOf cfg) id)
      ((w.site g.targetBackend).storage.dataset? (targetDataset (rootOf cfg) id)) = .ok ()) :
    ¬ Stranger m g w := by
  rintro ⟨cfg', known', id, member, ds, e, there, rejected⟩
  rw [known] at known'
  cases known'
  have passed := checked id member
  rw [there, targetChecked, rejected] at passed
  cases passed

def Spared (w t : World) : Prop := ∀ backend, (t.site backend).storage = (w.site backend).storage

theorem Dialled.spared {t : World} (dialled : Dialled w t) : Spared w t := by
  intro backend
  rw [dialled.site]

theorem wp_spared {α : Type} {p : R α} {t : World} (spares : p.Emits Any Call.SparesStorage)
    (spared : Spared w t) : R.wp p (fun _ u => Spared w u) t := by
  refine Prog.Emits.wp_invariant World.handle handle_any spares ?_ spared
  intro fault c u spares since backend
  exact (spares.handle fault u backend).trans (since backend)

/-- First all targets have to pass. -/
theorem wp_delete (opts : DeleteOptions) (w : World) : R.wp (m.delete g opts) (fun _ t =>
    Spared w t ∨ (opts.removeTargetDatasets = true ∧ ¬ Stranger m g w)) w := by
  unfold delete
  refine wp_seq (m.wp_clients g w) (fun e t ended => .inl ended.1.spared) ?_
  rintro pair t ⟨dialled, ⟨same, ⟨srcCfg, source⟩, ⟨dstCfg, target⟩⟩ | ⟨e, same, -⟩⟩
  swap
  · cases same
  cases same
  rw [m.roots_eq source target]
  simp only [pure_eq, ret_bind]
  refine wp_bind.mpr (Store.wp_load.mpr ?_)
  cases m.store.recorded g.name t with
  | error e => exact .inl dialled.spared
  | ok st =>
  refine wp_bind.mpr (wp_ofExcept.mpr ?_)
  cases refuseDelete g st with
  | error e => exact .inl dialled.spared
  | ok _ =>
  refine wp_seq (wp_verifyTargets g.targetBackend (rootOf dstCfg) _ t) ?_ ?_
  · rintro e u ⟨rfl, -⟩
    exact .inl dialled.spared
  rintro _ u ⟨rfl, passed⟩
  have checked := passed rfl
  cases asked : opts.removeTargetDatasets with
  | true =>
    -- From here on whatever happens happens to targets that have passed.
    rw [asked, if_pos rfl] at checked
    have owned : ¬ Stranger m g w := by
      refine not_stranger_of_checked target ?_
      rw [← dialled.site]
      exact checked
    exact wp_mono (wp_trivial _ _) fun _ _ _ => .inr ⟨rfl, owned⟩
  | false =>
    refine wp_mono (wp_spared ?_ dialled.spared) fun _ _ spared => .inl spared
    refine emits_bind (emits_removeReplication (fun _ => rfl) fun _ => rfl) fun _ => ?_
    refine emits_bind (emits_deleteSnapshotTasks (fun _ => rfl) (fun _ => rfl) _) fun _ => ?_
    exact emits_bind trivial fun _ => Store.emits_save trivial trivial fun _ => trivial

/-- For every group, options and failures: a deletion leaves the storage of all backends as it is, or the
removal of target datasets was asked for and the guard accepts all of them. -/
theorem delete_destroys_asked (m : Manager) (g : Group) (opts : DeleteOptions) (faults : List Fault)
    (w : World) : Spared w (R.run (m.delete g opts) faults w).2 ∨
      (opts.removeTargetDatasets = true ∧ ¬ Stranger m g w) :=
  wp_iff_run.mp (wp_delete opts w) faults

/-- The replica goes with the group. -/
theorem live_copy_destroyed : ¬ ∀ (m : Manager) (g : Group) (opts : DeleteOptions)
    (faults : List Fault) (w : World) (st : State), m.store.recorded g.name w = .ok st →
      Spared w (R.run (m.delete g opts) faults w).2 ∨
        (opts.removeTargetDatasets = true ∧ st.phase.engaged = false ∧ ¬ Stranger m g w) := by
  intro spares
  obtain kept | ⟨-, dead, -⟩ := spares Pair.manager (Pair.group ["pvc-1"]) ⟨true⟩ []
    { Pair.world (Pair.source ["pvc-1"]) (Pair.target ["pvc-1"]) with
      records := .ofList [("prod-payments", { phase := .failedOver })] } { phase := .failedOver }
    rfl
  · have same := congrArg (fun s => (s.dataset? "Pool1/dr/pvc-1").isSome) (kept "nas2")
    revert same
    decide
  · cases dead

end

end TruenasCsi.Replication
