import TruenasCsi.Replication.Footprint

/-! Nobody asks who owns the target of a first transfer. -/

namespace TruenasCsi.Replication

open Prog Manager Replication.World

/-- A call that creates, enables or runs. -/
def Makes : Call → Prop
  | .api _ (.dataset (.snapshotCreate _ _ _)) => True
  | .api _ (.snapshotTaskCreate _) => True
  | .api _ (.replicationCreate _) => True
  | .api _ (.replicationUpdate _ enabled) => enabled = true
  | .api _ (.replicationRun _) => True
  | _ => False

instance : DecidablePred Makes := fun c => by
  unfold Makes
  split <;> infer_instance

/-- Where a member lands the guard rejects a dataset. -/
def Stranger (m : Manager) (g : Group) (w : World) : Prop :=
  ∃ cfg, m.appliances.backend g.targetBackend = .ok cfg ∧ ∃ id ∈ g.volumes, ∃ ds e,
    (w.site g.targetBackend).storage.dataset? (targetDataset (rootOf cfg) id) = some ds ∧
      Truenas.verifyOwned ds = .error e

/-- Such a group is refused, with nothing created. -/
def Guarded (m : Manager) (g : Group) (faults : List Fault) (w : World) : Prop :=
  Stranger m g w → (∃ e, (R.run (m.create g) faults w).1 = .error e) ∧
    ∀ x ∈ Prog.log handle (m.create g) faults w, ¬ Makes x.1

/-- What `Create` does check. -/
structure Admitted (m : Manager) (g : Group) (w : World) : Prop where
  members : g.volumes ≠ []
  source : ∃ cfg, m.appliances.backend g.sourceBackend = .ok cfg ∧
    membersChecked (w.site g.sourceBackend) g cfg [] g.volumes = .ok ()
  target : ∃ cfg, m.appliances.backend g.targetBackend = .ok cfg
  recorded : ∃ st, m.store.recorded g.name w = .ok st

section

variable {m : Manager} {g : Group} {w : World}

theorem wp_verifyMembership : R.wp (m.verifyMembership g) (fun r t => Dialled w t ∧
    (r = .ok () → g.volumes ≠ [] ∧ ∃ cfg, m.appliances.backend g.sourceBackend = .ok cfg ∧
      membersChecked (w.site g.sourceBackend) g cfg [] g.volumes = .ok ())) w := by
  unfold verifyMembership
  cases some : requireVolumes g with
  | error e => exact ⟨rfl, fun wrong => by cases wrong⟩
  | ok _ =>
  have members : g.volumes ≠ [] := by
    unfold requireVolumes at some
    split_ifs at some with none
    exact none
  simp only [ofExcept_ok, ret_bind]
  cases known : m.appliances.backend g.sourceBackend with
  | error e => exact ⟨rfl, fun wrong => by cases wrong⟩
  | ok cfg =>
  simp only [ofExcept_ok, ret_bind]
  refine wp_seq (m.wp_client g.sourceBackend w) ?_ ?_
  · rintro e t ⟨dialled, -⟩
    exact ⟨dialled, fun wrong => by cases wrong⟩
  · rintro src t ⟨dialled, ⟨same, -⟩ | ⟨e, same, -⟩⟩
    swap
    · cases same
    cases same
    refine wp_mono ((check_verifyMembers g cfg g.sourceBackend [] g.volumes).asks t) ?_
    rintro r u ⟨rfl, rfl | ⟨e, rfl⟩⟩
    · rw [dialled.site]
      exact ⟨dialled, fun passed => ⟨members, cfg, rfl, passed⟩⟩
    · exact ⟨dialled, fun wrong => by cases wrong⟩

theorem logged_create (refused : ¬ Admitted m g w) : R.wpLogged (m.create g) (fun r s =>
    (∃ e, r = .error e) ∧ ∀ x ∈ s.2, ¬ Makes x.1) (w, []) := by
  unfold create
  refine wp_logged_seq handle_any (P := fun c => ¬ Makes c) wp_verifyMembership
    (emits_verifyMembership (fun _ => id) fun _ => id) ?_ ?_
  · rintro e t more quiet -
    exact ⟨⟨e, rfl⟩, quiet⟩
  rintro _ t more quiet ⟨dialled, passed⟩
  obtain ⟨members, srcCfg, source, checked⟩ := passed rfl
  cases target : m.appliances.backend g.targetBackend with
  | error e =>
    unfold roots
    rw [source, target]
    exact ⟨⟨e, rfl⟩, quiet⟩
  | ok dstCfg =>
  rw [m.roots_eq source target]
  simp only [pure_eq, ret_bind]
  refine wp_logged_seq handle_any (P := fun c => ¬ Makes c) (m.wp_clients g t)
    (emits_clients fun _ => id) ?_ ?_
  · rintro e u more' quiet' -
    refine ⟨⟨e, rfl⟩, ?_⟩
    simp only [List.nil_append, List.forall_mem_append]
    exact ⟨quiet, quiet'⟩
  rintro pair u more' quiet' ⟨again, -⟩
  refine wp_logged_seq handle_any (P := fun c => ¬ Makes c) (D := fun r _ =>
    r = m.store.recorded g.name w)
      (Store.wp_load.mpr (Store.recorded_dialled (dialled.trans again) m.store g.name))
    (Store.emits_load id id) ?_ ?_
  · rintro e v more'' quiet'' -
    refine ⟨⟨e, rfl⟩, ?_⟩
    simp only [List.nil_append, List.forall_mem_append]
    exact ⟨⟨quiet, quiet'⟩, quiet''⟩
  · -- Past the record the group has been admitted.
    rintro st v more'' - recorded
    exact absurd ⟨members, ⟨srcCfg, source, checked⟩, ⟨dstCfg, target⟩, ⟨st, recorded.symm⟩⟩ refused

abbrev R.calmly {α : Type} (p : R α) (Q : Except Err α → World × List (Call × Fault) → Prop)
    (s : World × List (Call × Fault)) : Prop :=
  Prog.along (Prog.logged handle) (fun fault _ _ => fault = default) (fun _ => True) p Q s

/-- Something is created, or nothing has failed. -/
def Made {α : Type} (r : Except Err α) (s : World × List (Call × Fault)) : Prop :=
  (∃ x ∈ s.2, Makes x.1) ∨ ∃ a, r = .ok a

theorem calmly_of_run {α : Type} {p : R α} {s : World × List (Call × Fault)} {r : Except Err α} {t : World}
    (ran : R.calm p s.1 = (r, t)) : R.calmly p (fun r' s' => r' = r ∧ s'.1 = t) s := by
  refine along_default_iff.mpr ?_
  have logged := run_logged handle p [] s.1 s.2
  rw [show Prog.run (Prog.logged handle) p [] s = _ from logged]
  unfold R.calm R.run at ran
  rw [ran]
  exact ⟨rfl, rfl⟩

section

variable {α β : Type} {p : R α} {f : α → R β} {s : World × List (Call × Fault)}

theorem made_query {answer : World → α} (query : Query p answer) (s : World × List (Call × Fault)) :
    R.calmly p Made s :=
  along_mono (calmly_of_run (query.calm s.1)) fun _ _ _ ends => .inr ⟨_, ends.1⟩

theorem made_pure (a : α) (s : World × List (Call × Fault)) : R.calmly (Prog.ret a) Made s :=
  along_ret trivial (.inr ⟨a, rfl⟩)

theorem made_bind (first : R.calmly p Made s)
    (rest : ∀ a t, R.calmly (f a) Made t) : R.calmly (p >>= f) Made s := by
  refine along_bind first ?_ fun a t _ _ => rest a t
  rintro e t - (made | ⟨a, wrong⟩)
  · exact .inl made
  · cases wrong

theorem made_mapError (first : R.calmly p Made s) (g : Err → Err) :
    R.calmly (p.mapError g) Made s := by
  refine along_mapError (along_mono first ?_)
  rintro r t - (made | ⟨a, rfl⟩)
  · exact .inl made
  · exact .inr ⟨a, rfl⟩

theorem made_caller {backend : String} {op : Op} (makes : Makes (.api backend op))
    (s : World × List (Call × Fault)) : R.calmly (caller backend op) Made s := by
  refine along_issue trivial fun fault _ => ⟨trivial, .inl ?_⟩
  exact ⟨_, List.mem_append_right _ List.mem_cons_self, makes⟩

end

variable {backend : String}

/-- With all calls answered, `Create` makes something for the first member. -/
theorem made_ensureMember (id : Volume.ID) (s : World × List (Call × Fault)) :
    R.calmly (ensureMember (caller backend) g id) Made s := by
  refine made_bind ?_ fun task t => made_bind ?_ fun _ u => made_pure _ u
  · refine made_bind (made_query (query_snapshotTask backend _ _) s) fun found t => ?_
    cases found with
    | some task => exact made_pure task t
    | none => exact made_mapError (made_caller (by exact trivial) t) _
  · refine made_bind (made_query (query_snapshotsOf backend _) t) fun snaps u => ?_
    split_ifs
    · exact made_pure () u
    · exact made_bind (made_caller (by exact trivial) u) fun _ v => made_pure () v

theorem made_ensureMembers (volumes : List Volume.ID) (s : World × List (Call × Fault)) :
    R.calmly (ensureMembers (caller backend) g volumes) Made s := by
  induction volumes generalizing s with
  | nil => exact made_pure [] s
  | cons id rest ih =>
    exact made_bind (made_ensureMember id s) fun _ t => made_bind (ih t) fun _ u => made_pure _ u

theorem made_ensureReplication (dstRoot : String) (taskIDs : List Nat)
    (s : World × List (Call × Fault)) :
    R.calmly (ensureReplication (caller backend) g dstRoot taskIDs) Made s := by
  refine made_bind (made_query (query_replicationByName backend _) s) fun found t => ?_
  cases found with
  | some task => exact made_pure task t
  | none =>
    refine made_bind (made_caller (by exact trivial) t) fun task u => made_bind ?_ fun _ v => made_pure task v
    exact made_mapError (made_caller (by exact trivial) u) _

theorem calm_verifyMembership (admitted : Admitted m g w) :
    ∃ t, Dialled w t ∧ R.calm (m.verifyMembership g) w = (.ok (), t) := by
  obtain ⟨cfg, source, checked⟩ := admitted.source
  obtain ⟨t, dialled, connected⟩ := m.calm_client source w
  refine ⟨t, dialled, ?_⟩
  unfold verifyMembership
  have members : requireVolumes g = .ok () := by simp [requireVolumes, admitted.members]
  rw [members, source]
  simp only [ofExcept_ok, ret_bind]
  rw [calm_seq connected, (check_verifyMembers g cfg g.sourceBackend [] g.volumes).calm,
    dialled.site, checked]

/-- Something is created, or everything is there. -/
theorem calmly_create (admitted : Admitted m g w) : R.calmly (m.create g) Made (w, []) := by
  obtain ⟨srcCfg, source, -⟩ := admitted.source
  obtain ⟨dstCfg, target⟩ := admitted.target
  obtain ⟨st, recorded⟩ := admitted.recorded
  unfold create
  obtain ⟨t, dialled, passed⟩ := calm_verifyMembership admitted
  refine along_bind (calmly_of_run passed) (fun e s _ ends => by cases ends.1) ?_
  rintro _ ⟨t', l₁⟩ - ⟨-, rfl⟩
  rw [m.roots_eq source target]
  simp only [pure_eq, ret_bind]
  obtain ⟨u, again, connected⟩ := m.calm_clients source target t'
  refine along_bind (calmly_of_run connected) (fun e s _ ends => by cases ends.1) ?_
  rintro pair ⟨u', l₂⟩ - ⟨same, rfl⟩
  cases same
  have loaded : R.calm (m.store.load g.name) u' = (.ok st, u') := by
    rw [Store.calm_load, Store.recorded_dialled (dialled.trans again), recorded]
  refine along_bind (calmly_of_run loaded) (fun e s _ ends => by cases ends.1) ?_
  rintro st' s - ⟨same, -⟩
  cases same
  refine made_bind (made_ensureMembers g.volumes s) fun taskIDs s => ?_
  refine made_bind (made_ensureReplication _ taskIDs s) fun task s => ?_
  refine made_bind ?_ fun _ s => made_pure _ s
  exact along_mono (calmly_of_run (Store.calm_save m.store g.name _ s.1))
    fun _ _ _ ends => .inr ⟨(), ends.1⟩

/-- For every group and state: whatever fails, a dataset on the target that the guard rejects makes `Create`
fail with nothing created, exactly if there is none or what `Create` does check fails. -/
theorem create_guarded_iff (m : Manager) (g : Group) (w : World) :
    (∀ faults, Guarded m g faults w) ↔ ¬ Stranger m g w ∨ ¬ Admitted m g w := by
  constructor
  · intro guarded
    by_contra both
    obtain ⟨stranger, admitted⟩ : Stranger m g w ∧ Admitted m g w := by
      simpa only [not_or, not_not] using both
    -- The calm run of an admitted group has created something, or has succeeded.
    have made := along_default_iff.mp (calmly_create admitted)
    rw [run_logged, List.nil_append] at made
    obtain ⟨⟨e, failed⟩, quiet⟩ := guarded [] stranger
    obtain ⟨x, member, makes⟩ | ⟨st, done⟩ := made
    · exact quiet x member makes
    · unfold R.run at failed
      rw [done] at failed
      cases failed
  · rintro (none | refused) faults stranger
    · exact absurd stranger none
    · have reached := wp_iff_run.mp (logged_create refused) faults
      rwa [run_logged, List.nil_append] at reached

def occupied : World :=
  Pair.world (Pair.source ["pvc-1"]) { Pair.target [] with
    storage := { (Pair.target []).storage with
      datasets := (Pair.target []).storage.datasets.set "Pool1/dr/pvc-1" Pair.container } }

/-- The first transfer is started. -/
theorem stranger_overwritten : ¬ ∀ (m : Manager) (g : Group) (faults : List Fault) (w : World),
    Guarded m g faults w := by
  intro guards
  have stranger : Stranger Pair.manager (Pair.group ["pvc-1"]) occupied := by
    refine ⟨{ pool := "Pool1", parentDataset := "dr" }, rfl, Pair.volume "pvc-1", by decide, ?_⟩
    obtain ⟨ds, there, foreign⟩ : ∃ ds, (occupied.site "nas2").storage.dataset? "Pool1/dr/pvc-1" =
        some ds ∧ (Truenas.verifyOwned ds).isOk = false := by
      refine ⟨_, rfl, by decide⟩
    cases rejected : Truenas.verifyOwned ds with
    | error e => exact ⟨ds, e, there, rejected⟩
    | ok _ =>
      rw [rejected] at foreign
      cases foreign
  obtain ⟨-, quiet⟩ := guards Pair.manager (Pair.group ["pvc-1"]) [] occupied stranger
  have runs : ∃ x ∈ Prog.log handle (Pair.manager.create (Pair.group ["pvc-1"])) [] occupied,
      Makes x.1 := by decide
  obtain ⟨x, member, makes⟩ := runs
  exact quiet x member makes

end

end TruenasCsi.Replication
