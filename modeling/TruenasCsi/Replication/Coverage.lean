import TruenasCsi.Replication.Specs

/-! `Create` makes each object that is missing and leaves what it finds as it is. -/

namespace TruenasCsi.Replication

open Prog Replication.World

/-- The datasets of the group. -/
def members (g : Group) : List String := g.volumes.map (·.datasetPath)

def Site.tasksOf (s : Site) (g : Group) (dataset : String) : List SnapshotTask :=
  s.snapshotTasks.filter fun t => t.dataset == dataset && t.namingSchema == namingSchema g

/-- A snapshot task as the group asks for. -/
def Requested (g : Group) (t : SnapshotTask) : Prop :=
  t.schedule = g.schedule.payload ∧ t.lifetime = g.snapshotRetention.orDefault

/-- The tasks cover exactly the group's volumes. -/
structure Covered (g : Group) (s : Site) : Prop where
  task : ∃ task, s.replications.named (taskName g) = some task ∧
    ∀ d, d ∈ task.sourceDatasets ↔ d ∈ members g
  volumes : ∀ d ∈ members g, ∃ t, s.tasksOf g d = [t] ∧ Requested g t
  others : ∀ t ∈ s.snapshotTasks, t.namingSchema = namingSchema g → t.dataset ∈ members g

/-- The tasks that are there are the group's own, as requested. -/
structure Fitting (g : Group) (s : Site) : Prop where
  task : ∀ task, s.replications.named (taskName g) = some task →
    ∀ d, d ∈ task.sourceDatasets ↔ d ∈ members g
  volumes : ∀ d ∈ members g, s.tasksOf g d = [] ∨ ∃ t, s.tasksOf g d = [t] ∧ Requested g t
  others : ∀ t ∈ s.snapshotTasks, t.namingSchema = namingSchema g → t.dataset ∈ members g

variable {s s' : Site} {g : Group} {dataset : String} {s'' : Site}

theorem tasksOf_eq_nil_iff :
    s.tasksOf g dataset = [] ↔ s.snapshotTask? dataset (namingSchema g) = none := by
  simp [Site.tasksOf, Site.snapshotTask?, List.filter_eq_nil_iff]

theorem others_iff :
    (∀ t ∈ s.snapshotTasks, t.namingSchema = namingSchema g → t.dataset ∈ members g) ↔
      ∀ d ∉ members g, s.tasksOf g d = [] := by
  constructor
  · intro inside d outside
    refine List.filter_eq_nil_iff.mpr fun t present => ?_
    simp only [Bool.and_eq_true, beq_iff_eq, not_and]
    rintro rfl schema
    exact outside (inside t present schema)
  · intro empty t present schema
    by_contra outside
    have mine : t ∈ s.tasksOf g t.dataset := by simp [Site.tasksOf, present, schema]
    rw [empty t.dataset outside] at mine
    cases mine

/-- Datasets keep their snapshot task or get one. -/
structure Ensured (g : Group) (datasets : List String) (s s' : Site) : Prop where
  replications : s'.replications = s.replications
  kept : ∀ d, d ∉ datasets ∨ s.tasksOf g d ≠ [] → s'.tasksOf g d = s.tasksOf g d
  made : ∀ d ∈ datasets, s.tasksOf g d = [] → ∃ t, s'.tasksOf g d = [t] ∧ Requested g t

theorem Ensured.nil (g : Group) (s : Site) : Ensured g [] s s :=
  ⟨rfl, fun _ _ => rfl, fun _ none => nomatch none⟩

theorem Ensured.cons {d : String} {rest : List String}
    (first : Ensured g [d] s s') (second : Ensured g rest s' s'') : Ensured g (d :: rest) s s'' := by
  refine ⟨second.replications.trans first.replications, ?_, ?_⟩
  · intro d' outside
    have same : s'.tasksOf g d' = s.tasksOf g d' :=
      first.kept d' (outside.imp_left fun absent member =>
        absent (List.mem_cons.mpr (.inl (List.mem_singleton.mp member))))
    rw [← same]
    refine second.kept d' (outside.imp ?_ ?_)
    · exact fun absent member => absent (List.mem_cons_of_mem d member)
    · exact fun nonempty => same ▸ nonempty
  · intro d' member empty
    by_cases here : d' = d
    · -- Made by the first, so the second finds it.
      subst here
      obtain ⟨t, made, requested⟩ := first.made d' (List.mem_singleton_self d') empty
      refine ⟨t, ?_, requested⟩
      rw [second.kept d' (.inr (by simp [made])), made]
    · have same : s'.tasksOf g d' = s.tasksOf g d' := first.kept d' (.inl (by simpa using here))
      refine second.made d' ((List.mem_cons.mp member).resolve_left here) ?_
      rw [same, empty]

theorem Ensured.create {id : Nat}
    (empty : s.tasksOf g dataset = []) (replications : s'.replications = s.replications)
    (appended : s'.snapshotTasks = s.snapshotTasks ++
      [{ Manager.snapshotTaskSpec g dataset with id := id }]) : Ensured g [dataset] s s' := by
  have split : ∀ d, s'.tasksOf g d = s.tasksOf g d ++ if dataset = d then
      [{ Manager.snapshotTaskSpec g dataset with id := id }] else [] := by
    intro d
    unfold Site.tasksOf
    rw [appended, List.filter_append]
    congr 1
    by_cases here : dataset = d
    · simp [here, Manager.snapshotTaskSpec]
    · simp [here, Manager.snapshotTaskSpec]
  refine ⟨replications, ?_, ?_⟩
  · intro d outside
    have other : dataset ≠ d := by
      rintro rfl
      rcases outside with absent | nonempty
      · exact absent (List.mem_singleton_self dataset)
      · exact nonempty empty
    rw [split d, if_neg other, List.append_nil]
  · intro d member _
    obtain rfl := List.mem_singleton.mp member
    refine ⟨{ Manager.snapshotTaskSpec g d with id := id }, ?_, rfl, rfl⟩
    rw [split d, if_pos rfl, empty]
    rfl

theorem Ensured.congr {datasets : List String}
    (ensured : Ensured g datasets s s') (replications : s''.replications = s'.replications)
    (snapshotTasks : s''.snapshotTasks = s'.snapshotTasks) : Ensured g datasets s s'' := by
  have same : ∀ d, s''.tasksOf g d = s'.tasksOf g d := by
    intro d
    unfold Site.tasksOf
    rw [snapshotTasks]
  refine ⟨replications.trans ensured.replications, ?_, ?_⟩
  · intro d outside
    rw [same, ensured.kept d outside]
  · intro d member empty
    rw [same]
    exact ensured.made d member empty

theorem Ensured.refl (present : s.tasksOf g dataset ≠ []) : Ensured g [dataset] s s := by
  refine ⟨rfl, fun _ _ => rfl, ?_⟩
  intro d member empty
  obtain rfl := List.mem_singleton.mp member
  exact absurd empty present

namespace Manager

section

variable {g : Group} {backend : String} {w : World}

theorem yields_createSnapshotTask (dataset : String) :
    R.yields (createSnapshotTask (caller backend) (snapshotTaskSpec g dataset)) (fun _ t =>
      (t.site backend).replications = (w.site backend).replications ∧
        ∃ id, (t.site backend).snapshotTasks = (w.site backend).snapshotTasks ++
          [{ snapshotTaskSpec g dataset with id := id }]) w := by
  refine yields_caller fun task accepted => ?_
  simp only [act, act.lift, Site.act] at accepted ⊢
  split_ifs at accepted ⊢ with missing
  rw [setSite_self]
  exact ⟨rfl, _, rfl⟩

theorem yields_ensureBaseline (dataset : String) :
    R.yields (ensureBaseline (caller backend) g dataset) (fun _ t =>
      (t.site backend).replications = (w.site backend).replications ∧
        (t.site backend).snapshotTasks = (w.site backend).snapshotTasks) w := by
  unfold ensureBaseline
  refine (query_snapshotsOf backend dataset).yields_seq ?_
  split_ifs
  · exact yields_ret ⟨rfl, rfl⟩
  · refine yields_bind (P := fun _ t =>
      (t.site backend).replications = (w.site backend).replications ∧
        (t.site backend).snapshotTasks = (w.site backend).snapshotTasks) (yields_caller ?_) ?_
    · intro snapshot _
      simp only [act, act.lift, Site.act]
      rw [setSite_self]
      exact ⟨rfl, rfl⟩
    · intro _ t same
      exact yields_ret same

/-- A task is made exactly if none is found. -/
theorem yields_ensureSnapshotTask (dataset : String) :
    R.yields (ensureSnapshotTask (caller backend) g dataset)
      (fun _ t => Ensured g [dataset] (w.site backend) (t.site backend)) w := by
  unfold ensureSnapshotTask
  refine (query_snapshotTask backend dataset (namingSchema g)).yields_seq ?_
  cases found : (w.site backend).snapshotTask? dataset (namingSchema g) with
  | some task =>
    refine yields_ret (Ensured.refl fun empty => ?_)
    rw [tasksOf_eq_nil_iff.mp empty] at found
    cases found
  | none =>
    refine yields_mapError (yields_mono (yields_createSnapshotTask dataset) ?_)
    rintro _ t ⟨replications, taskID, appended⟩
    exact Ensured.create (tasksOf_eq_nil_iff.mpr found) replications appended

theorem yields_ensureMember (id : Volume.ID) :
    R.yields (ensureMember (caller backend) g id)
      (fun _ t => Ensured g [id.datasetPath] (w.site backend) (t.site backend)) w := by
  unfold ensureMember
  generalize id.datasetPath = dataset
  refine yields_bind (yields_ensureSnapshotTask dataset) fun task t ensured => ?_
  refine yields_bind (yields_ensureBaseline dataset) fun _ u same => ?_
  exact yields_ret (ensured.congr same.1 same.2)

theorem yields_ensureMembers (volumes : List Volume.ID) :
    R.yields (ensureMembers (caller backend) g volumes)
      (fun _ t => Ensured g (volumes.map (·.datasetPath)) (w.site backend) (t.site backend)) w := by
  -- Volume by volume, each one starting where the one before it ended.
  induction volumes generalizing w with
  | nil => exact yields_ret (Ensured.nil g _)
  | cons id rest ih =>
    refine yields_bind (yields_ensureMember id) fun task t first => ?_
    refine yields_bind ih fun others u second => ?_
    exact yields_ret (first.cons second)

variable (dstRoot : String) (taskIDs : List Nat)

theorem yields_createReplication :
    R.yields (createReplication (caller backend) (forwardSpec g dstRoot taskIDs)) (fun _ t =>
      (t.site backend).snapshotTasks = (w.site backend).snapshotTasks ∧
        ((t.site backend).replications.named (taskName g)).map (·.sourceDatasets) =
          some (members g)) w := by
  refine yields_caller fun task accepted => ?_
  simp only [act, act.lift, Site.act] at accepted ⊢
  split_ifs at accepted ⊢ with free
  rw [setSite_self]
  refine ⟨rfl, ?_⟩
  have found := @TaskTable.named_insert (w.site backend).replications
    { forwardSpec g dstRoot taskIDs with id := (w.site backend).nextID } free
  exact congrArg (Option.map (·.sourceDatasets)) found

theorem yields_runReplication (id : Nat) :
    R.yields (runReplication (caller backend) id)
      (fun _ t => (w.site backend).SameTasks (t.site backend)) w :=
  yields_caller fun _ _ => w.runReplication_sameTasks backend id backend

theorem yields_ensureReplication :
    R.yields (ensureReplication (caller backend) g dstRoot taskIDs) (fun _ t =>
      (t.site backend).snapshotTasks = (w.site backend).snapshotTasks ∧
        ((t.site backend).replications.named (taskName g)).map (·.sourceDatasets) =
          some ((((w.site backend).replications.named (taskName g)).map
            (·.sourceDatasets)).getD (members g))) w := by
  unfold ensureReplication
  refine (query_replicationByName backend (taskName g)).yields_seq ?_
  cases found : (w.site backend).replications.named (taskName g) with
  | some task =>
    refine yields_ret ⟨rfl, ?_⟩
    rw [found]
    rfl
  | none =>
    refine yields_bind (yields_createReplication dstRoot taskIDs) fun task t created => ?_
    refine yields_bind (yields_mapError (yields_runReplication task.id)) fun _ u same => ?_
    refine yields_ret ⟨same.snapshotTasks.trans created.1, ?_⟩
    rw [sources_of_sameTasks same, created.2]
    rfl

end

/-- What a `Create` that succeeds leaves. -/
structure Adopted (g : Group) (s s' : Site) : Prop where
  task : (s'.replications.named (taskName g)).map (·.sourceDatasets) =
    some (((s.replications.named (taskName g)).map (·.sourceDatasets)).getD (members g))
  kept : ∀ d, d ∉ members g ∨ s.tasksOf g d ≠ [] → s'.tasksOf g d = s.tasksOf g d
  made : ∀ d ∈ members g, s.tasksOf g d = [] → ∃ t, s'.tasksOf g d = [t] ∧ Requested g t

theorem Ensured.adopted {s'' : Site} (ensured : Ensured g (members g) s s')
    (snapshotTasks : s''.snapshotTasks = s'.snapshotTasks)
    (task : (s''.replications.named (taskName g)).map (·.sourceDatasets) =
      some (((s'.replications.named (taskName g)).map (·.sourceDatasets)).getD (members g))) :
    Adopted g s s'' := by
  have same : ∀ d, s''.tasksOf g d = s'.tasksOf g d := by
    intro d
    unfold Site.tasksOf
    rw [snapshotTasks]
  refine ⟨?_, fun d outside => (same d).trans (ensured.kept d outside), ?_⟩
  · rw [task, ensured.replications]
  · intro d member empty
    rw [same]
    exact ensured.made d member empty

theorem yields_create (m : Manager) (g : Group) (w : World) :
    R.yields (m.create g)
      (fun _ t => Adopted g (w.site g.sourceBackend) (t.site g.sourceBackend)) w := by
  unfold create
  -- Membership, roots, clients and the record leave the appliances alone.
  have verified : R.yields (m.verifyMembership g) (fun _ t => t.site = w.site) w := by
    unfold verifyMembership
    refine yields_ofExcept_seq fun _ _ => yields_ofExcept_seq fun cfg _ => ?_
    have dialled : R.yields (m.client g.sourceBackend)
        (fun c t => c = caller g.sourceBackend ∧ t.site = w.site) w := by
      refine yields_iff_wp.mpr (wp_mono (m.wp_client g.sourceBackend w) ?_)
      rintro r t ⟨dialled, ended⟩ c rfl
      rcases ended with ⟨same, -⟩ | ⟨e, same, -⟩
      · exact ⟨Except.ok.inj same, dialled.site⟩
      · cases same
    refine yields_bind dialled ?_
    rintro c t ⟨rfl, same⟩
    exact yields_mono (yields_site_of_looks (emits_verifyMembers fun _ => rfl) t)
      fun _ u again => again.trans same
  refine yields_bind verified fun _ t first => ?_
  have rooted : R.yields (m.roots g) (fun _ u => u.site = w.site) t :=
    yields_ofExcept_seq fun _ _ => yields_ofExcept_seq fun _ _ =>
      yields_ret first
  refine yields_bind rooted fun roots t second => ?_
  have dialled : R.yields (m.clients g)
      (fun c u => c.1 = caller g.sourceBackend ∧ u.site = w.site) t := by
    refine yields_iff_wp.mpr (wp_mono (m.wp_clients g t) ?_)
    rintro r u ⟨dialled, ended⟩ c rfl
    rcases ended with ⟨same, -⟩ | ⟨e, same, -⟩
    · cases Except.ok.inj same
      exact ⟨rfl, dialled.site.trans second⟩
    · cases same
  refine yields_bind dialled ?_
  rintro ⟨src, dst⟩ t ⟨rfl, third⟩
  have loaded : R.yields (m.store.load g.name) (fun _ u => u.site = w.site) t :=
    yields_iff_wp.mpr (Store.wp_load.mpr fun _ _ => third)
  refine yields_bind loaded fun st t fourth => ?_
  rw [← fourth]
  -- From here on it is the tasks of the source.
  refine yields_bind (yields_ensureMembers g.volumes) fun taskIDs u ensured => ?_
  refine yields_bind (yields_ensureReplication roots.2 taskIDs) fun task v replicated => ?_
  have adopted : Adopted g (t.site g.sourceBackend) (v.site g.sourceBackend) :=
    Ensured.adopted ensured replicated.1 replicated.2
  have saved : R.yields (m.store.save g.name (ensuredState g taskIDs task st))
      (fun _ x => Adopted g (t.site g.sourceBackend) (x.site g.sourceBackend)) v := by
    refine yields_iff_wp.mpr (Store.wp_save.mpr fun _ _ => ?_)
    rwa [Store.saved_site]
  exact yields_bind saved fun _ x done => yields_ret done

end Manager

/-- What was missing was made as requested, so only what was found can be wrong. -/
theorem covered_iff_fitting (adopted : Manager.Adopted g s s') : Covered g s' ↔ Fitting g s := by
  constructor
  · intro covered
    refine ⟨?_, ?_, ?_⟩
    · intro task found d
      obtain ⟨task', found', sources⟩ := covered.task
      have same := adopted.task
      rw [found, found'] at same
      have equal : task'.sourceDatasets = task.sourceDatasets := by simpa using same
      rw [← equal]
      exact sources d
    · intro d member
      by_cases empty : s.tasksOf g d = []
      · exact .inl empty
      · obtain ⟨t, only, requested⟩ := covered.volumes d member
        refine .inr ⟨t, ?_, requested⟩
        rw [← adopted.kept d (.inr empty), only]
    · refine others_iff.mpr fun d outside => ?_
      rw [← adopted.kept d (.inl outside)]
      exact others_iff.mp covered.others d outside
  · intro fitting
  -- What was missing was made for the members, the rest was kept.
    refine ⟨?_, ?_, ?_⟩
    · have same := adopted.task
      cases found' : s'.replications.named (taskName g) with
      | none => simp [found'] at same
      | some task' =>
        refine ⟨task', rfl, fun d => ?_⟩
        cases found : s.replications.named (taskName g) with
        | none =>
          have equal : task'.sourceDatasets = members g := by simpa [found, found'] using same
          rw [equal]
        | some task =>
          have equal : task'.sourceDatasets = task.sourceDatasets := by
            simpa [found, found'] using same
          rw [equal]
          exact fitting.task task found d
    · intro d member
      rcases fitting.volumes d member with empty | ⟨t, only, requested⟩
      · exact adopted.made d member empty
      · refine ⟨t, ?_, requested⟩
        rw [adopted.kept d (.inr (by simp [only])), only]
    · refine others_iff.mpr fun d outside => ?_
      rw [adopted.kept d (.inl outside)]
      exact others_iff.mp fitting.others d outside

/-- After a `Create` that succeeded, with any failures, the tasks cover exactly the volumes of the group, if
and only if the tasks that were there before fit it. -/
theorem coverage_iff {m : Manager} {g : Group} {faults : List Fault} {w w' : World} {st : State}
    (ran : R.run (m.create g) faults w = (.ok st, w')) :
    Covered g (w'.site g.sourceBackend) ↔ Fitting g (w.site g.sourceBackend) := by
  have reached := yields_run_ok (Manager.yields_create m g w) ran
  exact covered_iff_fitting reached

theorem fitting_of_no_tasks (none : s.replications.rows = [])
    (nor : s.snapshotTasks = []) : Fitting g s := by
  refine ⟨?_, ?_, ?_⟩
  · intro task found
    simp [TaskTable.named, none] at found
  · intro d _
    left
    simp [Site.tasksOf, nor]
  · intro t present
    simp [nor] at present

def unprotected : World := Pair.world (Pair.source ["pvc-1", "pvc-2"]) (Pair.target [])

def firstProtected : World := (R.run (Pair.manager.create (Pair.group ["pvc-1"])) [] unprotected).2

theorem first_create_covers : Covered (Pair.group ["pvc-1"]) (firstProtected.site "nas1") := by
  obtain ⟨st, ran⟩ : ∃ st, R.run (Pair.manager.create (Pair.group ["pvc-1"])) [] unprotected =
      (.ok st, firstProtected) := run_of_isOk (by decide)
  exact (coverage_iff ran).mpr (fitting_of_no_tasks rfl rfl)

/-- An added volume is not covered. -/
theorem added_volume_left_out : ¬ ∀ (m : Manager) (before after : Group) (w w' w'' : World)
    (st st' : State), after.name = before.name → after.sourceBackend = before.sourceBackend →
      Fitting before (w.site before.sourceBackend) →
      R.run (m.create before) [] w = (.ok st, w') → R.run (m.create after) [] w' = (.ok st', w'') →
      Covered after (w''.site after.sourceBackend) := by
  intro covers
  obtain ⟨st, first⟩ : ∃ st, R.run (Pair.manager.create (Pair.group ["pvc-1"])) [] unprotected =
      (.ok st, firstProtected) := run_of_isOk (by decide)
  obtain ⟨st', second⟩ : ∃ st, R.run (Pair.manager.create (Pair.group ["pvc-1", "pvc-2"])) []
      firstProtected = (.ok st, _) := run_of_isOk (by decide)
  have fits : Fitting (Pair.group ["pvc-1"]) (unprotected.site "nas1") := fitting_of_no_tasks rfl rfl
  have covered := covers Pair.manager (Pair.group ["pvc-1"]) (Pair.group ["pvc-1", "pvc-2"])
    unprotected firstProtected _ st st' rfl rfl fits first second
  obtain ⟨task, found, sources⟩ := covered.task
  have sent : (((R.run (Pair.manager.create (Pair.group ["pvc-1", "pvc-2"])) []
      firstProtected).2.site "nas1").replications.named (taskName (Pair.group ["pvc-1", "pvc-2"]))).map
        (·.sourceDatasets) = some ["Pool0/k8s/pvc-1"] := by decide
  have shown := congrArg (Option.map fun t : ReplicationTask => t.sourceDatasets) found
  have only : some task.sourceDatasets = some ["Pool0/k8s/pvc-1"] := shown.symm.trans sent
  have missing : "Pool0/k8s/pvc-2" ∈ task.sourceDatasets := (sources _).mpr (by decide)
  rw [Option.some.inj only] at missing
  simp at missing

end TruenasCsi.Replication
