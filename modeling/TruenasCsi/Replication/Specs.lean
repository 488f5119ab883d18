import TruenasCsi.Truenas.Errors
import TruenasCsi.Support.Along
import TruenasCsi.Replication.Manager

/-! What the engine's questions answer. -/

namespace TruenasCsi.Replication

open Appliance Prog
open Volume (ID)
open Backend

abbrev R.calm {α : Type} (p : R α) (w : World) : Except Err α × World := R.run p [] w

variable {α : Type} {w : World} {op : Op} {p : R α} {backend : String}

theorem calm_seq {β : Type} {f : α → R β} {t : World} {a : α}
    (first : R.calm p w = (.ok a, t)) : R.calm (p >>= f) w = R.calm (f a) t := by
  unfold R.calm R.run at *
  rw [run_bind, first]

def Any : (c : Call) → Except Err c.Answer → Prop := fun _ _ => True

theorem handle_any (fault : Fault) (c : Call) (w : World) : Any c (World.handle fault c w).1 := trivial

def Op.reads : Op → Bool
  | .dataset op => op.reads
  | .snapshotsOf _ => true
  | .replicationQuery _ => true
  | .snapshotTaskQuery _ => true
  | _ => false

theorem World.act_reads (reads : op.reads = true) (w : World) (backend : String) :
    (w.act backend op).2 = w := by
  cases op with
  | dataset op =>
    have same := Storage.act_reads reads (w.site backend).storage
    show w.setSite backend { w.site backend with storage := (Storage.act op _).2 } = w
    rw [same]
    exact w.setSite_site backend
  | snapshotsOf dataset => exact w.setSite_site backend
  | replicationQuery name => exact w.setSite_site backend
  | snapshotTaskQuery dataset => exact w.setSite_site backend
  | _ => cases reads

/-- A call changes its own backend only. -/
theorem World.act_frame (w : World) (backend : String) (op : Op) :
    (w.act backend op).2 = { w with site := (w.act backend op).2.site } := by
  cases op with
  | replicationRun id =>
    simp only [act, runReplication]
    split
    · rfl
    · split_ifs
      · rfl
      · split <;> rfl
  | _ => rfl

theorem wp_caller {Q : Except Err op.Answer → World → Prop} :
    R.wp (caller backend op) Q w ↔ (∀ e : Failure, Q (.error e.err) w) ∧
      (∀ e : Failure, Q (.error e.err) (w.act backend op).2) ∧
      Q (w.act backend op).1 (w.act backend op).2 := by
  unfold R.wp caller
  rw [wp_issue]
  constructor
  · intro ends
    exact ⟨fun e => ends (.refused e), fun e => ends (.lost e), ends .none⟩
  · rintro ⟨refused, lost, answered⟩ fault
    cases fault with
    | none => exact answered
    | refused e => exact refused e
    | lost e => exact lost e

theorem calm_caller (backend : String) (op : Op) (w : World) :
    R.calm (caller backend op) w = w.act backend op :=
  run_issue _ _ w

theorem yields_caller {Q : op.Answer → World → Prop}
    (ends : ∀ a, (w.act backend op).1 = .ok a → Q a (w.act backend op).2) :
    R.yields (caller backend op) Q w := by
  refine yields_iff_wp.mpr (wp_caller.mpr ⟨?_, ?_, ends⟩)
  · nofun
  · nofun

theorem run_of_isOk {faults : List Fault} (ended : (R.run p faults w).1.isOk = true) :
    ∃ a, R.run p faults w = (.ok a, (R.run p faults w).2) := by
  cases answer : (R.run p faults w).1 with
  | ok a => exact ⟨a, Prod.ext answer rfl⟩
  | error e =>
    rw [answer] at ended
    cases ended

def refusedAs {α : Type} (s : Sentinel) : Except Err α → Bool
  | .ok _ => false
  | .error e => e.isA s

theorem run_of_refusedAs (s : Sentinel) (p : R α) (faults : List Fault) (w : World)
    (ended : refusedAs s (R.run p faults w).1 = true) :
    ∃ e, R.run p faults w = (.error e, (R.run p faults w).2) ∧ e.isA s = true := by
  cases answer : (R.run p faults w).1 with
  | ok a =>
    rw [answer] at ended
    cases ended
  | error e =>
    rw [answer] at ended
    exact ⟨e, Prod.ext answer rfl, ended⟩

abbrev R.wpLogged {α : Type} (p : R α) (Q : Except Err α → World × List (Call × Fault) → Prop)
    (s : World × List (Call × Fault)) : Prop :=
  Prog.wp (Prog.logged World.handle) p Q s

/-- A question, answered unless a call fails. -/
structure Query {α : Type} (p : R α) (answer : World → α) : Prop where
  asks : ∀ w, R.wp p (fun r t => t = w ∧ (r = .ok (answer w) ∨ ∃ f : Failure, r = .error f.err)) w
  calm : ∀ w, R.calm p w = (.ok (answer w), w)

section

variable {α β : Type} {p : R α} {answer : World → α} {w : World} {f : α → R β}

/-- A query answers from the state and leaves it. -/
theorem query_caller {backend : String} {answer : World → op.Answer} (reads : op.reads = true)
    (answered : ∀ w : World, (w.act backend op).1 = .ok (answer w)) :
    Query (caller backend op) answer := by
  constructor
  · intro w
    have same := World.act_reads reads w backend
    refine wp_caller.mpr ⟨?_, ?_, ?_⟩
    · exact fun e => ⟨rfl, .inr ⟨e, rfl⟩⟩
    · exact fun e => ⟨same, .inr ⟨e, rfl⟩⟩
    · exact ⟨same, .inl (answered w)⟩
  · intro w
    rw [calm_caller]
    exact Prod.ext (answered w) (World.act_reads reads w backend)

theorem Query.wp_seq (query : Query p answer) {Q : Except Err β → World → Prop}
    (failed : ∀ e : Failure, Q (.error e.err) w) (rest : R.wp (f (answer w)) Q w) :
    R.wp (p >>= f) Q w := by
  refine Prog.wp_seq (query.asks w) ?_ ?_
  · rintro e t ⟨rfl, ended⟩
    obtain same | ⟨f, same⟩ := ended
    · cases same
    · cases same
      exact failed f
  · rintro a t ⟨rfl, ended⟩
    obtain same | ⟨f, same⟩ := ended
    · cases same
      exact rest
    · cases same

theorem Query.yields_seq (query : Query p answer) {Q : β → World → Prop}
    (rest : R.yields (f (answer w)) Q w) : R.yields (p >>= f) Q w := by
  refine yields_iff_wp.mpr (query.wp_seq ?_ (yields_iff_wp.mp rest))
  nofun

theorem Query.calm_seq (query : Query p answer) (f : α → R β) :
    R.calm (p >>= f) w = R.calm (f (answer w)) w :=
  Replication.calm_seq (query.calm w)

theorem query_pure (a : α) : Query (pure a) fun _ => a :=
  ⟨fun _ => ⟨rfl, .inl rfl⟩, fun _ => rfl⟩

theorem Query.bind (query : Query p answer) {after : α → World → β}
    (rest : ∀ a, Query (f a) (after a)) : Query (p >>= f) fun w => after (answer w) w := by
  constructor
  · intro w
    exact query.wp_seq (fun e => ⟨rfl, .inr ⟨e, rfl⟩⟩) ((rest (answer w)).asks w)
  · intro w
    rw [query.calm_seq]
    exact (rest (answer w)).calm w

theorem Query.map (query : Query p answer) (g : α → β) :
    Query (p >>= fun a => pure (g a)) fun w => g (answer w) :=
  query.bind fun a => query_pure (g a)

theorem Query.absentAsEmpty {p : R (List α)} {answer : World → List α} (query : Query p answer) :
    Query (absentAsEmpty p) answer := by
  constructor
  · intro w
    refine wp_rescue.mpr (wp_mono (query.asks w) ?_)
    rintro r t ⟨rfl, rfl | ⟨f, rfl⟩⟩
    · exact ⟨rfl, .inl rfl⟩
    · -- A failure never reports that the object is absent.
      show Prog.wp _ (if f.err.isNotFound then _ else _) _ _
      rw [f.notAbsence]
      exact ⟨rfl, .inr ⟨f, rfl⟩⟩
  · intro w
    unfold Replication.absentAsEmpty Prog.rescue R.calm R.run
    rw [run_bind, run_attempt]
    have asked : Prog.run World.handle p [] w = (.ok (answer w), w) := query.calm w
    rw [asked]
    rfl

end

/-- A question answered or refused by what is found. -/
structure Check {α : Type} (p : R α) (answer : World → Except Err α) : Prop where
  asks : ∀ w, R.wp p (fun r t => t = w ∧ (r = answer w ∨ ∃ e, r = .error e)) w
  calm : ∀ w, R.calm p w = (answer w, w)

section

variable {α β : Type} {p : R α} {answer : World → Except Err α}

theorem check_ofExcept (r : Except Err α) : Check (Prog.ofExcept r) fun _ => r :=
  ⟨fun _ => wp_ofExcept.mpr ⟨rfl, .inl rfl⟩, fun w => run_ofExcept _ r _ w⟩

theorem Query.check {answer : World → α} (query : Query p answer) : Check p fun w => .ok (answer w) := by
  refine ⟨fun w => wp_mono (query.asks w) ?_, query.calm⟩
  rintro r t ⟨same, answered | ⟨f, failed⟩⟩
  · exact ⟨same, .inl answered⟩
  · exact ⟨same, .inr ⟨f.err, failed⟩⟩

theorem Check.bind (check : Check p answer) {f : α → R β}
    {after : α → World → Except Err β} (rest : ∀ a, Check (f a) (after a)) :
    Check (p >>= f) fun w => answer w >>= fun a => after a w := by
  constructor
  · intro w
    refine wp_seq (check.asks w) ?_ ?_
    · rintro e t ⟨rfl, same | ⟨e', same⟩⟩
      · exact ⟨rfl, .inl (by rw [← same]; rfl)⟩
      · exact ⟨rfl, .inr ⟨e, rfl⟩⟩
    · rintro a t ⟨rfl, same | ⟨e', same⟩⟩
      · rw [← same]
        exact (rest a).asks t
      · cases same
  · intro w
    unfold R.calm R.run
    have first : Prog.run World.handle p [] w = (answer w, w) := check.calm w
    rw [run_bind, first]
    cases answer w with
    | ok a => exact (rest a).calm w
    | error e => rfl

theorem Check.mapError (check : Check p answer) (f : Err → Err) :
    Check (p.mapError f) fun w => (answer w).mapError f := by
  constructor
  · intro w
    refine wp_mapError.mpr (wp_mono (check.asks w) ?_)
    rintro r t ⟨rfl, rfl | ⟨e, rfl⟩⟩
    · exact ⟨rfl, .inl rfl⟩
    · exact ⟨rfl, .inr ⟨f e, rfl⟩⟩
  · intro w
    unfold R.calm R.run
    have first : Prog.run World.handle p [] w = (answer w, w) := check.calm w
    rw [run_mapError, first]

end

section

variable (backend : String)

theorem query_replicationByName (name : String) :
    Query (queryReplicationByName (caller backend) name)
      fun w => (w.site backend).replications.named name := by
  have asked : Query (caller backend (.replicationQuery name))
      fun w => ((w.site backend).replications.named name).toList :=
    query_caller rfl fun _ => rfl
  simpa [queryReplicationByName] using asked.absentAsEmpty.map List.head?

variable (s : Site) (dataset schema : String)

def Site.snapshotTask? : Option SnapshotTask :=
  (s.snapshotTasks.filter fun t => t.dataset == dataset).find? fun t => t.namingSchema == schema

theorem query_snapshotTask :
    Query (querySnapshotTask (caller backend) dataset schema)
      fun w => (w.site backend).snapshotTask? dataset schema := by
  have asked : Query (caller backend (.snapshotTaskQuery dataset))
      fun w => (w.site backend).snapshotTasks.filter fun t => t.dataset == dataset :=
    query_caller rfl fun _ => rfl
  exact asked.absentAsEmpty.map fun rows => rows.find? fun t => t.namingSchema == schema

def Site.listed : List Appliance.Snapshot :=
  ((s.storage.snapshots.filter fun snap => snap.dataset == dataset).map
    Storage.snapshotView).insertionSort byTXG

theorem query_snapshotsOf :
    Query (snapshotsOf (caller backend) dataset) fun w => (w.site backend).listed dataset := by
  have asked : Query (caller backend (.snapshotsOf dataset)) fun w =>
      ((w.site backend).storage.snapshots.filter fun snap => snap.dataset == dataset).map
        Storage.snapshotView :=
    query_caller rfl fun _ => rfl
  exact asked.absentAsEmpty.map fun rows => rows.insertionSort byTXG

theorem query_latestSnapshot :
    Query (latestSnapshot (caller backend) dataset)
      fun w => ((w.site backend).listed dataset).getLast? :=
  (query_snapshotsOf backend dataset).map List.getLast?

theorem query_dataset (id : String) :
    Query (queryDataset (caller backend) id) fun w => (w.site backend).storage.dataset? id := by
  have asked : Query (caller backend (.dataset (.query id)))
      fun w => ((w.site backend).storage.dataset? id).toList :=
    query_caller rfl fun _ => rfl
  simpa [queryDataset] using asked.absentAsEmpty.map List.head?

end

section

variable {α : Type} {P : Call → Prop} {backend : String} {dataset id : String}

theorem emits_caller (allowed : P (.api backend op)) : (caller backend op).Emits Any P :=
  emits_issue.mpr allowed

theorem emits_absentAsEmpty {p : R (List α)} (emits : p.Emits Any P) :
    (absentAsEmpty p).Emits Any P := by
  refine emits_rescue emits fun e => ?_
  exact emits_if (fun _ => trivial) fun _ => trivial

theorem emits_ignoreAbsent {p : R Unit} (emits : p.Emits Any P) : (ignoreAbsent p).Emits Any P := by
  refine emits_rescue emits fun e => ?_
  exact emits_if (fun _ => trivial) fun _ => trivial

theorem emits_queryReplicationByName {name : String} (asked : P (.api backend (.replicationQuery name))) :
    (queryReplicationByName (caller backend) name).Emits Any P :=
  emits_bind (emits_absentAsEmpty (emits_caller asked)) fun _ => trivial

theorem emits_querySnapshotTask {schema : String}
    (asked : P (.api backend (.snapshotTaskQuery dataset))) :
    (querySnapshotTask (caller backend) dataset schema).Emits Any P :=
  emits_bind (emits_absentAsEmpty (emits_caller asked)) fun _ => trivial

theorem emits_snapshotsOf (asked : P (.api backend (.snapshotsOf dataset))) :
    (snapshotsOf (caller backend) dataset).Emits Any P :=
  emits_bind (emits_absentAsEmpty (emits_caller asked)) fun _ => trivial

theorem emits_latestSnapshot (asked : P (.api backend (.snapshotsOf dataset))) :
    (latestSnapshot (caller backend) dataset).Emits Any P :=
  emits_bind (emits_snapshotsOf asked) fun _ => trivial

theorem emits_queryDataset (asked : P (.api backend (.dataset (.query id)))) :
    (queryDataset (caller backend) id).Emits Any P :=
  emits_bind (emits_absentAsEmpty (emits_caller asked)) fun _ => trivial

theorem emits_verifyOwned (asked : P (.api backend (.dataset (.query id)))) :
    (verifyOwned (caller backend) id).Emits Any P := by
  refine emits_bind (emits_queryDataset asked) fun found => ?_
  cases found with
  | none => trivial
  | some ds => exact emits_bind emits_ofExcept fun _ => trivial

theorem emits_client {m : Manager} (dials : P (.client backend)) : (m.client backend).Emits Any P :=
  emits_bind emits_ofExcept fun _ =>
    emits_bind (emits_mapError.mpr (emits_issue.mpr dials)) fun _ => trivial

end

def Call.Looks : Call → Prop
  | .api _ op => op.reads = true
  | _ => True

theorem Call.Looks.site {c : Call} (looks : c.Looks) (fault : Fault) (w : World) :
    (World.handle fault c w).2.site = w.site := by
  cases c with
  | api backend op =>
    have same := World.act_reads looks w backend
    cases fault with
    | none => exact congrArg World.site same
    | refused e => rfl
    | lost e => exact congrArg World.site same
  | client backend =>
    by_cases connected : backend ∈ w.connected
    · simp [World.handle, connected]
    · cases fault <;> simp [World.handle, connected]
  | update spg =>
    cases fault <;> simp only [World.handle, World.faulty] <;> split_ifs <;> rfl
  | updateStatus spg =>
    cases fault <;> simp only [World.handle, World.faulty] <;> split_ifs <;> rfl
  | get ns name => cases fault <;> rfl
  | _ => rfl

theorem wp_site_of_looks {p : R α} (looks : p.Emits Any Call.Looks) (w : World) :
    R.wp p (fun _ t => t.site = w.site) w := by
  refine Prog.Emits.wp_invariant World.handle handle_any looks ?_ rfl
  intro fault c t looks same
  exact (looks.site fault t).trans same

theorem yields_site_of_looks {p : R α} (looks : p.Emits Any Call.Looks) (w : World) :
    R.yields p (fun _ t => t.site = w.site) w :=
  yields_iff_wp.mpr (wp_mono (wp_site_of_looks looks w) fun _ _ same _ _ => same)

def Op.sparesStorage : Op → Bool
  | .dataset op => op.reads
  | .promote _ => false
  | .replicationRun _ => false
  | _ => true

def Call.SparesStorage : Call → Prop
  | .api _ op => op.sparesStorage = true
  | _ => True

theorem World.act_sparesStorage (spares : op.sparesStorage = true) (w : World)
    (backend other : String) : ((w.act backend op).2.site other).storage = (w.site other).storage := by
  -- Only the site that is asked can differ, and not in what it stores.
  have lifted : ∀ s : Site, s.storage = (w.site backend).storage →
      ((w.setSite backend s).site other).storage = (w.site other).storage := by
    intro s same
    by_cases here : other = backend
    · subst here
      rwa [setSite_self]
    · rw [setSite_other _ _ here]
  cases op with
  | dataset op =>
    have same := act_reads (show (Op.dataset op).reads = true from spares) w backend
    rw [same]
  | promote id => cases spares
  | replicationRun id => cases spares
  | _ =>
    refine lifted _ ?_
    first
      | rfl
      | simp only [Site.act]
        split_ifs <;> rfl

theorem Call.SparesStorage.handle {c : Call} (spares : c.SparesStorage) (fault : Fault) (w : World)
    (backend : String) : ((World.handle fault c w).2.site backend).storage = (w.site backend).storage := by
  cases c with
  | api b op =>
    cases fault with
    | none => exact World.act_sparesStorage spares w b backend
    | refused e => rfl
    | lost e => exact World.act_sparesStorage spares w b backend
  | client b => rw [Call.Looks.site (c := .client b) trivial]
  | load g => rfl
  | save g st => rfl
  | read => rfl
  | write spg => rfl
  | get ns name => rw [Call.Looks.site (c := .get ns name) trivial]
  | update spg => rw [Call.Looks.site (c := .update spg) trivial]
  | updateStatus spg => rw [Call.Looks.site (c := .updateStatus spg) trivial]

theorem wp_storage_of_spares {p : R α} (spares : p.Emits Any Call.SparesStorage) (w : World)
    (backend : String) :
    R.wp p (fun _ t => (t.site backend).storage = (w.site backend).storage) w := by
  refine Prog.Emits.wp_invariant World.handle handle_any spares ?_ rfl
  intro fault c t spared same
  exact (spared.handle fault t backend).trans same

/-! A run of a task: the receiver gets other contents, and the task is told how it ended. -/

theorem TaskTable.named_insert {t : TaskTable} {task : ReplicationTask}
    (free : t.named task.name = none) : (t.insert task free).named task.name = some task := by
  have absent : t.rows.find? (fun row => row.name == task.name) = none := free
  simp [TaskTable.named, TaskTable.insert, List.find?_append, absent]

/-- Two states that differ in contents. -/
def Site.Refilled (s s' : Site) : Prop :=
  s' = { s with storage := s'.storage, written := s'.written }

namespace Site

theorem Refilled.refl (s : Site) : Refilled s s := rfl

theorem Refilled.trans {s s' s'' : Site} (first : Refilled s s') (second : Refilled s' s'') :
    Refilled s s'' := by
  unfold Refilled at *
  rw [second, first]

variable (task : ReplicationTask) (sender : Site)

theorem receive_refilled (source : String) (s : Site) :
    Refilled s (receive task sender source s).2 := by
  unfold receive
  split
  · exact Refilled.refl s
  · dsimp only
    split
    · rfl
    · split
      · rfl
      · split_ifs
        · rfl
        · exact Refilled.refl s

theorem receiveAll_refilled (sources : List String)
    (s : Site) : Refilled s (receiveAll task sender sources s).2 := by
  induction sources generalizing s with
  | nil => exact Refilled.refl s
  | cons source rest ih => exact (receive_refilled task sender source s).trans (ih _)

end Site

def ReplicationTask.core (task : ReplicationTask) : Nat × ReplicationSpec :=
  (task.id, task.toReplicationSpec)

@[simp] theorem World.finished_core (id : Nat) (result : Except Err Unit) (task : ReplicationTask) :
    (finished id result task).core = task.core := by
  unfold finished
  split_ifs
  · cases result <;> rfl
  · rfl

/-- Two states with the same tasks. -/
structure Site.SameTasks (s s' : Site) : Prop where
  snapshotTasks : s'.snapshotTasks = s.snapshotTasks
  replications : s'.replications.rows.map ReplicationTask.core = s.replications.rows.map ReplicationTask.core

variable {e : Err} {found : Option Dataset} {task : ReplicationTask} {s : Site}
  {id backend : String}

theorem Site.Refilled.sameTasks {s' : Site} (refilled : Refilled s s') : SameTasks s s' := by
  unfold Refilled at refilled
  rw [refilled]
  exact ⟨rfl, rfl⟩

theorem World.runReplication_sameTasks (w : World) (backend : String) (id : Nat) (other : String) :
    (w.site other).SameTasks ((w.runReplication backend id).2.site other) := by
  have same : ∀ s : Site, s.SameTasks s := fun _ => ⟨rfl, rfl⟩
  unfold runReplication
  split
  · exact same _
  · rename_i task found
    split_ifs
    · exact same _
    · split
      · exact same _
      · rename_i peer leads
        have received := (Site.receiveAll_refilled task (w.site backend) task.sourceDatasets
          (w.site peer)).sameTasks
        -- The receiving appliance first, then the record of the run at the sending one.
        have sent : (w.site other).SameTasks ((w.setSite peer
            (Site.receiveAll task (w.site backend) task.sourceDatasets (w.site peer)).2).site other) := by
          by_cases here : other = peer
          · subst here
            rwa [setSite_self]
          · rw [setSite_other _ _ here]
            exact same _
        by_cases here : other = backend
        · subst here
          rw [setSite_self]
          refine ⟨sent.snapshotTasks, ?_⟩
          rw [← sent.replications]
          simp [TaskTable.modify]
        · rwa [setSite_other _ _ here]

theorem sources_of_sameTasks {s' : Site} (same : s.SameTasks s') (name : String) :
    (s'.replications.named name).map (·.sourceDatasets) =
      (s.replications.named name).map (·.sourceDatasets) := by
  have through : ∀ t : TaskTable, (t.named name).map (·.sourceDatasets) =
      ((t.rows.map ReplicationTask.core).find? fun c => c.2.name == name).map (·.2.sourceDatasets) := by
    intro t
    rw [List.find?_map, Option.map_map]
    rfl
  rw [through, through, same.replications]

def ownedDataset (id : String) : Option Dataset → Except Err Dataset
  | none => .error (.sentinel .notManaged
      ("dataset is not managed by this driver — refusing to delete: " ++ Text.quote id ++
        " does not exist"))
  | some ds =>
    match Truenas.verifyOwned ds with
    | .error e => .error e
    | .ok () => .ok ds

theorem verifyOwned_eq (c : Caller) (id : String) :
    verifyOwned c id = queryDataset c id >>= fun found => Prog.ofExcept (ownedDataset id found) := by
  unfold verifyOwned
  congr 1
  funext found
  cases found with
  | none => rfl
  | some ds =>
    cases checked : Truenas.verifyOwned ds with
    | error e => simp [ownedDataset, checked]
    | ok u => simp [ownedDataset, checked]

/-- The guard accepts exactly a dataset that is there and owned. -/
theorem wp_verifyOwned (backend id : String) (w : World) :
    R.wp (verifyOwned (caller backend) id) (fun r t => t = w ∧
      (r = ownedDataset id ((w.site backend).storage.dataset? id) ∨
        ∃ f : Failure, r = .error f.err)) w := by
  rw [verifyOwned_eq]
  refine (query_dataset backend id).wp_seq (fun f => ⟨rfl, .inr ⟨f, rfl⟩⟩) ?_
  exact wp_ofExcept.mpr ⟨rfl, .inl rfl⟩

theorem present_of_owned {ds : Dataset}
    (owned : ownedDataset id found = .ok ds) : found = some ds := by
  cases found with
  | none => cases owned
  | some d =>
    simp only [ownedDataset] at owned
    split at owned
    · cases owned
    · cases owned
      rfl

theorem check_verifyOwned (backend id : String) : Check (verifyOwned (caller backend) id)
    fun w => ownedDataset id ((w.site backend).storage.dataset? id) := by
  rw [verifyOwned_eq]
  exact (query_dataset backend id).check.bind fun found => check_ofExcept _

theorem ownedDataset_error
    (refused : ownedDataset id found = .error e) : e.sentinels = [.notManaged] := by
  cases found with
  | none =>
    cases refused
    rfl
  | some ds =>
    simp only [ownedDataset] at refused
    split at refused
    · rename_i e' checked
      cases refused
      simp only [Truenas.verifyOwned, Volume.verifyOwned] at checked
      repeat' split at checked
      all_goals
        cases checked
        try rfl
    · cases refused

/-- Errors the engine did not make itself. -/
def Foreign (e : Err) : Prop := ∀ s ∈ e.sentinels, s = .unknownBackend

theorem foreign_of_bare (bare : e.Bare) : Foreign e := by
  intro s member
  rw [bare] at member
  cases member

theorem foreign_failure (f : Failure) : Foreign f.err := foreign_of_bare f.bare

theorem Site.receive_bare {sender : Site} {source : String}
    (refused : (receive task sender source s).1 = .error e) : e.Bare := by
  unfold receive at refused
  split at refused
  · cases refused
    rfl
  · dsimp only at refused
    split at refused
    · cases refused
    · split at refused
      · cases refused
      · split_ifs at refused
        cases refused
        rfl

theorem Site.receiveAll_bare {sender : Site} {sources : List String}
    (refused : (receiveAll task sender sources s).1 = .error e) : e.Bare := by
  induction sources generalizing s with
  | nil => cases refused
  | cons source rest ih =>
    simp only [receiveAll] at refused
    split at refused
    · rename_i first
      cases refused
      exact receive_bare first
    · exact ih refused

theorem World.runReplication_bare {id : Nat}
    (refused : (w.runReplication backend id).1 = .error e) : e.Bare := by
  unfold runReplication at refused
  split at refused
  · cases refused
    rfl
  · split_ifs at refused
    · cases refused
      rfl
    · split at refused
      · cases refused
        rfl
      · exact Site.receiveAll_bare refused

theorem World.act_bare (refused : (w.act backend op).1 = .error e) : e.Bare := by
  cases op with
  | dataset op => exact Storage.act_bare refused
  | promote id =>
    simp only [act, act.lift, Site.act, promote] at refused
    split at refused
    · cases refused
      rfl
    · split at refused
      · cases refused
        rfl
      · cases refused
  | replicationRun id => exact runReplication_bare refused
  | _ =>
    simp only [act, act.lift, Site.act] at refused
    first
      | cases refused
      | split_ifs at refused
        cases refused
        rfl

/-- No answer is one of the engine's refusals. -/
def Foreignly : (c : Call) → Except Err c.Answer → Prop := fun _ r => ∀ e, r = .error e → Foreign e

theorem handle_foreignly (fault : Fault) (c : Call) (w : World) :
    Foreignly c (World.handle fault c w).1 := by
  intro e refused
  refine foreign_of_bare ?_
  cases c with
  | api backend op =>
    cases fault with
    | none => exact World.act_bare refused
    | refused f => cases refused; exact f.bare
    | lost f => cases refused; exact f.bare
  | client backend =>
    by_cases connected : backend ∈ w.connected
    · simp [World.handle, connected] at refused
    · cases fault with
      | none => simp [World.handle, connected] at refused
      | refused f =>
        simp only [World.handle, connected, if_false, Except.error.injEq] at refused
        exact refused ▸ f.bare
      | lost f =>
        simp only [World.handle, connected, if_false, Except.error.injEq] at refused
        exact refused ▸ f.bare
  | get ns name =>
    cases fault with
    | none => cases refused
    | refused f => cases refused; exact f.bare
    | lost f => cases refused; exact f.bare
  | update spg =>
    cases fault with
    | none =>
      simp only [World.handle, World.faulty] at refused
      split_ifs at refused
      cases refused
      rfl
    | refused f => cases refused; exact f.bare
    | lost f => cases refused; exact f.bare
  | updateStatus spg =>
    cases fault with
    | none =>
      simp only [World.handle, World.faulty] at refused
      split_ifs at refused
      cases refused
      rfl
    | refused f => cases refused; exact f.bare
    | lost f => cases refused; exact f.bare
  | _ => cases refused

def R.FailsBy {α : Type} (K : Err → Prop) (p : R α) : Prop :=
  p.EmitsTo Foreignly (fun _ => True) fun r => ∀ e, r = .error e → K e

/-- A program without the engine's refusals. -/
abbrev R.Mild {α : Type} (p : R α) : Prop := R.FailsBy Foreign p

section

variable {α β : Type} {K : Err → Prop} {p : R α} {f : α → R β}

theorem fails_ret (a : α) : R.FailsBy K (Prog.ret a : R α) := nofun

theorem fails_fail {e : Err} (kind : K e) : R.FailsBy K (Prog.fail e : R α) := by
  intro e' same
  cases same
  exact kind

theorem fails_ofExcept {r : Except Err α} (kind : ∀ e, r = .error e → K e) :
    R.FailsBy K (Prog.ofExcept r) := by
  cases r with
  | ok a => exact fails_ret a
  | error e => exact fails_fail (kind e rfl)

theorem fails_mono {K' : Err → Prop} (fails : R.FailsBy K p) (weaker : ∀ e, K e → K' e) :
    R.FailsBy K' p :=
  emitsTo_mono fails fun _ kind e same => weaker e (kind e same)

theorem fails_bind (first : R.FailsBy K p) (rest : ∀ a, R.FailsBy K (f a)) : R.FailsBy K (p >>= f) := by
  refine emitsTo_bind.mpr (emitsTo_mono first fun r kind => ?_)
  cases r with
  | ok a => exact rest a
  | error e =>
    intro e' same
    cases same
    exact kind e rfl

theorem fails_mapError {context : String} (fails : R.FailsBy K p) (closed : ∀ e, K e → K (e.wrap context)) :
    R.FailsBy K (p.mapError fun e => e.wrap context) := by
  refine emitsTo_mapError.mpr (emitsTo_mono fails fun r kind => ?_)
  rintro e same
  cases r with
  | ok a => cases same
  | error e' =>
    cases same
    exact closed e' (kind e' rfl)

theorem fails_rescue {handler : Err → R α} (fails : R.FailsBy K p)
    (handled : ∀ e, K e → R.FailsBy K (handler e)) : R.FailsBy K (p.rescue handler) := by
  refine emitsTo_bind.mpr (emitsTo_attempt.mpr (emitsTo_mono fails fun r kind => ?_))
  cases r with
  | ok a => exact fails_ret a
  | error e => exact handled e (kind e rfl)

theorem R.FailsBy.wp (fails : R.FailsBy K p) (w : World) :
    R.wp p (fun r _ => ∀ e, r = .error e → K e) w :=
  Prog.EmitsTo.wp World.handle handle_foreignly fails w

end

section

variable {α : Type} {p : R α}

theorem mild_issue (c : Call) : R.Mild (Prog.issue c) :=
  emitsTo_issue.mpr ⟨trivial, fun _ answers => answers⟩

theorem mild_caller {backend : String} : R.Mild (caller backend op) :=
  mild_issue (.api backend op)

theorem mild_mapError (mild : R.Mild p) (context : String) :
    R.Mild (p.mapError fun e => e.wrap context) :=
  fails_mapError mild fun _ foreign => foreign

theorem mild_absentAsEmpty {p : R (List α)} (mild : R.Mild p) : R.Mild (absentAsEmpty p) := by
  refine fails_rescue mild fun e foreign => ?_
  split_ifs
  · exact fails_ret []
  · exact fails_fail foreign

theorem mild_ignoreAbsent {p : R Unit} (mild : R.Mild p) : R.Mild (ignoreAbsent p) := by
  refine fails_rescue mild fun e foreign => ?_
  split_ifs
  · exact fails_ret ()
  · exact fails_fail foreign

end

variable {e : Err}

theorem validComponents_error {parts : List String}
    (refused : Volume.validComponents parts = .error e) : e.sentinels = [] := by
  induction parts with
  | nil => cases refused
  | cons p rest ih =>
    rw [Volume.validComponents] at refused
    split at refused
    · rename_i e' bad
      cases refused
      unfold Volume.validComponent at bad
      split_ifs at bad <;> cases bad <;> rfl
    · exact ih refused

theorem parseID_error {s : String} (refused : Volume.parseID s = .error e) :
    e.sentinels = [.malformedID] := by
  unfold Volume.parseID at refused
  split at refused
  · cases refused
    rfl
  · split at refused
    · rename_i e' bad
      cases refused
      simp [Err.wrapBoth, validComponents_error bad]
    · cases refused

theorem recordedVolumes_error {marks clones : Dict String} {volumes : List VolumeStatus}
    (refused : recordedVolumes marks clones volumes = .error e) : e.sentinels = [.malformedID] := by
  induction volumes generalizing marks clones with
  | nil => cases refused
  | cons v rest ih =>
    rw [recordedVolumes] at refused
    split at refused
    · rename_i e' unread
      cases refused
      exact parseID_error unread
    · exact ih refused

theorem Foreign.wrap (foreign : Foreign e) (context : String) : Foreign (e.wrap context) :=
  foreign

/-- Two worlds that differ in what is dialled. -/
def Dialled (w t : World) : Prop := t = { w with connected := t.connected }

theorem Dialled.site {t : World} (dialled : Dialled w t) : t.site = w.site := by rw [dialled]

theorem Dialled.trans {t u : World} (first : Dialled w t) (second : Dialled t u) : Dialled w u := by
  unfold Dialled at *
  rw [second, first]

namespace Manager

variable (m : Manager) {g : Group} {backend : String}

theorem backend_foreign {e : Err} (unknown : m.appliances.backend backend = .error e) :
    Foreign e := by
  unfold Registry.backend at unknown
  split at unknown
  · cases unknown
  · cases unknown
    intro s member
    simpa [Err.sentinel] using member

theorem wp_client (backend : String) (w : World) : R.wp (m.client backend) (fun r t =>
    Dialled w t ∧ ((r = .ok (caller backend) ∧ ∃ cfg, m.appliances.backend backend = .ok cfg) ∨
      ∃ e, r = .error e ∧ Foreign e)) w := by
  unfold client
  cases found : m.appliances.backend backend with
  | error e => exact ⟨rfl, .inr ⟨e, rfl, m.backend_foreign found⟩⟩
  | ok cfg =>
    simp only [ofExcept_ok, ret_bind]
    refine wp_bind.mpr (wp_mapError.mpr ?_)
    refine wp_issue.mpr fun fault => ?_
    by_cases connected : backend ∈ w.connected
    · simp only [World.handle, connected, if_true]
      exact ⟨rfl, .inl ⟨rfl, cfg, rfl⟩⟩
    · simp only [World.handle, connected, if_false]
      cases fault with
      | none => exact ⟨rfl, .inl ⟨rfl, cfg, rfl⟩⟩
      | refused f => exact ⟨rfl, .inr ⟨_, rfl, (foreign_failure f).wrap _⟩⟩
      | lost f => exact ⟨rfl, .inr ⟨_, rfl, (foreign_failure f).wrap _⟩⟩

theorem wp_clients (g : Group) (w : World) : R.wp (m.clients g) (fun r t => Dialled w t ∧
    ((r = .ok (caller g.sourceBackend, caller g.targetBackend) ∧
        (∃ cfg, m.appliances.backend g.sourceBackend = .ok cfg) ∧
        ∃ cfg, m.appliances.backend g.targetBackend = .ok cfg) ∨
      ∃ e, r = .error e ∧ Foreign e)) w := by
  unfold clients
  refine wp_seq (m.wp_client g.sourceBackend w) ?_ ?_
  · rintro e t ⟨dialled, ⟨same, -⟩ | ⟨e', same, foreign⟩⟩
    · cases same
    · cases same
      exact ⟨dialled, .inr ⟨e, rfl, foreign⟩⟩
  rintro src t ⟨dialled, ⟨same, known⟩ | ⟨e', same, -⟩⟩
  · cases same
    refine wp_seq (m.wp_client g.targetBackend t) ?_ ?_
    · rintro e u ⟨again, ⟨same, -⟩ | ⟨e', same, foreign⟩⟩
      · cases same
      · cases same
        exact ⟨dialled.trans again, .inr ⟨e, rfl, foreign⟩⟩
    · rintro dst u ⟨again, ⟨same, known'⟩ | ⟨e', same, -⟩⟩
      · cases same
        exact ⟨dialled.trans again, .inl ⟨rfl, known, known'⟩⟩
      · cases same
  · cases same

theorem yields_clients_seq {f : Caller × Caller → R α} {Q : α → World → Prop}
    (rest : ∀ t, Dialled w t → (∃ cfg, m.appliances.backend g.sourceBackend = .ok cfg) →
      (∃ cfg, m.appliances.backend g.targetBackend = .ok cfg) →
      R.yields (f (caller g.sourceBackend, caller g.targetBackend)) Q t) :
    R.yields (m.clients g >>= f) Q w := by
  refine yields_iff_wp.mpr (wp_seq (m.wp_clients g w) ?_ ?_)
  · intro e t _ a wrong
    cases wrong
  · rintro pair t ⟨dialled, ⟨same, source, target⟩ | ⟨e, same, -⟩⟩
    · cases same
      exact yields_iff_wp.mp (rest t dialled source target)
    · cases same

theorem calm_client {cfg : Config} (known : m.appliances.backend backend = .ok cfg) (w : World) :
    ∃ t, Dialled w t ∧ R.calm (m.client backend) w = (.ok (caller backend), t) := by
  refine ⟨(World.handle .none (.client backend) w).2, ?_, ?_⟩
  · by_cases connected : backend ∈ w.connected
    · simp only [World.handle, connected, if_true]
      rfl
    · simp only [World.handle, connected, if_false]
      rfl
  · unfold client R.calm R.run
    rw [known, ofExcept_ok, ret_bind, run_bind, run_mapError, run_issue]
    by_cases connected : backend ∈ w.connected
    · simp [World.handle, connected]
      rfl
    · simp [World.handle, connected]
      rfl

theorem calm_clients {src dst : Config} (source : m.appliances.backend g.sourceBackend = .ok src)
    (target : m.appliances.backend g.targetBackend = .ok dst) (w : World) :
    ∃ t, Dialled w t ∧
      R.calm (m.clients g) w = (.ok (caller g.sourceBackend, caller g.targetBackend), t) := by
  obtain ⟨t, dialled, first⟩ := m.calm_client source w
  obtain ⟨u, again, second⟩ := m.calm_client target t
  refine ⟨u, dialled.trans again, ?_⟩
  unfold clients
  rw [calm_seq first, calm_seq second]
  rfl

/-! Enabling and disabling touches tasks only, and its failures are the appliance's. -/

theorem mild_setTask (backend : String) (g : Group) (enabled : Bool) :
    R.Mild (setTask (caller backend) g enabled) := by
  refine fails_bind (fails_bind (mild_absentAsEmpty mild_caller) fun _ => fails_ret _) fun found => ?_
  cases found with
  | none => exact fails_fail (foreign_of_bare rfl)
  | some task =>
    show R.Mild (if _ then _ else _)
    split_ifs
    · exact fails_ret _
    · exact fails_bind mild_caller fun _ => fails_ret _

theorem mild_setSnapshotTasks (backend : String) (g : Group) (enabled : Bool)
    (volumes : List ID) : R.Mild (setSnapshotTasks (caller backend) g enabled volumes) := by
  induction volumes with
  | nil => exact fails_ret ()
  | cons id rest ih =>
    refine fails_bind (fails_bind (fails_bind (mild_absentAsEmpty mild_caller) fun _ => fails_ret _)
      fun found => ?_) fun _ => ih
    cases found with
    | none => exact fails_ret ()
    | some task =>
      show R.Mild (if _ then _ else _)
      split_ifs
      · exact fails_ret ()
      · exact mild_caller

section

variable {P : Call → Prop} {backend : String} {g : Group} {enabled : Bool}

theorem emits_setTask (asks : P (.api backend (.replicationQuery (taskName g))))
    (sets : ∀ id, P (.api backend (.replicationUpdate id enabled))) :
    (setTask (caller backend) g enabled).Emits Any P := by
  refine emits_bind (emits_queryReplicationByName asks) fun found => ?_
  cases found with
  | none => trivial
  | some task =>
    refine emits_if (fun _ => trivial) fun _ => ?_
    exact emits_bind (emits_caller (sets task.id)) fun _ => trivial

theorem emits_setSnapshotTasks {volumes : List ID}
    (asks : ∀ id ∈ volumes, P (.api backend (.snapshotTaskQuery id.datasetPath)))
    (sets : ∀ id, P (.api backend (.snapshotTaskUpdate id enabled))) :
    (setSnapshotTasks (caller backend) g enabled volumes).Emits Any P := by
  induction volumes with
  | nil => trivial
  | cons id rest ih =>
    refine emits_bind ?_ fun _ => ih fun id' later => asks id' (List.mem_cons_of_mem id later)
    refine emits_bind (emits_querySnapshotTask (asks id List.mem_cons_self)) fun found => ?_
    cases found with
    | none => trivial
    | some task => exact emits_if (fun _ => trivial) fun _ => emits_caller (sets task.id)

theorem emits_setTransfers {st : State} (asks : P (.api backend (.replicationQuery (taskName g))))
    (sets : ∀ id, P (.api backend (.replicationUpdate id enabled)))
    (asksSnapshots : ∀ id ∈ g.volumes, P (.api backend (.snapshotTaskQuery id.datasetPath)))
    (setsSnapshots : ∀ id, P (.api backend (.snapshotTaskUpdate id enabled))) :
    (setTransfers (caller backend) g st enabled).Emits Any P := by
  refine emits_bind (emits_attempt.mpr (emits_setTask asks sets)) fun r => ?_
  cases r with
  | error e => trivial
  | ok id =>
    exact emits_bind (emits_attempt.mpr (emits_setSnapshotTasks asksSnapshots setsSnapshots))
      fun _ => trivial

theorem wp_setTransfers (st : State) (w : World) :
    R.wp (setTransfers (caller backend) g st enabled) (fun r _ => ∃ id done,
      r = .ok ({ st with taskID := id }, done) ∧ ∀ e, done = .error e → Foreign e) w := by
  refine wp_bind.mpr (wp_attempt.mpr ?_)
  refine wp_mono ((mild_setTask backend g enabled).wp w) fun r t mild => ?_
  cases r with
  | error e =>
    refine ⟨st.taskID, .error e, rfl, ?_⟩
    intro e' same
    cases same
    exact mild e rfl
  | ok id =>
    refine wp_bind.mpr (wp_attempt.mpr ?_)
    refine wp_mono ((mild_setSnapshotTasks backend g enabled g.volumes).wp t)
      fun done u known => ?_
    exact ⟨id, done, rfl, known⟩

theorem wp_storage_setTransfers (st : State) (other : String) (w : World) :
    R.wp (setTransfers (caller backend) g st enabled)
      (fun _ t => (t.site other).storage = (w.site other).storage) w :=
  wp_storage_of_spares (emits_setTransfers rfl (fun _ => rfl) (fun _ _ => rfl) fun _ => rfl) w other

end

theorem emits_verifyMembers {P : Call → Prop} {g : Group} {cfg : Config} {backend : String}
    {seen : List String} {volumes : List ID}
    (asks : ∀ id, P (.api backend (.dataset (.query id)))) :
    (verifyMembers (caller backend) g cfg seen volumes).Emits Any P := by
  induction volumes generalizing seen with
  | nil => trivial
  | cons id rest ih =>
    refine emits_bind emits_ofExcept fun _ => emits_bind ?_ fun _ => ih
    exact emits_mapError.mpr (emits_verifyOwned (asks _))

def membersChecked (s : Site) (g : Group) (cfg : Config) : List String → List ID → Except Err Unit
  | _, [] => .ok ()
  | seen, id :: rest => do
    checkMember g cfg seen id
    let _ ← (ownedDataset id.datasetPath (s.storage.dataset? id.datasetPath)).mapError fun e =>
      e.wrap ("group " ++ Text.quote g.name ++ " member " ++ id.string ++ ": ")
    membersChecked s g cfg (id.name :: seen) rest

theorem check_verifyMembers (g : Group) (cfg : Config) (backend : String) (seen : List String)
    (volumes : List ID) : Check (verifyMembers (caller backend) g cfg seen volumes)
      fun w => membersChecked (w.site backend) g cfg seen volumes := by
  induction volumes generalizing seen with
  | nil => exact check_ofExcept (.ok ())
  | cons id rest ih =>
    refine (check_ofExcept _).bind fun _ => ?_
    exact ((check_verifyOwned backend id.datasetPath).mapError _).bind fun _ => ih (id.name :: seen)

theorem roots_eq {g : Group} {src dst : Config}
    (source : m.appliances.backend g.sourceBackend = .ok src)
    (target : m.appliances.backend g.targetBackend = .ok dst) :
    m.roots g = pure (rootOf src, rootOf dst) := by
  unfold roots
  rw [source, target]
  rfl

end Manager

namespace Store

def recorded (store : Store) (group : String) (w : World) : Except Err State :=
  match store with
  | memory => .ok (w.records.getD group {})
  | status => loadedState w.copy.status

variable {store : Store} {group : String} {w : World} {st : State} {P : Call → Prop}

theorem recorded_error {e : Err}
    (refused : store.recorded group w = .error e) : e.sentinels = [.malformedID] := by
  cases store with
  | memory => cases refused
  | status =>
    simp only [recorded, loadedState] at refused
    split at refused
    · rename_i e' unread
      cases refused
      exact recordedVolumes_error unread
    · cases refused

theorem recorded_dialled {t : World} (dialled : Dialled w t) (store : Store) (group : String) :
    store.recorded group t = store.recorded group w := by
  rw [dialled]
  cases store <;> rfl

def saved (store : Store) (group : String) (st : State) (w : World) : World :=
  match store with
  | memory => { w with records := w.records.set group st }
  | status => { w with copy := { w.copy with status := savedStatus w.copy.spec w.copy.status st } }

@[simp] theorem saved_site (store : Store) (group : String) (st : State) (w : World) :
    (store.saved group st w).site = w.site := by
  cases store <;> rfl

theorem wp_load {Q : Except Err State → World → Prop} :
    R.wp (store.load group) Q w ↔ Q (store.recorded group w) w := by
  cases store with
  | memory => exact ⟨fun ends => ends .none, fun ends _ => ends⟩
  | status =>
    constructor
    · intro ends
      exact wp_ofExcept.mp (ends .none)
    · intro ends fault
      exact wp_ofExcept.mpr ends

theorem wp_save {Q : Except Err Unit → World → Prop} :
    R.wp (store.save group st) Q w ↔ Q (.ok ()) (store.saved group st w) := by
  cases store with
  | memory => exact ⟨fun ends => ends .none, fun ends _ => ends⟩
  | status => exact ⟨fun ends => ends .none .none, fun ends _ _ => ends⟩

theorem yields_load_seq {f : State → R α} {Q : α → World → Prop}
    (rest : ∀ st, store.recorded group w = .ok st → R.yields (f st) Q w) :
    R.yields (store.load group >>= f) Q w := by
  refine yields_iff_wp.mpr (wp_bind.mpr (wp_load.mpr ?_))
  cases found : store.recorded group w with
  | ok st => exact yields_iff_wp.mp (rest st found)
  | error e =>
    nofun

theorem yields_save_seq {f : Unit → R α}
    {Q : α → World → Prop} (rest : R.yields (f ()) Q (store.saved group st w)) :
    R.yields (store.save group st >>= f) Q w :=
  yields_iff_wp.mpr (wp_bind.mpr (wp_save.mpr (yields_iff_wp.mp rest)))

theorem emits_load (loads : P (.load group))
    (reads : P .read) : (store.load group).Emits Any P := by
  cases store with
  | memory => exact emits_issue.mpr loads
  | status => exact emits_bind (emits_issue.mpr reads) fun _ => emits_ofExcept

theorem emits_save (saves : P (.save group st)) (reads : P .read) (writes : ∀ spg, P (.write spg)) :
    (store.save group st).Emits Any P := by
  cases store with
  | memory => exact emits_issue.mpr saves
  | status =>
    exact emits_bind (emits_issue.mpr reads) fun _ => emits_issue.mpr (writes _)

theorem mild_save : R.Mild (store.save group st) := by
  cases store with
  | memory => exact mild_issue _
  | status => exact fails_bind (mild_issue _) fun _ => mild_issue _

theorem calm_load (store : Store) (group : String) (w : World) :
    R.calm (store.load group) w = (store.recorded group w, w) := by
  cases store with
  | memory => rfl
  | status =>
    show Prog.run World.handle (Prog.ofExcept (loadedState w.copy.status)) _ w = _
    rw [run_ofExcept]
    rfl

theorem calm_save (store : Store) (group : String) (st : State) (w : World) :
    R.calm (store.save group st) w = (.ok (), store.saved group st w) := by
  cases store <;> rfl

end Store

/-! The appliances of the concrete runs: `nas1` pushes what is below `Pool0/k8s` to `Pool1/dr` on `nas2`. -/

namespace Pair

def registry : Registry where
  backends := .ofList [("nas1", { pool := "Pool0", parentDataset := "k8s" }),
    ("nas2", { pool := "Pool1", parentDataset := "dr" })]
  env := ⟨⟨2026, 1, 1, 0, 0, 0⟩, 0, "secret", fun _ => "0", fun s => s⟩

def manager : Manager := ⟨registry, .memory⟩

def container : DatasetState := { type := .filesystem }

def owned (path : String) : DatasetState where
  type := .filesystem
  mountpoint := "/mnt/" ++ path
  userProperties := .ofList (Volume.stampProperties path)

def site (pool parent : String) (volumes : List String) (credential : Int) (other : String) : Site where
  storage := {
    datasets := .ofList ([(pool, container), (pool ++ "/" ++ parent, container)] ++
      volumes.map fun v => (pool ++ "/" ++ parent ++ "/" ++ v, owned (pool ++ "/" ++ parent ++ "/" ++ v)))
    clock := 10
    txg := 5 }
  peer := fun c => if c = credential then some other else none

def source (volumes : List String) : Site := site "Pool0" "k8s" volumes 3 "nas2"

def target (volumes : List String) : Site := site "Pool1" "dr" volumes 5 "nas1"

def world (src dst : Site) : World := { site := fun backend => if backend = "nas1" then src else dst }

def volume (name : String) : ID := ⟨"nas1", "nfs", "Pool0", "k8s", "", name⟩

def group (names : List String) : Group where
  name := "prod-payments"
  sourceBackend := "nas1"
  targetBackend := "nas2"
  volumes := names.map volume
  sshCredentialID := 3
  sshCredentialIDReverse := 5

def withTask (g : Group) (s : Site) : Site :=
  (s.act (.replicationCreate (Manager.forwardSpec g "Pool1/dr" []))).2

def withSnapshot (dataset name : String) (creation : Int) (s : Site) : Site :=
  { s with storage := { s.storage with
      snapshots := s.storage.snapshots ++ [⟨dataset, name, s.storage.txg, creation, 0, .filesystem⟩]
      txg := s.storage.txg + 1 } }

end Pair

end TruenasCsi.Replication
