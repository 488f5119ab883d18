import TruenasCsi.Appliance.Tree
import TruenasCsi.Replication.Footprint

/-! The guard every call of a test failover passes. -/

namespace TruenasCsi.Replication

open Appliance Prog Replication.World

def Op.Writes (inside : String → Prop) : Op → Prop
  | .dataset (.create spec) => inside spec.name
  | .dataset (.update id _) => inside id
  | .dataset (.delete id _ _) => inside id
  | .dataset (.snapshotClone _ dst _) => inside dst
  | _ => False

/-- A read, or a write inside on one backend. -/
def Call.Confined (backend : String) (inside : String → Prop) : Call → Prop
  | .api b op => op.reads = true ∨ b = backend ∧ op.Writes inside
  | _ => True

variable {op : Op} {root : String}

theorem requireScratch_ok {method id : String} (passed : requireScratch root method id = .ok ()) :
    atOrBelow root id = true := by
  unfold requireScratch at passed
  split_ifs at passed with empty outside
  simp only [not_and_or, not_not, Bool.not_eq_false] at outside
  simpa [atOrBelow] using outside

/-- What the guard lets through reads, or writes inside of the root. -/
theorem permit_ok (passed : permit root op = .ok ()) :
    op.reads = true ∨ op.Writes fun path => atOrBelow root path = true := by
  cases op with
  | dataset op =>
    cases op with
    | create spec => exact .inr (requireScratch_ok passed)
    | update id patch => exact .inr (requireScratch_ok passed)
    | delete id recursive force => exact .inr (requireScratch_ok passed)
    | snapshotClone snap dst props => exact .inr (requireScratch_ok passed)
    | query id => exact .inl rfl
    | list start => exact .inl rfl
    | snapshotQuery id => exact .inl rfl
    | snapshotList start => exact .inl rfl
    | _ => cases passed
  | snapshotsOf dataset => exact .inl rfl
  | replicationQuery name => exact .inl rfl
  | snapshotTaskQuery dataset => exact .inl rfl
  | _ => cases passed

theorem emits_scratchGuard {backend : String} {P : Call → Prop}
    (allowed : permit root op = .ok () → P (.api backend op)) :
    (scratchGuard (caller backend) root op).Emits Any P := by
  unfold scratchGuard
  cases passed : permit root op with
  | error e => trivial
  | ok _ => exact emits_caller (allowed passed)

/-- Two states that differ inside only. -/
structure Site.SameOutside (inside : String → Prop) (s t : Site) : Prop where
  datasets : ∀ path, ¬ inside path → t.storage.datasets.get? path = s.storage.datasets.get? path
  snapshots : ∀ snap : SnapshotState, ¬ inside snap.dataset →
    (snap ∈ t.storage.snapshots ↔ snap ∈ s.storage.snapshots)
  rest : t = { s with storage := { s.storage with
    datasets := t.storage.datasets, snapshots := t.storage.snapshots } }

namespace Site.SameOutside

variable {inside : String → Prop} {s t u : Site}

theorem refl (s : Site) : SameOutside inside s s := ⟨fun _ _ => rfl, fun _ _ => Iff.rfl, rfl⟩

theorem trans (first : SameOutside inside s t) (second : SameOutside inside t u) :
    SameOutside inside s u where
  datasets path outside := (second.datasets path outside).trans (first.datasets path outside)
  snapshots snap outside := (second.snapshots snap outside).trans (first.snapshots snap outside)
  rest := by rw [second.rest, first.rest]

theorem of_storage {s' : Storage} (sets : ∀ path, ¬ inside path →
      s'.datasets.get? path = s.storage.datasets.get? path)
    (snaps : ∀ snap : SnapshotState, ¬ inside snap.dataset →
      (snap ∈ s'.snapshots ↔ snap ∈ s.storage.snapshots))
    (others : s' = { s.storage with datasets := s'.datasets, snapshots := s'.snapshots }) :
    SameOutside inside s { s with storage := s' } := by
  refine ⟨sets, snaps, ?_⟩
  show { s with storage := s' } = { s with storage := { s.storage with
    datasets := s'.datasets, snapshots := s'.snapshots } }
  rw [← others]

theorem put {path : String} (here : inside path) (d : DatasetState) :
    SameOutside inside s { s with storage := s.storage.put path d } := by
  refine of_storage (fun p outside => ?_) (fun _ _ => Iff.rfl) rfl
  rw [Storage.get?_put, if_neg]
  rintro rfl
  exact outside here

theorem deleteTree (closed : ∀ p q, inside p → atOrBelow p q = true → inside q)
    (here : inside root) : SameOutside inside s { s with storage := s.storage.deleteTree root } := by
  refine of_storage (fun p outside => ?_) (fun snap outside => ?_) rfl
  · rw [Storage.get?_deleteTree, if_neg]
    exact fun below => outside (closed root p here below)
  · have kept : atOrBelow root snap.dataset = false := by
      rw [← Bool.not_eq_true]
      exact fun below => outside (closed root _ here below)
    simp [Storage.deleteTree, kept]

end Site.SameOutside

section

variable {backend : String} {inside : String → Prop}
  (closed : ∀ p q, inside p → atOrBelow p q = true → inside q)

include closed

theorem Op.Writes.sameOutside (writes : op.Writes inside) (s : Site) :
    Site.SameOutside inside s (s.act op).2 := by
  cases op with
  | dataset op =>
    cases op with
    | create spec =>
      simp only [Site.act, Storage.act]
      split
      · exact .refl s
      · exact .put writes _
    | update id patch =>
      simp only [Site.act, Storage.act]
      split
      · exact .refl s
      · split
        · exact .refl s
        · exact .put writes _
    | delete id recursive force =>
      simp only [Site.act, Storage.act]
      split_ifs
      · exact .refl s
      · exact .refl s
      · exact .refl s
      · exact .deleteTree closed writes
    | snapshotClone snap dst props =>
      simp only [Site.act, Storage.act]
      split
      · exact .refl s
      · split
        · exact .refl s
        · exact .put writes _
    | _ => cases writes
  | _ => cases writes

theorem Call.Confined.sameOutside {c : Call} (confined : c.Confined backend inside) (fault : Fault)
    (w : World) (b : String) : Site.SameOutside inside (w.site b) ((handle fault c w).2.site b) := by
  have quiet (looks : c.Looks) :
      Site.SameOutside inside (w.site b) ((handle fault c w).2.site b) := by
    rw [looks.site]
    exact .refl _
  cases c with
  | api a op =>
    obtain reads | ⟨rfl, writes⟩ := confined
    · exact quiet reads
    have acted : Site.SameOutside inside (w.site b) ((w.act a op).2.site b) := by
      have lifted : (w.act a op).2 = w.setSite a ((w.site a).act op).2 := by
        cases op with
        | dataset op => rfl
        | _ => cases writes
      rw [lifted]
      by_cases here : b = a
      · subst here
        rw [setSite_self]
        exact writes.sameOutside closed _
      · rw [setSite_other _ _ here]
        exact .refl _
    cases fault with
    | none => exact acted
    | refused e => exact .refl _
    | lost e => exact acted
  | _ => exact quiet trivial

theorem wp_sameOutside {α : Type} {p : R α} (confined : p.Emits Any (Call.Confined backend inside))
    (w : World) : R.wp p (fun _ t => ∀ b, Site.SameOutside inside (w.site b) (t.site b)) w := by
  refine Prog.Emits.wp_invariant handle handle_any confined ?_ fun b => .refl _
  intro fault c t stays since b
  exact (since b).trans (stays.sameOutside closed fault t b)

end

/-! The programs of a rehearsal call what the guarded appliance lets through. -/

section

variable {P : Call → Prop} {c : Caller}

theorem emits_queryDataset_of {id : String} (asks : (c (.dataset (.query id))).Emits Any P) :
    (queryDataset c id).Emits Any P :=
  emits_bind (emits_absentAsEmpty asks) fun _ => trivial

def Op.Keeps : Op → Prop
  | .dataset (.delete _ _ _) => False
  | _ => True

section

variable (all : ∀ op : Op, op.Keeps → (c op).Emits Any P)

include all

theorem emits_ensureScratch (root : String) : (Manager.ensureScratch c root).Emits Any P := by
  refine emits_option (emits_queryDataset_of (all _ trivial)) ?_ fun ds => trivial
  exact emits_mapError.mpr (emits_bind (all _ trivial) fun _ => trivial)

theorem emits_cloneMember (root dstRoot : String) (id : Volume.ID) :
    (Manager.cloneMember c root dstRoot id).Emits Any P := by
  refine emits_option (emits_bind (emits_bind (emits_absentAsEmpty (all _ trivial))
    fun _ => trivial) fun _ => trivial) trivial fun latest => ?_
  refine emits_bind (emits_option (emits_queryDataset_of (all _ trivial)) ?_ fun ds => trivial)
    fun _ => ?_
  · exact emits_mapError.mpr (all _ trivial)
  · refine emits_bind (emits_mapError.mpr ?_) fun _ => trivial
    exact emits_bind (all _ trivial) fun _ => trivial

theorem emits_cloneMembers (root dstRoot : String) (volumes : List Volume.ID) (tf : TestFailoverState) :
    (Manager.cloneMembers c root dstRoot volumes tf).Emits Any P := by
  induction volumes generalizing tf with
  | nil => trivial
  | cons id rest ih => exact emits_bind (emits_cloneMember all root dstRoot id) fun _ => ih _

end

section

variable (all : ∀ op : Op, (c op).Emits Any P)

include all

theorem emits_deleteIfOwned_of (id : String) : (deleteIfOwned c id).Emits Any P := by
  refine emits_option (emits_queryDataset_of (all _)) trivial fun ds => ?_
  exact emits_bind emits_ofExcept fun _ => emits_ignoreAbsent (all _)

theorem emits_deleteClones (paths : List String) : (Manager.deleteClones c paths).Emits Any P := by
  induction paths with
  | nil => trivial
  | cons path rest ih =>
    exact emits_bind (emits_mapError.mpr (emits_deleteIfOwned_of all path)) fun _ => ih

end

end

/-- A confined run, not seen outside. -/
def Confines {α : Type} (backend : String) (inside : String → Prop) (p : R α) (faults : List Fault)
    (w : World) : Prop :=
  (∀ x ∈ Prog.log handle p faults w, x.1.Confined backend inside) ∧
    ∀ b, Site.SameOutside inside (w.site b) ((R.run p faults w).2.site b)

theorem confines_of_logged {α : Type} {backend : String} {inside : String → Prop} {p : R α} {w : World}
    (holds : R.wpLogged p (fun _ s => (∀ x ∈ s.2, x.1.Confined backend inside) ∧
      ∀ b, Site.SameOutside inside (w.site b) (s.1.site b)) (w, [])) (faults : List Fault) :
    Confines backend inside p faults w := by
  have reached := wp_iff_run.mp holds faults
  rwa [run_logged, List.nil_append] at reached

namespace Manager

variable (m : Manager) (g : Group) {c : Call}

variable (w : World) (path p q : String)

/-- The group's scratch tree, as configured. -/
def Scratch : Prop :=
  ∃ cfg, m.appliances.backend g.targetBackend = .ok cfg ∧
    atOrBelow (scratchRoot g (rootOf cfg)) path = true

/-- The scratch tree, as recorded. -/
def Rehearsed : Prop :=
  ∃ st tf, m.store.recorded g.name w = .ok st ∧ st.testFailover = some tf ∧
    atOrBelow tf.root path = true

theorem scratch_closed (inside : m.Scratch g p) (below : atOrBelow p q = true) : m.Scratch g q := by
  obtain ⟨cfg, known, above⟩ := inside
  exact ⟨cfg, known, atOrBelow_trans above below⟩

theorem rehearsed_closed (inside : m.Rehearsed g w p)
    (below : atOrBelow p q = true) : m.Rehearsed g w q := by
  obtain ⟨st, tf, recorded, named, above⟩ := inside
  exact ⟨st, tf, recorded, named, atOrBelow_trans above below⟩

/-- The calls of a test failover. -/
def SetsUp : Call → Prop
  | .api b op => (Call.api b op).Confined g.targetBackend (m.Scratch g) ∧ op.Keeps
  | _ => True

theorem emits_testFailover : (m.testFailover g).Emits Any (m.SetsUp g) := by
  refine emits_bind (Store.emits_load trivial trivial) fun st => ?_
  refine emits_if (fun _ => trivial) fun _ => ?_
  refine emits_clients_seq (fun _ => trivial) ?_
  unfold roots
  cases m.appliances.backend g.sourceBackend with
  | error e => trivial
  | ok srcCfg =>
  cases known : m.appliances.backend g.targetBackend with
  | error e => trivial
  | ok dstCfg =>
  have all (op : Op) (keeps : op.Keeps) : (scratchGuard (caller g.targetBackend)
      (scratchRoot g (rootOf dstCfg)) op).Emits Any (m.SetsUp g) := by
    refine emits_scratchGuard fun passed => ⟨?_, keeps⟩
    obtain reads | writes := permit_ok passed
    · exact .inl reads
    · -- What the guard knows as the root is the root of the scratch tree.
      have same : (fun path => atOrBelow (scratchRoot g (rootOf dstCfg)) path = true) = m.Scratch g := by
        funext path
        simp [Scratch, known]
      rw [same] at writes
      exact .inr ⟨rfl, writes⟩
  simp only [ofExcept_ok, pure_eq, ret_bind]
  refine emits_bind (emits_ensureScratch all _) fun _ => ?_
  refine emits_bind (emits_cloneMembers all _ _ _ _) fun tf => ?_
  exact emits_bind (Store.emits_save trivial trivial fun _ => trivial) fun _ => trivial

theorem confined_of_setsUp (setsUp : m.SetsUp g c) : c.Confined g.targetBackend (m.Scratch g) := by
  cases c with
  | api b op => exact setsUp.1
  | _ => trivial

theorem snapshots_of_setsUp (setsUp : m.SetsUp g c) (fault : Fault) (w : World) (b : String) :
    ((handle fault c w).2.site b).storage.snapshots = (w.site b).storage.snapshots := by
  have quiet (looks : c.Looks) :
      ((handle fault c w).2.site b).storage.snapshots = (w.site b).storage.snapshots := by
    rw [looks.site]
  cases c with
  | api a op =>
    obtain ⟨reads | ⟨rfl, writes⟩, keeps⟩ := setsUp
    · exact quiet reads
    have acted : ((w.act g.targetBackend op).2.site b).storage.snapshots =
        (w.site b).storage.snapshots := by
      cases op with
      | dataset op =>
        have same : (Storage.act op (w.site g.targetBackend).storage).2.snapshots =
            (w.site g.targetBackend).storage.snapshots := by
          cases op with
          | create spec =>
            simp only [Storage.act]
            split <;> rfl
          | update id patch =>
            simp only [Storage.act]
            split
            · rfl
            · split <;> rfl
          | snapshotClone snap dst props =>
            simp only [Storage.act]
            split
            · rfl
            · split <;> rfl
          | delete id recursive force => cases keeps
          | _ => cases writes
        show ((w.setSite g.targetBackend _).site b).storage.snapshots = _
        by_cases here : b = g.targetBackend
        · subst here
          rw [setSite_self]
          exact same
        · rw [setSite_other _ _ here]
      | _ => cases writes
    cases fault with
    | none => exact acted
    | refused e => rfl
    | lost e => exact acted
  | _ => exact quiet trivial

theorem emits_ended {tf : TestFailoverState} {S : String → Prop} (st : State)
    (all : ∀ op, (scratchGuard (caller g.targetBackend) tf.root op).Emits Any
      (Call.Confined g.targetBackend S)) : (do
      let (_, dst) ← m.clients g
      let guarded := scratchGuard dst tf.root
      deleteClones guarded ((tf.datasets.entries.map (·.2)).insertionSort (· ≤ ·))
      (deleteIfOwned guarded tf.root).mapError fun e =>
        e.wrap ("test failover scratch dataset " ++ tf.root ++ ": ")
      let st := { st with testFailover := none }
      m.store.save g.name st
      return st : R State).Emits Any (Call.Confined g.targetBackend S) := by
  refine emits_clients_seq (fun _ => trivial) ?_
  refine emits_bind (emits_deleteClones all _) fun _ => ?_
  refine emits_bind (emits_mapError.mpr (emits_deleteIfOwned_of all _)) fun _ => ?_
  exact emits_bind (Store.emits_save trivial trivial fun _ => trivial) fun _ => trivial

/-- Taking a rehearsal down stays in its tree. -/
theorem logged_stopTestFailover : R.wpLogged (m.stopTestFailover g) (fun _ s =>
    (∀ x ∈ s.2, x.1.Confined g.targetBackend (m.Rehearsed g w)) ∧
      ∀ b, Site.SameOutside (m.Rehearsed g w) (w.site b) (s.1.site b)) (w, []) := by
  unfold stopTestFailover
  refine wp_logged_seq handle_any (P := Call.Confined g.targetBackend (m.Rehearsed g w))
    (D := fun r t => t = w ∧ r = m.store.recorded g.name w) (Store.wp_load.mpr ⟨rfl, rfl⟩)
    (Store.emits_load trivial trivial) ?_ ?_
  · rintro e t more confined ⟨rfl, -⟩
    exact ⟨confined, fun b => .refl _⟩
  rintro st t more confined ⟨rfl, recorded⟩
  cases named : st.testFailover with
  | none => exact ⟨confined, fun b => .refl _⟩
  | some tf =>
  have all (op : Op) : (scratchGuard (caller g.targetBackend) tf.root op).Emits Any
      (Call.Confined g.targetBackend (m.Rehearsed g t)) := by
    refine emits_scratchGuard fun passed => ?_
    obtain reads | writes := permit_ok passed
    · exact .inl reads
    · have same : (fun path => atOrBelow tf.root path = true) = m.Rehearsed g t := by
        funext path
        simp [Rehearsed, ← recorded, named]
      rw [same] at writes
      exact .inr ⟨rfl, writes⟩
  have emits := emits_ended m g st all
  have spec := wp_sameOutside (m.rehearsed_closed g t) emits t
  refine wp_mono (wp_logged handle_any spec emits) ?_
  rintro r ⟨u, l⟩ ⟨same, after, rfl, onward⟩
  exact ⟨List.forall_mem_append.mpr ⟨confined, onward⟩, same⟩

/-- For every group, state and failures: a test failover calls and changes nothing outside of the scratch
tree of the group and no snapshot, and stopping it nothing outside of the tree on record. -/
theorem rehearsal_confined (m : Manager) (g : Group) (faults : List Fault) (w : World) :
    (Confines g.targetBackend (m.Scratch g) (m.testFailover g) faults w ∧
      ∀ b, ((R.run (m.testFailover g) faults w).2.site b).storage.snapshots =
        (w.site b).storage.snapshots) ∧
      Confines g.targetBackend (m.Rehearsed g w) (m.stopTestFailover g) faults w := by
  have emits := m.emits_testFailover g
  refine ⟨⟨?_, ?_⟩, confines_of_logged (m.logged_stopTestFailover g w) faults⟩
  · have confined := emits.mono fun _ setsUp => m.confined_of_setsUp g setsUp
    have spec := wp_sameOutside (m.scratch_closed g) confined w
    refine confines_of_logged (wp_mono (wp_logged handle_any spec confined) ?_) faults
    rintro r ⟨t, l⟩ ⟨same, after, rfl, kind⟩
    exact ⟨by simpa using kind, same⟩
  · refine wp_iff_run.mp (Prog.Emits.wp_invariant handle handle_any emits
      (I := fun t => ∀ b, (t.site b).storage.snapshots = (w.site b).storage.snapshots) ?_ ?_) faults
    · intro fault c t setsUp since b
      exact (m.snapshots_of_setsUp g setsUp fault t b).trans (since b)
    · exact fun b => rfl

end Manager

/-- A target with a rehearsal and a clone's snapshot. -/
def Pair.rehearsal (root : String) : World :=
  { Pair.world (Pair.source ["pvc-1"]) (Pair.withSnapshot (root ++ "/pvc-1") "hourly" 20
      { Pair.target ["pvc-1"] with
        storage := { (Pair.target ["pvc-1"]).storage with
          datasets := (Pair.target ["pvc-1"]).storage.datasets.setAll
            [(root, Pair.owned root), (root ++ "/pvc-1", Pair.owned (root ++ "/pvc-1"))] } }) with
    records := .ofList [("prod-payments", {
      phase := .ready
      testFailover := some { root := root, datasets := .ofList [("pvc-1", root ++ "/pvc-1")] } })] }

/-- Its end destroys its clones' snapshots. -/
theorem stop_reaches_further :
    (¬ ∀ (m : Manager) (g : Group) (faults : List Fault) (w : World) (b : String),
      ((R.run (m.stopTestFailover g) faults w).2.site b).storage.snapshots =
        (w.site b).storage.snapshots) ∧
    ¬ ∀ (m : Manager) (g : Group) (faults : List Fault) (w : World),
      Confines g.targetBackend (m.Scratch g) (m.stopTestFailover g) faults w := by
  constructor
  · intro kept
    have same := congrArg List.length (kept Pair.manager (Pair.group ["pvc-1"]) []
      (Pair.rehearsal "Pool1/dr/csi-testfailover-prod-payments") "nas2")
    revert same
    decide
  · intro confines
    obtain ⟨-, same⟩ := confines Pair.manager (Pair.group ["pvc-1"]) []
      (Pair.rehearsal "Pool1/old/csi-testfailover-prod-payments")
    have outside : ¬ Pair.manager.Scratch (Pair.group ["pvc-1"])
        "Pool1/old/csi-testfailover-prod-payments" := by
      rintro ⟨cfg, known, below⟩
      cases known
      revert below
      decide
    have kept := congrArg Option.isSome ((same "nas2").datasets _ outside)
    revert kept
    decide

end TruenasCsi.Replication
