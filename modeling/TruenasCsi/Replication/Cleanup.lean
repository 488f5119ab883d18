import TruenasCsi.Replication.Promotion
import TruenasCsi.Replication.Rehearsal

/-! What stopping a rehearsal removes, and what it leaves. -/

namespace TruenasCsi.Replication

open Appliance Prog Appliance.Storage

/-- `t` is `s` without some subtrees. -/
structure Pruned (gone : List String) (s t : Dict DatasetState) : Prop where
  removed : ∀ p ∈ gone, ∀ d, s.get? p = some d → ∀ path, atOrBelow p path = true → t.get? path = none
  kept : ∀ path, (∀ p ∈ gone, ∀ d, s.get? p = some d → atOrBelow p path = false) →
    t.get? path = s.get? path

namespace Pruned

variable {gone rest : List String} {s t u : Dict DatasetState} {q : String}

theorem only (pruned : Pruned gone s t) {path : String} {d : DatasetState}
    (there : t.get? path = some d) : s.get? path = some d := by
  rw [← pruned.kept path, there]
  intro p member d' present
  rw [← Bool.not_eq_true]
  intro below
  rw [pruned.removed p member d' present path below] at there
  cases there

theorem nil (s : Dict DatasetState) : Pruned [] s s := ⟨by simp, fun _ _ => rfl⟩

theorem absent (missing : s.get? q = none) : Pruned [q] s s := by
  refine ⟨fun p member d present => ?_, fun _ _ => rfl⟩
  obtain rfl := List.mem_singleton.mp member
  rw [missing] at present
  cases present

theorem append (first : Pruned gone s t) (others : Pruned rest t u) : Pruned (gone ++ rest) s u := by
  have stays {path : String} (missing : t.get? path = none) : u.get? path = none := by
    cases there : u.get? path with
    | none => rfl
    | some d =>
      rw [others.only there] at missing
      cases missing
  constructor
  · intro p member d present path below
    rcases List.mem_append.mp member with early | later
    · exact stays (first.removed p early d present path below)
    cases there : t.get? p with
    | some d' => exact others.removed p later d' there path below
    | none =>
      -- It went with a dataset of the first list, and so did everything below it.
      by_contra left
      refine absurd (first.kept p fun q member' d' present' => ?_) (by rw [there, present]; simp)
      rw [← Bool.not_eq_true]
      intro above
      exact left (stays (first.removed q member' d' present' path (atOrBelow_trans above below)))
  · intro path apart
    rw [others.kept path fun p later d there =>
      apart p (List.mem_append_right _ later) d (first.only there)]
    exact first.kept path fun p early => apart p (List.mem_append_left _ early)

theorem deleteTree {s : Storage} {d : DatasetState} (present : s.datasets.get? q = some d) :
    Pruned [q] s.datasets (s.deleteTree q).datasets := by
  constructor
  · intro p member _ _ path below
    obtain rfl := List.mem_singleton.mp member
    rw [get?_deleteTree, if_pos below]
  · intro path apart
    rw [get?_deleteTree, if_neg]
    simpa using apart q (by simp) d present

end Pruned

theorem act_delete (s : Storage) (id : String) :
    (∃ e, act (.delete id true true) s = (.error e, s) ∧
        (e.isNotFound = true → s.datasets.get? id = none)) ∨
      ∃ d, s.datasets.get? id = some d ∧
        act (.delete id true true) s = (.ok (), s.deleteTree id) := by
  cases present : s.datasets.get? id with
  | none =>
    left
    simp only [act, present, Option.isNone_none, if_true]
    exact ⟨_, rfl, fun _ => trivial⟩
  | some d =>
    by_cases clones : s.outsideClones id = []
    · refine .inr ⟨d, rfl, ?_⟩
      simp [act, present, clones]
    · refine .inl ⟨.call "pool.dataset.delete" "EFAULT" "[EFAULT] dataset has dependent clones", ?_, ?_⟩
      · simp [act, present, clones]
      · intro wrong
        exact absurd wrong (by decide)

section

variable {backend root : String} {w : World}

theorem yields_deleteDataset (id : String) :
    R.yields (deleteDataset (scratchGuard (caller backend) root) id) (fun _ t =>
      Pruned [id] (w.site backend).storage.datasets (t.site backend).storage.datasets) w := by
  refine yields_iff_wp.mpr (wp_rescue.mpr ?_)
  show Prog.wp World.handle (Prog.ofExcept (permit root (.dataset (.delete id true true))) >>= fun _ =>
    caller backend (.dataset (.delete id true true))) _ w
  cases passed : permit root (.dataset (.delete id true true)) with
  | error e =>
    -- The guard's refusal is not taken for absence.
    have refused : e.isNotFound = false := by
      simp only [permit, requireScratch] at passed
      split_ifs at passed
      · cases passed
        rfl
      · cases passed
        rfl
    show Prog.wp World.handle (if e.isNotFound then _ else _) _ w
    rw [refused]
    exact nofun
  | ok _ =>
  have reported (e : Failure) (t : World) : R.wp (if e.err.isNotFound then pure () else throw e.err : R Unit)
      (fun r t => ∀ a, r = .ok a → Pruned [id] (w.site backend).storage.datasets
        (t.site backend).storage.datasets) t := by
    rw [e.notAbsence]
    exact nofun
  refine wp_caller.mpr ⟨fun e => reported e w, fun e => reported e _, ?_⟩
  obtain ⟨e, refused, absent⟩ | ⟨d, present, removed⟩ := act_delete (w.site backend).storage id
  · have same : w.act backend (.dataset (.delete id true true)) = (.error e, w) := by
      show ((act _ _).1, w.setSite backend { w.site backend with storage := (act _ _).2 }) = _
      rw [refused]
      exact Prod.ext rfl (w.setSite_site backend)
    rw [same]
    show Prog.wp World.handle (if e.isNotFound then _ else _) _ _
    split_ifs with missing
    · exact fun a _ => .absent (absent missing)
    · exact nofun
  · have done : w.act backend (.dataset (.delete id true true)) = (.ok (),
        w.setSite backend { w.site backend with storage := (w.site backend).storage.deleteTree id }) := by
      show ((act _ _).1, w.setSite backend { w.site backend with storage := (act _ _).2 }) = _
      rw [removed]
    rw [done]
    intro a _
    rw [World.setSite_self]
    exact .deleteTree present

theorem yields_deleteIfOwned (id : String) :
    R.yields (deleteIfOwned (scratchGuard (caller backend) root) id) (fun _ t =>
      Pruned [id] (w.site backend).storage.datasets (t.site backend).storage.datasets) w := by
  refine (query_dataset backend id).yields_seq ?_
  cases found : (w.site backend).storage.dataset? id with
  | none =>
    refine yields_ret (.absent ?_)
    simpa [dataset?] using found
  | some ds => exact yields_ofExcept_seq fun _ _ => yields_deleteDataset id

theorem yields_deleteClones (paths : List String) (w : World) :
    R.yields (Manager.deleteClones (scratchGuard (caller backend) root) paths) (fun _ t =>
      Pruned paths (w.site backend).storage.datasets (t.site backend).storage.datasets) w := by
  induction paths generalizing w with
  | nil => exact yields_ret (.nil _)
  | cons path rest ih =>
    refine yields_bind (yields_mapError (yields_deleteIfOwned path)) fun _ t first => ?_
    exact yields_mono (ih t) fun _ u others => first.append others

end

namespace Manager

variable (m : Manager) (g : Group)

/-- What the record names: the root and the clones. -/
def named (tf : TestFailoverState) : List String := tf.root :: tf.datasets.entries.map (·.2)

/-- At or below a dataset that the record names. -/
def OnFile (w : World) (path : String) : Prop :=
  ∃ st tf, m.store.recorded g.name w = .ok st ∧ st.testFailover = some tf ∧
    ∃ p ∈ named tf, ∃ d, (w.site g.targetBackend).storage.datasets.get? p = some d ∧
      atOrBelow p path = true

/-- A stop that succeeded has removed exactly what is on file, and all below it. -/
theorem yields_stopTestFailover (w : World) : R.yields (m.stopTestFailover g) (fun _ t => ∀ path,
    (m.OnFile g w path → (t.site g.targetBackend).storage.datasets.get? path = none) ∧
      (¬ m.OnFile g w path → (t.site g.targetBackend).storage.datasets.get? path =
        (w.site g.targetBackend).storage.datasets.get? path)) w := by
  refine Store.yields_load_seq fun st recorded => ?_
  cases rehearsed : st.testFailover with
  | none =>
    refine yields_ret fun path => ⟨?_, fun _ => rfl⟩
    rintro ⟨st', tf, recorded', rehearsed', -⟩
    rw [recorded] at recorded'
    cases recorded'
    rw [rehearsed] at rehearsed'
    cases rehearsed'
  | some tf =>
  refine m.yields_clients_seq fun t dialled _ _ => ?_
  refine yields_bind (yields_deleteClones _ t) fun _ u clones => ?_
  refine yields_bind (yields_mapError (yields_deleteIfOwned tf.root)) fun _ v rest => ?_
  refine Store.yields_save_seq (yields_ret fun path => ?_)
  rw [Store.saved_site]
  rw [dialled.site] at clones
  have pruned := clones.append rest
  -- The list that was worked through is the record's, in another order.
  have members (p : String) : p ∈ (tf.datasets.entries.map (·.2)).insertionSort (· ≤ ·) ++ [tf.root] ↔
      p ∈ named tf := by
    simp [named, List.mem_insertionSort, or_comm]
  constructor
  · rintro ⟨st', tf', recorded', rehearsed', p, member, d, present, below⟩
    rw [recorded] at recorded'
    cases recorded'
    rw [rehearsed] at rehearsed'
    cases rehearsed'
    exact pruned.removed p ((members p).mpr member) d present path below
  · intro unnamed
    refine pruned.kept path fun p member d present => ?_
    rw [← Bool.not_eq_true]
    intro below
    exact unnamed ⟨st, tf, recorded, rehearsed, p, (members p).mp member, d, present, below⟩

/-- A test failover is cut off after `n` calls and stopped later, with whatever record there is then. If the
stop succeeds, nothing of the scratch tree is left exactly if each dataset that was there is on file. -/
theorem stop_cleans_iff (m : Manager) (g : Group) (faults : List Fault) (n : Nat) (w : World)
    (records : Dict State) (copy : StorageProtectionGroup) (later : List Fault) (st : State) (t : World)
    (done : R.run (m.stopTestFailover g) later
      { Prog.stopped World.handle n (m.testFailover g) faults w with
        records := records, copy := copy } = (.ok st, t)) :
    (∀ path, m.Scratch g path → (t.site g.targetBackend).storage.datasets.get? path = none) ↔
      ∀ path, m.Scratch g path →
        ((Prog.stopped World.handle n (m.testFailover g) faults w).site
          g.targetBackend).storage.datasets.get? path = none ∨
        m.OnFile g { Prog.stopped World.handle n (m.testFailover g) faults w with
          records := records, copy := copy } path := by
  generalize cut : ({ Prog.stopped World.handle n (m.testFailover g) faults w with
    records := records, copy := copy } : World) = v at *
  have site : (Prog.stopped World.handle n (m.testFailover g) faults w).site = v.site := by rw [← cut]
  rw [site]
  have ends := yields_run_ok (m.yields_stopTestFailover g v) done
  constructor
  · intro clean path inside
    by_cases onFile : m.OnFile g v path
    · exact .inr onFile
    · rw [← (ends path).2 onFile]
      exact .inl (clean path inside)
  · intro covered path inside
    by_cases onFile : m.OnFile g v path
    · exact (ends path).1 onFile
    · rw [(ends path).2 onFile]
      exact (covered path inside).resolve_right onFile

end Manager

def Pair.replicated : World :=
  Pair.world (Pair.source ["pvc-1"])
    (Pair.withSnapshot "Pool1/dr/pvc-1" "auto-1" 7 (Pair.target ["pvc-1"]))

def Pair.records : Dict State :=
  (Prog.stopped World.handle 50 (Pair.manager.testFailover (Pair.group ["pvc-1"])) []
    Pair.replicated).records

def Pair.rehearsed : World :=
  { Prog.stopped World.handle 50 (Pair.manager.testFailover (Pair.group ["pvc-1"])) []
      Pair.replicated with
    records := Pair.records, copy := default }

theorem rehearsed_onFile {path : String} (inside : Pair.manager.Scratch (Pair.group ["pvc-1"]) path) :
    Pair.manager.OnFile (Pair.group ["pvc-1"]) Pair.rehearsed path := by
  have below : atOrBelow "Pool1/dr/csi-testfailover-prod-payments" path = true := by
    obtain ⟨cfg, known, below⟩ := inside
    cases known
    exact below
  have recorded : (Pair.records.getD "prod-payments" {}).testFailover.map (·.root) =
      some "Pool1/dr/csi-testfailover-prod-payments" := by decide
  obtain ⟨tf, rehearsed, same⟩ := Option.map_eq_some_iff.mp recorded
  have standing : ((Pair.rehearsed.site (Pair.group ["pvc-1"]).targetBackend).storage.datasets.get?
      "Pool1/dr/csi-testfailover-prod-payments").isSome = true := by decide
  obtain ⟨d, there⟩ := Option.isSome_iff_exists.mp standing
  rw [← same] at there below
  have onRecord : Pair.manager.store.recorded (Pair.group ["pvc-1"]).name Pair.rehearsed =
      .ok (Pair.records.getD "prod-payments" {}) := rfl
  exact ⟨Pair.records.getD "prod-payments" {}, tf, onRecord, rehearsed, tf.root, List.mem_cons_self,
    d, there, below⟩

theorem finished_rehearsal_cleaned :
    ((R.run (Pair.manager.stopTestFailover (Pair.group ["pvc-1"])) [] Pair.rehearsed).2.site
      (Pair.group ["pvc-1"]).targetBackend).storage.datasets.get?
        "Pool1/dr/csi-testfailover-prod-payments/pvc-1" = none := by
  have ended : (R.run (Pair.manager.stopTestFailover (Pair.group ["pvc-1"])) []
      Pair.rehearsed).1.isOk = true := by decide
  obtain ⟨st, ran⟩ := run_of_isOk ended
  have cleaned := Manager.stop_cleans_iff Pair.manager (Pair.group ["pvc-1"]) [] 50 Pair.replicated
    Pair.records default [] st _ ran
  have scratch : Pair.manager.Scratch (Pair.group ["pvc-1"])
      "Pool1/dr/csi-testfailover-prod-payments/pvc-1" :=
    ⟨{ pool := "Pool1", parentDataset := "dr" }, rfl, by decide⟩
  exact cleaned.mpr (fun path inside => .inr (rehearsed_onFile inside)) _ scratch

/-- The rehearsal fails, and the first clone stays. -/
theorem failed_rehearsal_forgotten : ¬ ∀ (m : Manager) (g : Group) (faults : List Fault) (n : Nat)
    (w : World) (later : List Fault) (st : State) (t : World),
    R.run (m.stopTestFailover g) later (Prog.stopped World.handle n (m.testFailover g) faults w) =
      (.ok st, t) →
    ∀ path, m.Scratch g path → (t.site g.targetBackend).storage.datasets.get? path = none := by
  intro cleans
  obtain ⟨st, ran⟩ := run_of_isOk (show (R.run (Pair.manager.stopTestFailover
    (Pair.group ["pvc-1", "pvc-2"])) [] (Prog.stopped World.handle 50
      (Pair.manager.testFailover (Pair.group ["pvc-1", "pvc-2"])) [] halfReplicated)).1.isOk = true by
    decide)
  have gone := cleans _ _ _ _ _ _ _ _ ran "Pool1/dr/csi-testfailover-prod-payments/pvc-1"
    ⟨{ pool := "Pool1", parentDataset := "dr" }, rfl, by decide⟩
  have there := congrArg Option.isSome gone
  revert there
  decide

end TruenasCsi.Replication
