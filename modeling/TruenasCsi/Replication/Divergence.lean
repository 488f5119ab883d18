import TruenasCsi.Appliance.Tree
import TruenasCsi.Replication.Specs

/-! What a failback can tell of the old source. Failover records the name of each replica's newest
snapshot, the member's mark; an unforced failback compares the names of the source's snapshots with
it. -/

namespace TruenasCsi.Replication

open Appliance (Storage)
open Prog
open Volume (ID)

def Site.names (s : Site) (dataset : String) : List String :=
  (s.listed dataset).map fun snap => snapshotShortName snap.id

/-- The newest snapshot alone is named `mark`. -/
def Site.StandsAt (s : Site) (dataset mark : String) : Prop :=
  ∃ older, s.names dataset = older ++ [mark] ∧ mark ∉ older

/-- No source has a snapshot after its mark. -/
def Unmoved (g : Group) (st : State) (s : Site) : Prop :=
  ∀ id ∈ g.volumes, ∃ mark, st.failoverSnapshots.get? id.name = some mark ∧
    s.StandsAt id.datasetPath mark

theorem Site.standsAt_iff {s : Site} {dataset mark : String} :
    s.StandsAt dataset mark ↔ Manager.gainedSince mark [] (s.names dataset) = [] := by
  unfold StandsAt Manager.gainedSince
  generalize s.names dataset = names
  constructor
  · rintro ⟨older, rfl, fresh⟩
    have skipped : older.dropWhile (fun x => decide (x ≠ mark)) = [] := by
      rw [List.dropWhile_eq_nil_iff]
      intro x member
      have different : x ≠ mark := fun same => fresh (same ▸ member)
      simpa using different
    rw [if_pos (by simp), List.dropWhile_append, skipped]
    simp
  · intro nothing
    split_ifs at nothing with present
    -- The part before the mark, the mark itself, and nothing after it.
    refine ⟨names.takeWhile (fun x => decide (x ≠ mark)), ?_, ?_⟩
    · cases rest : names.dropWhile (fun x => decide (x ≠ mark)) with
      | nil =>
        have absent := List.dropWhile_eq_nil_iff.mp rest mark present
        simp at absent
      | cons head tail =>
        have cut := List.takeWhile_append_dropWhile (p := fun x => decide (x ≠ mark)) (l := names)
        have stopped : head = mark := by
          have kept := List.head?_dropWhile_not (fun x => decide (x ≠ mark)) names
          rw [rest] at kept
          simpa using kept
        rw [rest] at nothing cut
        obtain rfl : tail = [] := by simpa using nothing
        rw [← stopped]
        rw [← stopped] at cut
        exact cut.symm
    · intro member
      have different := List.mem_takeWhile_imp member
      simp at different

instance (s : Site) (dataset mark : String) : Decidable (s.StandsAt dataset mark) :=
  decidable_of_iff _ Site.standsAt_iff.symm

namespace Manager

def memberGained (s : Site) (st : State) (id : ID) (before : List String) : List String :=
  match st.failoverSnapshots.get? id.name with
  | none => ["no common snapshot was recorded at failover"]
  | some mark => gainedSince mark before (s.names id.datasetPath)

/-- All members with the snapshots they gained. -/
def gained (s : Site) (st : State) (out : Dict (List String)) : List ID → Dict (List String)
  | [] => out
  | id :: rest =>
    let found := memberGained s st id (out.getD id.name [])
    gained s st (if found = [] then out else out.set id.name found) rest

variable (backend : String) (volumes : List ID)

theorem query_memberDivergence (st : State) (id : ID)
    (before : List String) : Query (memberDivergence (caller backend) st id before)
      fun w => memberGained (w.site backend) st id before := by
  unfold memberDivergence memberGained
  cases st.failoverSnapshots.get? id.name with
  | none => exact query_pure _
  | some mark => exact (query_snapshotsOf backend id.datasetPath).map _

theorem query_divergence (st : State) (out : Dict (List String))
    (volumes : List ID) : Query (divergence (caller backend) st out volumes)
      fun w => gained (w.site backend) st out volumes := by
  induction volumes generalizing out with
  | nil => exact query_pure out
  | cons id rest ih =>
    exact (query_memberDivergence backend st id _).bind fun found => ih _

variable {s : Site} {st : State} {g : Group}

theorem gained_ne_nil {out : Dict (List String)}
    (found : out.entries ≠ []) : (gained s st out volumes).entries ≠ [] := by
  induction volumes generalizing out with
  | nil => exact found
  | cons id rest ih =>
    refine ih ?_
    split_ifs
    · exact found
    · simp [Dict.set, AList.insert, List.kinsert]

theorem memberGained_eq_nil {id : ID} :
    memberGained s st id [] = [] ↔ ∃ mark, st.failoverSnapshots.get? id.name = some mark ∧
      s.StandsAt id.datasetPath mark := by
  unfold memberGained
  cases st.failoverSnapshots.get? id.name with
  | none => simp
  | some mark => simp [Site.standsAt_iff]

theorem gained_eq_nil :
    (gained s st ∅ volumes).entries = [] ↔ ∀ id ∈ volumes, ∃ mark,
      st.failoverSnapshots.get? id.name = some mark ∧ s.StandsAt id.datasetPath mark := by
  induction volumes with
  | nil => simp [gained]
  | cons id rest ih =>
    rw [List.forall_mem_cons, ← ih, ← memberGained_eq_nil]
    have empty : (∅ : Dict (List String)).getD id.name [] = [] := rfl
    by_cases still : memberGained s st id [] = []
    · simp [gained, empty, still]
    · have kept : (gained s st (Dict.set ∅ id.name (memberGained s st id [])) rest).entries ≠ [] := by
        refine gained_ne_nil rest ?_
        simp [Dict.set, AList.insert, List.kinsert]
      simp [gained, empty, still, kept]

theorem mild_pushBack (g : Group) (srcRoot dstRoot : String) (force : Bool) :
    R.Mild (pushBack (caller backend) g srcRoot dstRoot force) := by
  refine fails_bind ?_ fun reverse => fails_bind ?_ fun _ =>
    mild_ignoreAbsent mild_caller
  · refine fails_bind (fails_bind (mild_absentAsEmpty mild_caller) fun _ => fails_ret _) fun found => ?_
    cases found with
    | some task => exact fails_ret task
    | none => exact mild_mapError mild_caller _
  · exact mild_mapError mild_caller _

theorem mild_reopenSources : R.Mild (reopenSources (caller backend) volumes) := by
  induction volumes with
  | nil => exact fails_ret ()
  | cons id rest ih => exact fails_bind (fails_bind mild_caller fun _ => fails_ret _) fun _ => ih

theorem Foreign.not_diverged {e : Err} (foreign : Foreign e) : e.isA .diverged = false := by
  by_contra found
  have same := foreign .diverged (by simpa [Err.isA] using found)
  cases same

theorem refuseFailback_not_diverged {force : Bool} {e : Err}
    (refused : refuseFailback g force st = .error e) : e.isA .diverged = false := by
  unfold refuseFailback at refused
  split_ifs at refused <;> cases refused <;> rfl

theorem unmoved_iff : Unmoved g st s ↔ (gained s st ∅ g.volumes).entries = [] :=
  (gained_eq_nil g.volumes).symm

instance (g : Group) (st : State) (s : Site) : Decidable (Unmoved g st s) :=
  decidable_of_iff _ unmoved_iff.symm

theorem refuseDiverged_of_unmoved (still : Unmoved g st s) :
    refuseDiverged false (gained s st ∅ g.volumes) = .ok () := by
  simp [refuseDiverged, unmoved_iff.mp still]

theorem refuseDiverged_of_moved (moved : ¬ Unmoved g st s) :
    refuseDiverged false (gained s st ∅ g.volumes) =
      .error (diverged (gained s st ∅ g.volumes)) := by
  rw [unmoved_iff] at moved
  simp [refuseDiverged, moved]

section

variable {m : Manager} {g : Group} {w : World}

theorem wp_mild_seq {α β : Type} {p : R α} {f : α → R β} (mild : R.Mild p)
    (rest : ∀ a u, R.wp (f a) (fun r _ => refusedAs .diverged r = false) u) :
    R.wp (p >>= f) (fun r _ => refusedAs .diverged r = false) w := by
  refine wp_seq (mild.wp w) ?_ fun a u _ => rest a u
  intro e u foreign
  exact Foreign.not_diverged (foreign e rfl)

/-- A failback at work found every source at its mark. -/
theorem wp_failbackFrom (st : State) :
    R.wp (m.failbackFrom g false st) (fun r t =>
      (Unmoved g st (w.site g.sourceBackend) → refusedAs .diverged r = false) ∧
        (Unmoved g st (w.site g.sourceBackend) ∨ ∃ e, r = .error e ∧ Dialled w t)) w := by
  unfold failbackFrom
  cases phase : refuseFailback g false st with
  | error e => exact ⟨fun _ => refuseFailback_not_diverged phase, .inr ⟨e, rfl, rfl⟩⟩
  | ok _ =>
  simp only [ofExcept_ok, ret_bind]
  refine wp_seq (m.wp_clients g w) ?_ ?_
  · rintro e t ⟨dialled, ⟨same, -⟩ | ⟨e', same, foreign⟩⟩
    · cases same
    · cases same
      exact ⟨fun _ => Foreign.not_diverged foreign, .inr ⟨e, rfl, dialled⟩⟩
  rintro ⟨src, dst⟩ t ⟨dialled, ⟨same, ⟨srcCfg, source⟩, dstCfg, target⟩ | ⟨e, same, -⟩⟩
  swap
  · cases same
  cases same
  rw [m.roots_eq source target]
  simp only [pure_eq, ret_bind]
  refine (query_divergence g.sourceBackend st ∅ g.volumes).wp_seq ?_ ?_
  · intro f
    exact ⟨fun _ => Foreign.not_diverged (foreign_failure f), .inr ⟨_, rfl, dialled⟩⟩
  rw [dialled.site]
  by_cases still : Unmoved g st (w.site g.sourceBackend)
  · rw [refuseDiverged_of_unmoved still]
    simp only [ofExcept_ok, ret_bind]
    -- Past the comparison only the appliances' own errors are left.
    refine wp_mono (Q := fun r _ => refusedAs .diverged r = false) ?_
      fun r u accepted => ⟨fun _ => accepted, .inl still⟩
    refine wp_mild_seq Store.mild_save fun _ t₁ => wp_mild_seq (mild_pushBack _ _ _ _ _)
      fun _ t₂ => wp_mild_seq (mild_reopenSources _ _) fun _ t₃ => ?_
    refine wp_seq (wp_setTransfers _ t₃) ?_ ?_
    · rintro e v ⟨taskID, done, same, -⟩
      cases same
    · rintro ⟨st', resumed⟩ v ⟨taskID, done, same, foreign⟩
      cases same
      cases resumed with
      | error e => exact Foreign.not_diverged (foreign e rfl)
      | ok _ =>
        simp only [ofExcept_ok, ret_bind]
        exact wp_mild_seq Store.mild_save fun _ _ => rfl
  · rw [refuseDiverged_of_moved still]
    exact ⟨fun unmoved => absurd unmoved still, .inr ⟨_, rfl, dialled⟩⟩

variable {st : State}

/-- A failback that does not refuse has found no newer snapshot on the source. -/
theorem wp_failback (recorded : m.store.recorded g.name w = .ok st) (beyond : st.phase = .failedOver) :
    R.wp (m.failback g false) (fun r t =>
      (Unmoved g st (w.site g.sourceBackend) → refusedAs .diverged r = false) ∧
        (Unmoved g st (w.site g.sourceBackend) ∨ ∃ e, r = .error e ∧ Dialled w t)) w := by
  unfold failback
  refine wp_bind.mpr (Store.wp_load.mpr ?_)
  rw [recorded]
  show R.wp (if st.phase = .ready ∨ st.phase = .suspended then _ else _) _ w
  rw [if_neg (by simp [beyond])]
  exact wp_failbackFrom st

theorem calm_failback_moved (recorded : m.store.recorded g.name w = .ok st)
    (beyond : st.phase = .failedOver) {src dst : Backend.Config} (idle : st.testFailover = none)
    (source : m.appliances.backend g.sourceBackend = .ok src)
    (target : m.appliances.backend g.targetBackend = .ok dst)
    (moved : ¬ Unmoved g st (w.site g.sourceBackend)) :
    refusedAs .diverged (R.calm (m.failback g false) w).1 = true := by
  have loaded : R.calm (m.store.load g.name) w = (.ok st, w) := by
    rw [Store.calm_load, recorded]
  have allowed : refuseFailback g false st = .ok () := by
    simp [refuseFailback, beyond, idle]
  unfold failback
  rw [calm_seq loaded, if_neg (by simp [beyond])]
  unfold failbackFrom
  rw [allowed]
  simp only [ofExcept_ok, ret_bind]
  obtain ⟨t, dialled, connected⟩ := m.calm_clients source target w
  rw [calm_seq connected, m.roots_eq source target]
  simp only [pure_eq, ret_bind]
  rw [(query_divergence g.sourceBackend st ∅ g.volumes).calm_seq, dialled.site,
    refuseDiverged_of_moved moved]
  rfl

end

end Manager

/-- Every write to the members is in a snapshot. -/
def Site.Covered (g : Group) (s : Site) : Prop :=
  ∀ id ∈ g.volumes, ∀ newest, (s.listed id.datasetPath).getLast? = some newest →
    s.written id.datasetPath ≤ newest.creation

/-- What goes by a recorded name is the snapshot of that time, taken at `base`. -/
def Site.Genuine (base : ID → Int) (g : Group) (st : State) (s : Site) : Prop :=
  ∀ id ∈ g.volumes, ∀ mark, st.failoverSnapshots.get? id.name = some mark →
    ∀ snap ∈ s.listed id.datasetPath, snapshotShortName snap.id = mark → snap.creation = base id

/-- If every write is in a snapshot and the mark is genuine, nothing was written since. -/
theorem Unmoved.nothing_since {base : ID → Int} {g : Group} {st : State} {s : Site}
    (still : Unmoved g st s) (covered : s.Covered g) (genuine : s.Genuine base g st) :
    ∀ id ∈ g.volumes, s.written id.datasetPath ≤ base id := by
  intro id member
  obtain ⟨mark, recorded, older, names, -⟩ := still id member
  -- The newest snapshot is the marked one.
  obtain ⟨front, back, whole, -, last⟩ := List.map_eq_append_iff.mp names
  obtain ⟨snap, rfl, named⟩ := List.map_eq_singleton_iff.mp last
  have newest : (s.listed id.datasetPath).getLast? = some snap := by simp [whole]
  rw [← genuine id member mark recorded snap (List.mem_of_getLast? newest) named]
  exact covered id member snap newest

def replicatedPair : World :=
  Pair.world (Pair.withSnapshot "Pool0/k8s/pvc-1" "auto-1" 7
      (Pair.withSnapshot "Pool0/k8s/pvc-1" "auto-0" 3
        (Pair.withTask (Pair.group ["pvc-1"]) (Pair.source ["pvc-1"]))))
    (Pair.withSnapshot "Pool1/dr/pvc-1" "auto-1" 7
      (Pair.withSnapshot "Pool1/dr/pvc-1" "auto-0" 3 (Pair.target ["pvc-1"])))

/-- After a failover, with something done to the old source. -/
def afterFailover (since : Site → Site) : World :=
  let w := (R.calm (Pair.manager.failover (Pair.group ["pvc-1"]) false) replicatedPair).2
  w.setSite "nas1" (since (w.site "nas1"))

def writtenAt (time : Int) (s : Site) : Site := { s with written := fun _ => time }

/-- The snapshot of the failover is removed, and one of its name taken later. -/
def retaken (s : Site) : Site :=
  Pair.withSnapshot "Pool0/k8s/pvc-1" "auto-1" 20 { s with storage := { s.storage with
    snapshots := s.storage.snapshots.filter fun snap => snap.name != "auto-1" } }

/-- Failback keeps every write to an old source that satisfies `P`: after a failover it refuses as
diverged before it changes anything, or no member was written after the newest snapshot its replica
had. -/
def KeepsWrites (P : Group → Site → Prop) : Prop :=
  ∀ (m : Manager) (g : Group) (cfg : Backend.Config) (faults : List Fault) (w w' : World) (st : State)
    (since : Site), m.appliances.backend g.targetBackend = .ok cfg →
    (∀ before, m.store.recorded g.name w = .ok before → before.phase ≠ .failedOver) →
    R.run (m.failover g false) faults w = (.ok st, w') → P g since →
    (refusedAs .diverged (R.calm (m.failback g false) (w'.setSite g.sourceBackend since)).1 = true ∧
      Dialled (w'.setSite g.sourceBackend since)
        (R.calm (m.failback g false) (w'.setSite g.sourceBackend since)).2) ∨
    ∀ id ∈ g.volumes, ∀ base, ((w.site g.targetBackend).listed
        (targetDataset (Manager.rootOf cfg) id)).getLast? = some base →
      since.written id.datasetPath ≤ base.creation

theorem not_keepsWrites {P : Group → Site → Prop} (since : Site → Site)
    (meets : P (Pair.group ["pvc-1"]) (since
      ((R.calm (Pair.manager.failover (Pair.group ["pvc-1"]) false) replicatedPair).2.site "nas1")))
    (accepted : refusedAs .diverged (R.calm (Pair.manager.failback (Pair.group ["pvc-1"]) false)
      (afterFailover since)).1 = false)
    (late : 7 < (since ((R.calm (Pair.manager.failover (Pair.group ["pvc-1"]) false)
      replicatedPair).2.site "nas1")).written "Pool0/k8s/pvc-1") : ¬KeepsWrites P := by
  intro keeps
  obtain ⟨st, ran⟩ := run_of_isOk (show (R.run (Pair.manager.failover (Pair.group ["pvc-1"]) false) []
    replicatedPair).1.isOk = true by decide)
  have fresh : ∀ before, Pair.manager.store.recorded (Pair.group ["pvc-1"]).name replicatedPair =
      .ok before → before.phase ≠ .failedOver := by
    intro before same
    cases same
    decide
  rcases keeps Pair.manager (Pair.group ["pvc-1"]) { pool := "Pool1", parentDataset := "dr" } []
    replicatedPair _ st _ rfl fresh ran meets with ⟨refused, -⟩ | kept
  · exact Bool.false_ne_true (accepted.symm.trans refused)
  · exact absurd late (not_lt.mpr (kept (Pair.volume "pvc-1") (by decide) _ rfl))

end TruenasCsi.Replication
