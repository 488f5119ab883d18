import TruenasCsi.Replication.Specs

/-! `Failover` promotes each member as soon as it has been checked. -/

namespace TruenasCsi.Replication

open Prog Manager Appliance Replication.World

variable (backend : String)

/-- A call that makes writable or promotes. -/
def Promotes : Call → Prop
  | .api b (.dataset (.update _ patch)) => b = backend ∧ patch = writable
  | .api b (.promote _) => b = backend
  | _ => False

instance (backend : String) : DecidablePred (Promotes backend) := fun c => by
  unfold Promotes
  split <;> infer_instance

/-- Some dataset was made writable or promoted. -/
def Promoted (log : List (Call × Fault)) : Prop :=
  ∃ x ∈ log, Promotes backend x.1 ∧ x.2 = .none

/-- A replica that can be failed over to. -/
def Fit (s : Site) (target : String) : Prop :=
  (∃ ds, ownedDataset target (s.storage.dataset? target) = .ok ds) ∧ s.listed target ≠ []

instance (s : Site) (target : String) : Decidable (Fit s target) := by
  refine decidable_of_iff ((ownedDataset target (s.storage.dataset? target)).isOk = true ∧
    (s.listed target).isEmpty = false) ?_
  unfold Fit
  refine and_congr ?_ (by simp)
  cases ownedDataset target (s.storage.dataset? target) <;> simp [Except.isOk, Except.toBool]

/-- A failover ended by an unfit replica. -/
def Unsuitable (e : Err) : Prop := e.isA .notManaged = true ∨ e.isA .noReplicatedSnapshot = true

def Manager.targets (m : Manager) (g : Group) : List String :=
  match m.appliances.backend g.targetBackend with
  | .ok cfg => g.volumes.map (targetDataset (rootOf cfg))
  | .error _ => []

theorem Foreign.not_unsuitable {e : Err} (foreign : Foreign e) : ¬ Unsuitable e := by
  rintro (found | found)
  · have same := foreign .notManaged (by simpa [Err.isA] using found)
    cases same
  · have same := foreign .noReplicatedSnapshot (by simpa [Err.isA] using found)
    cases same

abbrev Quiet (c : Call) : Prop := ¬ Promotes backend c

theorem not_promoted_of_quiet {backend : String} {log : List (Call × Fault)}
    (quiet : ∀ x ∈ log, Quiet backend x.1) : ¬ Promoted backend log := by
  rintro ⟨x, member, promotes, -⟩
  exact quiet x member promotes

theorem promoted_append {backend : String} {l l' : List (Call × Fault)} :
    Promoted backend (l ++ l') ↔ Promoted backend l ∨ Promoted backend l' := by
  simp [Promoted, or_and_right, exists_or]

section

variable {α β : Type} {w : World} {l : List (Call × Fault)}

theorem logged_seq (backend : String) {p : R α} {f : α → R β} {P : Except Err α → World → Prop}
    {Q : Except Err β → World × List (Call × Fault) → Prop} (spec : R.wp p P w)
    (quiet : p.Emits Any (Quiet backend))
    (failed : ∀ e t more, (∀ x ∈ more, Quiet backend x.1) → P (.error e) t → Q (.error e) (t, l ++ more))
    (rest : ∀ a t more, (∀ x ∈ more, Quiet backend x.1) → P (.ok a) t →
      R.wpLogged (f a) Q (t, l ++ more)) : R.wpLogged (p >>= f) Q (w, l) :=
  wp_logged_seq handle_any spec quiet failed rest

theorem logged_grows (p : R α) (s : World × List (Call × Fault)) :
    R.wpLogged p (fun _ t => ∃ more, t.2 = s.2 ++ more) s := by
  induction p generalizing s with
  | ret a => exact ⟨[], by simp⟩
  | fail e => exact ⟨[], by simp⟩
  | call c k ih =>
    intro fault
    refine wp_mono (ih _ _) ?_
    rintro r t ⟨more, same⟩
    exact ⟨(c, fault) :: more, by simpa [logged] using same⟩

end

section

variable {g : Group} {backend root : String} {w : World} {l : List (Call × Fault)}
  {ds : Dataset} {target : String} {s : Site}

theorem act_writable {id : String} (present : (w.site backend).storage.dataset? id = some ds) :
    ∃ shown, (w.act backend (.dataset (.update id writable))).1 = .ok shown := by
  obtain ⟨d, found, -⟩ : ∃ d, (w.site backend).storage.datasets.get? id = some d ∧
      (w.site backend).storage.view id d = ds := by
    simpa [Storage.dataset?] using present
  simp only [act, act.lift, Site.act, Storage.act, found]
  simp [Storage.refusePatch, writable]

theorem requireSnapshot_ok {latest : Option Snapshot}
    (passed : requireSnapshot target false latest = .ok ()) : latest ≠ none := by
  rintro rfl
  simp [requireSnapshot] at passed

/-- A replica that passed its checks is promoted. -/
theorem logged_writable
    (present : (w.site backend).storage.dataset? target = some ds) (context : String) :
    R.wpLogged ((updateDataset (caller backend) target writable).mapError
        fun e => e.wrap context) (fun r s => (∀ e, r = .error e → ¬ Unsuitable e) ∧
      (r = .ok () → s.2 = l ++ [(.api backend (.dataset (.update target writable)), .none)]))
      (w, l) := by
  obtain ⟨shown, accepted⟩ := act_writable present
  refine wp_mapError.mpr (wp_bind.mpr ?_)
  refine wp_issue.mpr fun fault => ?_
  cases fault with
  | none =>
    simp only [logged, handle, faulty, accepted]
    refine And.intro ?_ fun _ => rfl
    rintro e ⟨⟩
  | refused f =>
    refine ⟨?_, fun wrong => by cases wrong⟩
    rintro e same
    cases same
    exact ((foreign_failure f).wrap context).not_unsuitable
  | lost f =>
    refine ⟨?_, fun wrong => by cases wrong⟩
    rintro e same
    cases same
    exact ((foreign_failure f).wrap context).not_unsuitable

theorem wp_guarded (target context : String) :
    R.wp ((verifyOwned (caller backend) target).mapError fun e => e.wrap context) (fun r t =>
      t = w ∧ (∀ ds, r = .ok ds →
        ownedDataset target ((w.site backend).storage.dataset? target) = .ok ds) ∧
      ∀ e, r = .error e → Unsuitable e → ¬ Fit (w.site backend) target) w := by
  refine wp_mapError.mpr (wp_mono (wp_verifyOwned backend target w) ?_)
  rintro r t ⟨rfl, rfl | ⟨f, rfl⟩⟩
  · refine ⟨rfl, ?_, ?_⟩
    · intro ds same
      cases owned : ownedDataset target ((t.site backend).storage.dataset? target) with
      | ok d =>
        rw [owned] at same
        exact same
      | error e =>
        rw [owned] at same
        cases same
    · rintro e same - ⟨⟨ds, owned⟩, -⟩
      rw [owned] at same
      cases same
  · refine ⟨rfl, ?_, ?_⟩
    · intro ds same
      cases same
    · rintro e same unsuitable
      cases same
      exact absurd unsuitable ((foreign_failure f).wrap context).not_unsuitable

theorem fit_of_checks (owned : ownedDataset target (s.storage.dataset? target) = .ok ds)
    (passed : requireSnapshot target false (s.listed target).getLast? = .ok ()) :
    Fit s target := by
  refine ⟨⟨ds, owned⟩, fun empty => requireSnapshot_ok passed ?_⟩
  rw [empty]
  rfl

theorem unfit_of_checks {e : Err}
    (refused : requireSnapshot target false (s.listed target).getLast? = .error e) :
    ¬ Fit s target := by
  rintro ⟨-, nonempty⟩
  unfold requireSnapshot at refused
  split_ifs at refused with absent
  simp [List.getLast?_eq_none_iff, nonempty] at absent

/-- Something is promoted iff the first was fit. -/
theorem logged_promoteMembers (volumes : List Volume.ID) (st : State) :
    R.wpLogged (promoteMembers (caller backend) g root false volumes st) (fun r t =>
      ∀ e, r = .error e → Unsuitable e → ∃ more, t.2 = l ++ more ∧
        (Promoted backend more ↔ ∃ id, volumes.head? = some id ∧
          Fit (w.site backend) (targetDataset root id))) (w, l) := by
  cases volumes with
  | nil => exact fun e wrong => nomatch wrong
  | cons id rest =>
    unfold promoteMembers promoteMember
    simp only [List.head?_cons, Option.some.injEq, exists_eq_left']
    generalize targetDataset root id = target
    simp only [bind_assoc]
    -- A refusal of the first member comes before any promotion.
    refine logged_seq backend (wp_guarded target _) ?_ ?_ ?_
    · exact emits_mapError.mpr (emits_verifyOwned (by simp [Quiet, Promotes]))
    · rintro e t more quiet ⟨rfl, -, refused⟩ e' same unsuitable
      cases same
      exact ⟨more, rfl, iff_of_false (not_promoted_of_quiet quiet) (refused e rfl unsuitable)⟩
    rintro ds t more quiet ⟨rfl, owned, -⟩
    have owned := owned ds rfl
    refine logged_seq backend ((query_latestSnapshot backend target).asks t) ?_ ?_ ?_
    · exact emits_latestSnapshot (by simp [Quiet, Promotes])
    · rintro e u more' quiet' ⟨rfl, same | ⟨f, same⟩⟩ e' same' unsuitable
      · cases same
      · cases same
        cases same'
        exact absurd unsuitable (foreign_failure f).not_unsuitable
    rintro latest u more' quiet' ⟨rfl, same | ⟨f, same⟩⟩
    swap
    · cases same
    cases same
    cases checked : requireSnapshot target false ((u.site backend).listed target).getLast? with
    | error e =>
      intro e' same' unsuitable
      refine ⟨more ++ more', by simp, iff_of_false ?_ (unfit_of_checks checked)⟩
      refine not_promoted_of_quiet fun x member => ?_
      rcases List.mem_append.mp member with early | late
      · exact quiet x early
      · exact quiet' x late
    | ok passed =>
      have fit := fit_of_checks owned checked
      simp only [ofExcept_ok, ret_bind]
      -- From the first promotion on it is in the log, however the rest ends.
      refine wp_seq (logged_writable (present_of_owned owned) _) ?_ ?_
      · rintro e s ⟨harmless, -⟩ e' same' unsuitable
        cases same'
        exact absurd unsuitable (harmless e rfl)
      · rintro _ s ⟨-, written⟩
        refine wp_mono (logged_grows _ s) ?_
        rintro r s' ⟨last, grown⟩ e _ _
        rw [written rfl] at grown
        refine ⟨more ++ more' ++ (.api backend (.dataset (.update target writable)), .none) ::
          last, by simpa using grown, iff_of_true ?_ fit⟩
        exact ⟨(.api backend (.dataset (.update target writable)), .none), by simp,
          ⟨rfl, rfl⟩, rfl⟩

end

theorem fit_congr {s s' : Site} (same : s'.storage = s.storage) (target : String) :
    Fit s' target ↔ Fit s target := by
  unfold Fit Site.listed
  rw [same]

variable {e : Err} {g : Group}

theorem refuseFailover_not_unsuitable {force : Bool} {st : State}
    (refused : refuseFailover g force st = .error e) : ¬ Unsuitable e := by
  unfold refuseFailover at refused
  split_ifs at refused <;> cases refused <;> rintro (found | found) <;> cases found

theorem requireStopped_not_unsuitable {stopped : Except Err Unit}
    (foreign : ∀ e, stopped = .error e → Foreign e)
    (refused : requireStopped g false stopped = .error e) : ¬ Unsuitable e := by
  cases stopped with
  | ok _ => cases refused
  | error e' =>
    cases refused
    exact Foreign.not_unsuitable (foreign e' rfl)

theorem Manager.targets_head {m : Manager} {cfg : Backend.Config} {P : String → Prop}
    (target : m.appliances.backend g.targetBackend = .ok cfg) :
    (∃ t, (m.targets g).head? = some t ∧ P t) ↔
      ∃ id, g.volumes.head? = some id ∧ P (targetDataset (rootOf cfg) id) := by
  unfold targets
  rw [target]
  simp

theorem recorded_not_unsuitable {store : Store} {group : String} {w : World}
    (refused : store.recorded group w = .error e) : ¬ Unsuitable e := by
  have malformed := Store.recorded_error refused
  rintro (found | found)
  · simp [Err.isA, malformed] at found
  · simp [Err.isA, malformed] at found

section

variable {m : Manager} {g : Group} {w : World}

theorem logged_failoverFrom (st : State) (l : List (Call × Fault))
    (silent : ∀ x ∈ l, Quiet g.targetBackend x.1) :
    R.wpLogged (m.failoverFrom g false st) (fun r t => ∀ e, r = .error e → Unsuitable e →
      (Promoted g.targetBackend t.2 ↔ ∃ target, (m.targets g).head? = some target ∧
        Fit (w.site g.targetBackend) target)) (w, l) := by
  unfold failoverFrom
  cases phase : refuseFailover g false st with
  | error e =>
    intro e' same unsuitable
    cases same
    exact absurd unsuitable (refuseFailover_not_unsuitable phase)
  | ok _ =>
  simp only [ofExcept_ok, ret_bind]
  -- Clients and roots.
  refine logged_seq g.targetBackend (m.wp_clients g w) ?_ ?_ ?_
  · exact emits_bind (emits_client id) fun _ => emits_bind (emits_client id) fun _ => trivial
  · rintro e t more - ⟨-, ⟨same, -⟩ | ⟨e', same, foreign⟩⟩ e'' same' unsuitable
    · cases same
    · cases same
      cases same'
      exact absurd unsuitable foreign.not_unsuitable
  rintro ⟨src, dst⟩ t quiet₁ silent₁ ⟨dialled, ⟨same, ⟨srcCfg, source⟩, dstCfg, target⟩ | ⟨e, same, -⟩⟩
  swap
  · cases same
  cases same
  rw [m.roots_eq source target]
  simp only [pure_eq, ret_bind]
  -- The phase is written, and the stream is stopped.
  generalize ({ st with phase := .failingOver, message := "promoting " ++ g.targetBackend } : State) =
    started
  have saved : R.wp (m.store.save g.name started) (fun r u => r = .ok () ∧ u.site = w.site) t :=
    Store.wp_save.mpr ⟨rfl, (Store.saved_site _ _ _ _).trans dialled.site⟩
  refine logged_seq g.targetBackend saved (Store.emits_save id id fun _ => id) ?_ ?_
  · rintro e u more - ⟨same, -⟩
    cases same
  rintro _ u quiet₂ silent₂ ⟨-, kept⟩
  have stopped : R.wp (setTransfers (caller g.sourceBackend) g started false) (fun r v =>
      (∃ id done, r = .ok ({ started with taskID := id }, done) ∧ ∀ e, done = .error e → Foreign e) ∧
        (v.site g.targetBackend).storage = (u.site g.targetBackend).storage) u :=
    wp_and (wp_setTransfers started u) (wp_storage_setTransfers started g.targetBackend u)
  refine logged_seq g.targetBackend stopped (emits_setTransfers id (fun _ => id)
    (fun _ _ => id) fun _ => id) ?_ ?_
  · rintro e v more - ⟨⟨taskID, done, same, -⟩, -⟩
    cases same
  rintro ⟨st', done⟩ v quiet₃ silent₃ ⟨⟨taskID, done', same, foreign⟩, storage⟩
  cases same
  cases required : requireStopped g false done with
  | error e =>
    intro e' same unsuitable
    cases same
    exact absurd unsuitable (requireStopped_not_unsuitable foreign required)
  | ok _ =>
  simp only [ofExcept_ok, ret_bind]
  -- What is left is the members, on the target as it was at the start.
  refine wp_seq (logged_promoteMembers g.volumes _) ?_ ?_
  · intro e s reached e' same unsuitable
    cases same
    obtain ⟨more, grown, promoted⟩ := reached e rfl unsuitable
    have before : ∀ x ∈ l ++ quiet₁ ++ quiet₂ ++ quiet₃, Quiet g.targetBackend x.1 := by
      simp only [List.forall_mem_append]
      exact ⟨⟨⟨silent, silent₁⟩, silent₂⟩, silent₃⟩
    rw [grown, promoted_append, or_iff_right (not_promoted_of_quiet before), promoted,
      targets_head target]
    exact exists_congr fun id => and_congr_right fun _ =>
      fit_congr (storage.trans (congrArg (fun site => (site g.targetBackend).storage) kept)) _
  · rintro st'' ⟨x, l'⟩ _
    have ended : R.wp (m.store.save g.name { st'' with
        phase := .failedOver, message := g.targetBackend ++ " is now primary" })
        (fun r _ => r = .ok ()) x := Store.wp_save.mpr rfl
    refine logged_seq g.targetBackend ended (Store.emits_save id id fun _ => id) ?_ ?_
    · intro e y more _ same
      cases same
    · intro _ y more _ _ e same
      cases same

/-- At a refusal, promoted iff the first was fit. -/
theorem logged_failover : R.wpLogged (m.failover g false) (fun r t => ∀ e, r = .error e →
    Unsuitable e → (Promoted g.targetBackend t.2 ↔ ∃ target, (m.targets g).head? = some target ∧
      Fit (w.site g.targetBackend) target)) (w, []) := by
  unfold failover
  have loaded : R.wp (m.store.load g.name) (fun r t => t = w ∧ ∀ e, r = .error e → ¬ Unsuitable e) w := by
    refine Store.wp_load.mpr ⟨rfl, fun e refused => ?_⟩
    exact recorded_not_unsuitable refused
  refine logged_seq g.targetBackend loaded (Store.emits_load id id) ?_ ?_
  · rintro e t more - ⟨-, harmless⟩ e' same unsuitable
    cases same
    exact absurd unsuitable (harmless e rfl)
  · rintro st t more quiet ⟨rfl, -⟩
    split_ifs with beyond
    · intro e same
      cases same
    · exact logged_failoverFrom st _ (by simpa using quiet)

/-- Members are checked one at a time, so the first decides. -/
theorem promoted_iff_fit {faults : List Fault} {w' : World} {e : Err}
    (ran : R.run (m.failover g false) faults w = (.error e, w')) (because : Unsuitable e) :
    Promoted g.targetBackend (log handle (m.failover g false) faults w) ↔
      ∃ target, (m.targets g).head? = some target ∧ Fit (w.site g.targetBackend) target := by
  have reached := wp_iff_run.mp (logged_failover (m := m) (g := g) (w := w)) faults
  rw [run_logged] at reached
  have ended : (run handle (m.failover g false) faults w).1 = .error e :=
    congrArg Prod.fst ran
  have settled := reached e ended because
  rwa [List.nil_append] at settled

/-- For an unforced failover that ends because a replica is unfit, with any failures: nothing was promoted
exactly if the first replica was not fit. -/
theorem refused_failover_iff {faults : List Fault} {w' : World} {e : Err}
    (ran : R.run (m.failover g false) faults w = (.error e, w')) (because : Unsuitable e) :
    (¬ Promoted g.targetBackend (Prog.log World.handle (m.failover g false) faults w)) ↔
      ∀ target, (m.targets g).head? = some target → ¬ Fit (w.site g.targetBackend) target := by
  rw [promoted_iff_fit ran because]
  simp only [not_exists, not_and]

end

def halfReplicated : World :=
  Pair.world (Pair.withTask (Pair.group ["pvc-1", "pvc-2"]) (Pair.source ["pvc-1", "pvc-2"]))
    (Pair.withSnapshot "Pool1/dr/pvc-1" "auto-1" 7 (Pair.target ["pvc-1"]))

theorem unreplicated_first_member : ¬ Promoted "nas2" (Prog.log World.handle
    (Pair.manager.failover (Pair.group ["pvc-2", "pvc-1"]) false) [] halfReplicated) := by
  obtain ⟨e, ran, refused⟩ := run_of_refusedAs .notManaged
    (Pair.manager.failover (Pair.group ["pvc-2", "pvc-1"]) false) [] halfReplicated (by decide)
  refine (refused_failover_iff ran (.inl refused)).mpr ?_
  have head : (Pair.manager.targets (Pair.group ["pvc-2", "pvc-1"])).head? = some "Pool1/dr/pvc-2" := by
    decide
  intro target same
  obtain rfl : target = "Pool1/dr/pvc-2" := Option.some.inj (same.symm.trans head)
  decide

/-- The second is refused after a promotion. -/
theorem refused_after_promotion : ¬ ∀ (m : Manager) (g : Group) (faults : List Fault) (w w' : World)
    (e : Err), R.run (m.failover g false) faults w = (.error e, w') → Unsuitable e →
      ¬ Promoted g.targetBackend (Prog.log World.handle (m.failover g false) faults w) := by
  intro untouched
  obtain ⟨e, ran, refused⟩ := run_of_refusedAs .notManaged
    (Pair.manager.failover (Pair.group ["pvc-1", "pvc-2"]) false) [] halfReplicated (by decide)
  refine untouched _ _ _ _ _ _ ran (.inl refused) ((promoted_iff_fit ran (.inl refused)).mpr ?_)
  exact ⟨"Pool1/dr/pvc-1", by decide, by decide⟩

end TruenasCsi.Replication
