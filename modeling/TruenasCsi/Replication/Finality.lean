import TruenasCsi.Replication.Generations
import TruenasCsi.Replication.Interruption

/-!
# Once served or refused, an action is final

## Main result

`refusal_final`, over every sequence of reconciles and edits.

## Proof strategy

A reconcile that decided leaves a status that is `Settled` (`settled_of_decided`), every later one keeps it
(`settled_step`), and a settled object's action is never carried out.
-/

namespace TruenasCsi.Replication

open Prog Manager Replication.World

namespace Reconciler

variable (appliances : Backend.Registry) {ns name : String} {o : StorageProtectionGroup}

/-- Actions that the engine refuses in a phase. -/
def barred (action : Action) (force : Bool) (phase : Phase) : Bool :=
  match action with
  | .failover => (phase = .failingOver || phase = .failingBack) && !force
  | .failback => phase = .failingOver || phase = .failingBack && !force
  | .suspend => phase = .failedOver || phase = .failingOver
  | .resume => phase = .failedOver || phase = .failingOver
  | _ => false

variable {w : World} {force : Bool}

theorem recorded_phase {group : String} {st : State}
    (recorded : Store.status.recorded group w = .ok st) : st.phase = w.copy.status.phase :=
  loadedState_phase recorded

variable (g : Group) {action : Action}

theorem yields_failover_barred (isBarred : barred .failover force w.copy.status.phase = true) :
    R.yields ((manager appliances).failover g force) (fun _ _ => False) w := by
  refine Store.yields_load_seq fun st recorded => ?_
  rw [← recorded_phase recorded] at isBarred
  simp only [barred, Bool.and_eq_true, Bool.or_eq_true, decide_eq_true_eq, Bool.not_eq_true'] at isBarred
  obtain ⟨phase, unforced⟩ := isBarred
  have notOver : st.phase ≠ .failedOver := by
    rintro wrong
    rw [wrong] at phase
    rcases phase with wrong | wrong <;> cases wrong
  rw [if_neg notOver]
  refine yields_ofExcept_seq fun _ passed => ?_
  rcases phase with phase | phase
  · simp [refuseFailover, phase, unforced] at passed
  · simp [refuseFailover, phase, unforced] at passed

theorem yields_failback_barred (isBarred : barred .failback force w.copy.status.phase = true) :
    R.yields ((manager appliances).failback g force) (fun _ _ => False) w := by
  refine Store.yields_load_seq fun st recorded => ?_
  rw [← recorded_phase recorded] at isBarred
  simp only [barred, Bool.and_eq_true, Bool.or_eq_true, decide_eq_true_eq, Bool.not_eq_true'] at isBarred
  rcases isBarred with phase | ⟨phase, unforced⟩
  · rw [if_neg (by simp [phase])]
    refine yields_ofExcept_seq fun _ passed => ?_
    simp [refuseFailback, phase] at passed
  · rw [if_neg (by simp [phase])]
    refine yields_ofExcept_seq fun _ passed => ?_
    simp [refuseFailback, phase, unforced] at passed

theorem yields_setSuspended_barred (suspended : Bool)
    (phase : w.copy.status.phase = .failedOver ∨ w.copy.status.phase = .failingOver) :
    R.yields ((manager appliances).setSuspended g suspended) (fun _ _ => False) w := by
  refine Store.yields_load_seq fun st recorded => ?_
  rw [← recorded_phase recorded] at phase
  refine yields_ofExcept_seq fun _ passed => ?_
  simp [refuseSuspended, phase] at passed

/-- What is barred is never carried out. -/
theorem yields_serve_barred (isBarred : barred action force w.copy.status.phase = true) :
    R.yields (serve appliances g force action) (fun _ _ => False) w := by
  have never {p : R State} (ends : R.yields p (fun _ _ => False) w) :
      R.yields (do let _ ← p) (fun _ _ => False) w :=
    yields_bind ends fun _ _ wrong => wrong.elim
  cases action with
  | failover => exact never (yields_failover_barred appliances g isBarred)
  | failback => exact never (yields_failback_barred appliances g isBarred)
  | suspend =>
    refine never (yields_setSuspended_barred appliances g true ?_)
    simpa [barred] using isBarred
  | resume =>
    refine never (yields_setSuspended_barred appliances g false ?_)
    simpa [barred] using isBarred
  | _ => cases isBarred

theorem yields_create_phase (phase : w.copy.status.phase ≠ .unknown)
    (phase' : w.copy.status.phase ≠ .ready) :
    R.yields ((manager appliances).create g) (fun _ t =>
      t.copy.status.phase = w.copy.status.phase) w := by
  have aside {α : Type} {p : R α} {t : World} (emits : p.Emits Any Call.Aside)
      (same : t.copy = w.copy) : R.yields p (fun _ u => u.copy = w.copy) t := by
    refine yields_iff_wp.mpr (wp_mono (Emits.wp_invariant handle handle_any
      emits (I := fun u => u.copy = w.copy) ?_ same) fun _ _ kept _ _ => kept)
    exact fun fault c u aside kept => (aside.frame fault u).1.trans kept
  refine yields_bind (aside (emits_verifyMembership (fun _ => trivial) fun _ => trivial) rfl)
    fun _ t same => ?_
  refine yields_bind (aside emits_roots same) fun roots t same => ?_
  refine yields_clients_seq _ fun u dialled _ _ => ?_
  have same' : u.copy = w.copy := by
    rw [dialled]
    exact same
  refine Store.yields_load_seq fun st recorded => ?_
  have loaded : st.phase = w.copy.status.phase := by
    rw [recorded_phase recorded, same']
  refine yields_bind (aside (emits_ensureMembers (fun _ => trivial) _) same')
    fun ids v same => ?_
  refine yields_bind (aside (emits_ensureReplication (fun _ => trivial) _ _) same)
    fun task x same => ?_
  refine Store.yields_save_seq (yields_ret ?_)
  show (ensuredState g ids task st).phase = _
  simp [ensuredState, loaded, phase, phase']

theorem engaged_of_barred {phase : Phase}
    (isBarred : barred action force phase = true) : phase ≠ .unknown ∧ phase ≠ .ready := by
  constructor
  · rintro rfl
    cases action <;> cases isBarred
  · rintro rfl
    cases action <;> cases isBarred

theorem wp_course_barred (found : w.object? ns name = some o) (isDue : due o = true)
    (isBarred : barred o.spec.action o.spec.force o.status.phase = true) :
    R.wp (course appliances ns name) (fun r _ => ∀ g, r ≠ .ok (.attempted g (.ok ()))) w := by
  unfold course
  refine wp_seq (P := fun r _ => (∃ e, r = .error e) ∨ r = .ok (some o)) ?_ (by simp) ?_
  · refine wp_issue.mpr fun fault => ?_
    cases fault with
    | none => exact .inr (by rw [← found]; rfl)
    | refused e => exact .inl ⟨_, rfl⟩
    | lost e => exact .inl ⟨_, rfl⟩
  rintro answer t (⟨e, wrong⟩ | same)
  · cases wrong
  cases same
  refine wp_seq (P := fun _ u => u.copy = o) (wp_issue.mpr fun _ => rfl) (by simp) ?_
  rintro _ u copied
  have ends {p : R Result} {v : World} : R.wp (p >>= fun r => ret (Course.ended r))
      (fun r _ => ∀ g, r ≠ .ok (.attempted g (.ok ()))) v := by
    refine wp_seq (wp_trivial p v) (by simp) ?_
    rintro r x - g wrong
    cases wrong
  cases groupFromSpec o with
  | error e => exact ends
  | ok g =>
  split_ifs
  · exact ends
  -- The finalizer is no part of what decides.
  refine wp_seq (P := fun _ v => SameMarks o v.copy ∧ v.copy.status.phase = o.status.phase)
    ?_ (by simp) ?_
  · unfold addFinalizer
    split_ifs
    · rw [pure_eq, wp_ret, copied]
      exact ⟨.refl o, rfl⟩
    · refine fun _ fault => wp_ofExcept.mpr ?_
      rw [handle_update_copy]
      exact ⟨⟨rfl, rfl, rfl, rfl, rfl, rfl, rfl⟩, rfl⟩
  rintro _ v ⟨marks, phase⟩
  rw [← phase] at isBarred
  have ensured : R.wp (ensure appliances g) (fun r x => Marked o v.objects x ∧
      (r = .ok () → x.copy.status.phase = v.copy.status.phase)) v := by
    refine wp_and ?_ ?_
    · exact keeps_bind (keeps_mapError (keeps_create appliances g) _) (fun _ => keeps_ret) v ⟨marks, rfl⟩
    · obtain ⟨known, started⟩ := engaged_of_barred isBarred
      have seen : R.yields (ensure appliances g) (fun _ x => x.copy.status.phase = v.copy.status.phase) v :=
        yields_bind (yields_mapError (yields_create_phase appliances g known started))
          fun _ x same => yields_ret same
      exact wp_mono (yields_iff_wp.mp seen) fun r x same done => same () done
  refine wp_bind.mpr (wp_attempt.mpr (wp_mono ensured ?_))
  rintro r x ⟨⟨kept, -⟩, same⟩
  cases r with
  | error e => exact ends
  | ok _ =>
    rw [← same rfl] at isBarred
    refine wp_bind.mpr (wp_attempt.mpr ?_)
    have refuses : R.yields (applyAction appliances g) (fun _ _ => False) x := by
      refine yields_iff_wp.mpr (wp_seq (P := fun r y => r = .ok x.copy ∧ y = x)
        (wp_issue.mpr fun _ => ⟨rfl, rfl⟩) (by simp) ?_)
      rintro spg y ⟨copy, rfl⟩
      cases copy
      have toServe : ¬ (y.copy.spec.action = .none ∨ served y.copy = true) := by
        rw [kept.spec, served_of_sameMarks kept]
        simpa [due, not_or] using isDue
      rw [if_neg toServe, kept.spec]
      refine yields_iff_wp.mp (yields_bind (yields_serve_barred appliances g isBarred) ?_)
      exact fun _ _ wrong => wrong.elim
    refine wp_mono (yields_iff_wp.mp refuses) ?_
    rintro outcome y never g' wrong
    cases wrong
    exact never () rfl

/-- A reconcile, or anything outside the API server. -/
inductive Event where
  | reconcile (faults : List Fault)
  | meanwhile (world : World)

section

variable (ns name)

def Event.next (w : World) : Event → World
  | .reconcile faults => (R.run (Reconciler.reconcile appliances ns name) faults w).2
  | .meanwhile world => { world with objects := w.objects }

/-- The reconcile carried the action out. -/
def Carried (w : World) (faults : List Fault) : Prop :=
  ∃ o g, w.object? ns name = some o ∧ due o = true ∧
    (R.run (course appliances ns name) faults w).1 = .ok (.attempted g (.ok ()))

def Refused (w : World) (faults : List Fault) : Prop :=
  ∃ o g e, w.object? ns name = some o ∧ due o = true ∧
    (R.run (course appliances ns name) faults w).1 = .ok (.attempted g (.error e)) ∧
      refused e = true

def NeverCarried : World → List Event → Prop
  | _, [] => True
  | w, event :: rest => (∀ faults, event = .reconcile faults → ¬ Carried appliances ns name w faults) ∧
      NeverCarried (event.next appliances ns name w) rest

/-- Once served or refused, no later reconcile acts. -/
def Final : World → List Event → Prop
  | _, [] => True
  | w, event :: rest => (∀ faults, event = .reconcile faults →
        Carried appliances ns name w faults ∨ Refused appliances ns name w faults →
          NeverCarried appliances ns name (event.next appliances ns name w) rest) ∧
      Final (event.next appliances ns name w) rest

/-- Statuses are written, and refusals repeated. -/
def Heeded : World → List Event → Prop
  | _, [] => True
  | w, event :: rest => (∀ faults, event = .reconcile faults →
        chosen handle StatusHeard (Reconciler.reconcile appliances ns name) faults w ∧
        ∀ o, w.object? ns name = some o → due o = true → onRecord o →
          barred o.spec.action o.spec.force o.status.phase = true) ∧
      Heeded (event.next appliances ns name w) rest

variable {ns name} {w : World} {faults : List Fault} {s : StorageProtectionGroup}

theorem reconcile_leaves (alone : w.stored ns name = [o])
    (told : chosen handle StatusHeard (reconcile appliances ns name) faults w) :
    (∃ g outcome, (R.run (course appliances ns name) faults w).1 = .ok (.attempted g outcome) ∧
        Left ns name (Concluded o outcome) (Event.next appliances ns name w (.reconcile faults))) ∨
      ((∀ g outcome, (R.run (course appliances ns name) faults w).1 ≠ .ok (.attempted g outcome)) ∧
        Left ns name (Spared o) (Event.next appliances ns name w (.reconcile faults))) := by
  obtain ⟨isNs, isName⟩ : o.ns = ns ∧ o.name = name := by
    have member : o ∈ w.stored ns name := by simp [alone]
    have isIt := (List.mem_filter.mp member).2
    simpa [isObject] using isIt
  rw [reconcile_eq] at told
  obtain ⟨early, late⟩ := chosen_seq told
  have after := along_run (heard_course appliances alone) early
  have next : Event.next appliances ns name w (.reconcile faults) =
      (run handle (course appliances ns name >>= conclude appliances) faults w).2 := by
    rw [← reconcile_eq]
    rfl
  rw [next, run_seq]
  cases ran : run handle (course appliances ns name) faults w with
  | mk r t =>
  rw [show R.run (course appliances ns name) faults w = (r, t) from ran]
  rw [ran] at after
  cases r with
  | error e => exact .inr ⟨by simp, after⟩
  | ok c =>
    cases c with
    | ended result => exact .inr ⟨by simp, after⟩
    | attempted g outcome =>
      refine .inl ⟨g, outcome, rfl, ?_⟩
      exact along_run (heard_conclude appliances g isNs isName after) (late _ _ ran)

/-- Nothing is due, or the refusal is on record. -/
def Settled (s : StorageProtectionGroup) : Prop := due s = false ∨ onRecord s

theorem settled_of_served (done : served s = true) : Settled s :=
  .inl (by simp [due, done])

theorem notDue_of_sameRequest (request : SameRequest o s)
    (done : served o = true → served s = true) (idle : due o = false) : due s = false := by
  simp only [due, Bool.and_eq_false_iff, decide_eq_false_iff_not, not_not, Bool.not_eq_false'] at idle ⊢
  rw [request.spec]
  exact idle.imp id done

theorem object?_of_alone (alone : w.stored ns name = [o]) : w.object? ns name = some o := by
  rw [object?_eq_head, alone]
  rfl

/-- After a reconcile that decided, the status says so, -/
theorem settled_of_decided (alone : w.stored ns name = [o])
    (told : chosen handle StatusHeard (reconcile appliances ns name) faults w)
    (decided : Carried appliances ns name w faults ∨ Refused appliances ns name w faults) :
    Left ns name Settled (Event.next appliances ns name w (.reconcile faults)) := by
  have found := object?_of_alone alone
  obtain ⟨g, outcome, ran, left⟩ | ⟨never, -⟩ := reconcile_leaves appliances alone told
  · refine left.mono fun s concluded => ?_
    obtain ⟨o', g', found', isDue, ran'⟩ | ⟨o', g', e, found', isDue, ran', isRefused⟩ := decided
    · rw [found] at found'
      cases found'
      rw [ran] at ran'
      cases ran'
      exact settled_of_served (concluded.served (.inr (by rw [isDue]; rfl)))
    · rw [ran] at ran'
      cases ran'
      exact .inr (concluded.refused e rfl isRefused)
  · obtain ⟨o', g', -, -, ran⟩ | ⟨o', g', e, -, -, ran, -⟩ := decided
    · exact absurd ran (never _ _)
    · exact absurd ran (never _ _)

/-- and later reconciles leave it like that. -/
theorem settled_step (alone : w.stored ns name = [o]) (settled : Settled o)
    (told : chosen handle StatusHeard (reconcile appliances ns name) faults w)
    (bars : due o = true → onRecord o → barred o.spec.action o.spec.force o.status.phase = true) :
    ¬ Carried appliances ns name w faults ∧
      Left ns name Settled (Event.next appliances ns name w (.reconcile faults)) := by
  have found := object?_of_alone alone
  have never : ¬ Carried appliances ns name w faults := by
    rintro ⟨o', g, found', isDue, ran⟩
    rw [found] at found'
    cases found'
    obtain idle | recorded := settled
    · rw [idle] at isDue
      cases isDue
    · exact wp_iff_run.mp (wp_course_barred appliances found isDue (bars isDue recorded))
        faults g ran
  refine ⟨never, ?_⟩
  obtain ⟨g, outcome, ran, left⟩ | ⟨-, left⟩ := reconcile_leaves appliances alone told
  · refine left.mono fun s concluded => ?_
    cases isDue : due o with
    | false =>
      exact .inl (notDue_of_sameRequest concluded.toSameRequest (fun done => concluded.served (.inl done))
        isDue)
    | true =>
      have recorded : onRecord o := settled.resolve_left (by simp [isDue])
      refine .inr (concluded.recorded ?_ recorded)
      cases outcome with
      | error e => rfl
      | ok _ => exact absurd ⟨o, g, found, isDue, ran⟩ never
  · refine left.mono fun s spared => ?_
    obtain idle | recorded := settled
    · refine .inl (notDue_of_sameRequest spared.toSameRequest (fun done => ?_) idle)
      rwa [served_of_status spared.toSameRequest spared.lastAction spared.lastActionGeneration]
    · exact .inr (spared.recorded recorded)

theorem reconcile_absent (absent : w.stored ns name = []) (faults : List Fault) :
    ¬ Carried appliances ns name w faults ∧
      (Event.next appliances ns name w (.reconcile faults)).stored ns name = [] := by
  have missing : w.object? ns name = none := by
    rw [object?_eq_head, absent]
    rfl
  constructor
  · rintro ⟨o, g, found, -⟩
    rw [missing] at found
    cases found
  · have quiet : R.wp (reconcile appliances ns name) (fun _ t => t = w) w := by
      refine wp_seq (P := fun r t => t = w ∧ ((∃ e, r = .error e) ∨ r = .ok none)) ?_ ?_ ?_
      · refine wp_issue.mpr fun fault => ?_
        cases fault with
        | none => exact ⟨rfl, .inr (by rw [← missing]; rfl)⟩
        | refused e => exact ⟨rfl, .inl ⟨_, rfl⟩⟩
        | lost e => exact ⟨rfl, .inl ⟨_, rfl⟩⟩
      · exact fun e t ended => ended.1
      · rintro answer t ⟨rfl, ⟨e, wrong⟩ | same⟩
        · cases wrong
        · cases same
          exact rfl
    have same := wp_iff_run.mp quiet faults
    show stored (R.run _ _ _).2 ns name = []
    rw [show (R.run (reconcile appliances ns name) faults w).2 = w from same]
    exact absent

theorem neverCarried_of_settled {events : List Event} (settled : Left ns name Settled w)
    (heeded : Heeded appliances ns name w events) : NeverCarried appliances ns name w events := by
  induction events generalizing w with
  | nil => trivial
  | cons event rest ih =>
    obtain ⟨now, later⟩ := heeded
    cases event with
    | meanwhile world =>
      refine ⟨by simp, ih ?_ later⟩
      exact left_of_objects (w := w) rfl settled
    | reconcile faults =>
      obtain ⟨told, bars⟩ := now faults rfl
      obtain absent | ⟨o, alone, isSettled⟩ := settled
      · obtain ⟨never, still⟩ := reconcile_absent appliances absent faults
        refine ⟨?_, ih (.inl still) later⟩
        rintro _ same
        cases same
        exact never
      · obtain ⟨never, still⟩ := settled_step appliances alone isSettled told
          (bars o (object?_of_alone alone))
        refine ⟨?_, ih still later⟩
        rintro _ same
        cases same
        exact never

/-- For every sequence of events on at most one object of the name, where statuses are written and what is
due again is refused (`Heeded`): once an action was carried out or refused, no later reconcile carries it
out. -/
theorem refusal_final (appliances : Backend.Registry) (ns name : String) (events : List Event) (w : World)
    (single : Left ns name (fun _ => True) w) (heeded : Heeded appliances ns name w events) :
    Final appliances ns name w events := by
  induction events generalizing w with
  | nil => trivial
  | cons event rest ih =>
    obtain ⟨now, later⟩ := heeded
    cases event with
    | meanwhile world =>
      refine ⟨by simp, ih _ ?_ later⟩
      exact left_of_objects (w := w) rfl single
    | reconcile faults =>
      obtain ⟨told, -⟩ := now faults rfl
      obtain absent | ⟨o, alone, -⟩ := single
      · obtain ⟨-, still⟩ := reconcile_absent appliances absent faults
        refine ⟨fun _ _ _ => neverCarried_of_settled appliances (.inl still) later, ih _ (.inl still) later⟩
      · constructor
        · rintro _ same decided
          cases same
          exact neverCarried_of_settled appliances (settled_of_decided appliances alone told decided) later
        · refine ih _ ?_ later
          obtain ⟨g, outcome, -, left⟩ | ⟨-, left⟩ := reconcile_leaves appliances alone told
          · exact left.mono fun _ _ => trivial
          · exact left.mono fun _ _ => trivial

end

end Reconciler

open Reconciler

theorem statusHeard_none (c : Call) (w : World) : StatusHeard default c w := by
  rintro spg - e wrong
  cases wrong

/-- What became of the action: carried out, refused, or neither. -/
def verdict : Except Err Course → Option Bool
  | .ok (.attempted _ (.ok _)) => some true
  | .ok (.attempted _ (.error e)) => if refused e then some false else none
  | _ => none

theorem carried_of_verdict {r : Except Err Course} (said : verdict r = some true) :
    ∃ g, r = .ok (.attempted g (.ok ())) := by
  unfold verdict at said
  split at said
  · exact ⟨_, rfl⟩
  · split_ifs at said
    cases said
  · cases said

theorem refused_of_verdict {r : Except Err Course} (said : verdict r = some false) :
    ∃ g e, r = .ok (.attempted g (.error e)) ∧ refused e = true := by
  unfold verdict at said
  split at said
  · cases said
  · split_ifs at said with isRefused
    exact ⟨_, _, rfl, isRefused⟩
  · cases said

/-- The failover of `asked` was cut off once. -/
def halted : StorageProtectionGroup := { asked with status := { asked.status with phase := .failingOver } }

def haltedWorld : World := { askedWorld with objects := [halted] }

theorem heeded_nil {appliances : Backend.Registry} {w : World} {o : StorageProtectionGroup}
    (found : w.object? "prod" "payments" = some o)
    (bars : due o = true → onRecord o → barred o.spec.action o.spec.force o.status.phase = true) :
    ∀ faults, Event.reconcile [] = .reconcile faults →
      chosen handle StatusHeard (reconcile appliances "prod" "payments") faults w ∧
        ∀ held, w.object? "prod" "payments" = some held → due held = true → onRecord held →
          barred held.spec.action held.spec.force held.status.phase = true := by
  rintro faults same
  cases same
  refine ⟨chosen_nil statusHeard_none _ _, fun held there => ?_⟩
  obtain rfl : o = held := Option.some.inj (found.symm.trans there)
  exact bars

/-- A failover is carried out once. One that was cut off is refused, and that is final as well. -/
theorem served_once : Final Pair.registry "prod" "payments" askedWorld [.reconcile [], .reconcile []] ∧
    Refused Pair.registry "prod" "payments" haltedWorld [] ∧
    Final Pair.registry "prod" "payments" haltedWorld [.reconcile [], .reconcile []] := by
  have later : ∀ w : World, ∀ test : StorageProtectionGroup → Bool,
      ((Event.next Pair.registry "prod" "payments" w (.reconcile [])).object? "prod" "payments").map test =
        some true → ∃ o, (Event.next Pair.registry "prod" "payments" w (.reconcile [])).object?
          "prod" "payments" = some o ∧ test o = true :=
    fun w test said => Option.map_eq_some_iff.mp said
  refine ⟨?_, ?_, ?_⟩
  · obtain ⟨o, found, idle⟩ := later askedWorld (fun o => !due o) (by decide)
    refine refusal_final Pair.registry "prod" "payments" _ askedWorld (.inr ⟨asked, rfl, trivial⟩)
      ⟨heeded_nil (o := asked) rfl fun _ => ?_, heeded_nil found fun isDue => ?_, trivial⟩
    · rintro ⟨c, wrong, -⟩
      cases wrong
    · simp [isDue] at idle
  · obtain ⟨g, e, refuses, isRefused⟩ := refused_of_verdict
      (show verdict (R.run (course Pair.registry "prod" "payments") [] haltedWorld).1 = some false by decide)
    exact ⟨halted, g, e, rfl, rfl, refuses, isRefused⟩
  · obtain ⟨o, found, still⟩ := later haltedWorld
      (fun o => barred o.spec.action o.spec.force o.status.phase) (by decide)
    exact refusal_final Pair.registry "prod" "payments" _ haltedWorld (.inr ⟨halted, rfl, trivial⟩)
      ⟨heeded_nil (o := halted) rfl fun _ _ => rfl, heeded_nil found fun _ _ => still, trivial⟩

def requested : StorageProtectionGroup :=
  { asked with spec := { asked.spec with action := .createRemoteVolumes } }

def remoteWorld (target : Site) : World :=
  { Pair.world (Pair.withTask (Pair.group ["pvc-1"]) (Pair.source ["pvc-1"])) target with
    objects := [requested] }

def foreignTarget : Site :=
  { Pair.target [] with
    storage := { (Pair.target []).storage with
      datasets := (Pair.target []).storage.datasets.set "Pool1/dr/pvc-1" Pair.container } }

/-- The request is served later on. -/
theorem refusal_reversed : ¬ ∀ (appliances : Backend.Registry) (ns name : String) (events : List Event)
    (w : World), Left ns name (fun _ => True) w → Final appliances ns name w events := by
  intro final
  obtain ⟨first, -⟩ := final Pair.registry "prod" "payments" [.reconcile [],
    .meanwhile (remoteWorld (Pair.target [])), .reconcile []] (remoteWorld foreignTarget)
    (.inr ⟨requested, rfl, trivial⟩)
  obtain ⟨g, e, refuses, isRefused⟩ := refused_of_verdict
    (show verdict (R.run (course Pair.registry "prod" "payments") [] (remoteWorld foreignTarget)).1 =
      some false by decide)
  obtain ⟨-, second, -⟩ := first [] rfl (.inr ⟨requested, g, e, rfl, rfl, refuses, isRefused⟩)
  -- The object still asks for it, and nothing is in the way any more.
  obtain ⟨o, found, isDue⟩ := Option.map_eq_some_iff.mp
    (show ((Event.next Pair.registry "prod" "payments" (Event.next Pair.registry "prod" "payments"
        (remoteWorld foreignTarget) (.reconcile [])) (.meanwhile (remoteWorld (Pair.target [])))).object?
        "prod" "payments").map due = some true by decide)
  obtain ⟨g', carries⟩ := carried_of_verdict
    (show verdict (R.run (course Pair.registry "prod" "payments") []
      (Event.next Pair.registry "prod" "payments" (Event.next Pair.registry "prod" "payments"
        (remoteWorld foreignTarget) (.reconcile [])) (.meanwhile (remoteWorld (Pair.target []))))).1 =
      some true by decide)
  exact second [] rfl ⟨o, g', found, isDue, carries⟩

end TruenasCsi.Replication
