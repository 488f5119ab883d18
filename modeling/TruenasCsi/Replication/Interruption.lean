import TruenasCsi.Replication.Divergence
import TruenasCsi.Replication.Objects
import TruenasCsi.Replication.Restart

/-!
# Where a reconcile can be interrupted

## Main result

`interrupted_failover_iff`: a failover that was cut off is known after a restart exactly if a status was
written.

## Proof strategy

The invariant is about every prefix of the run (`Support.Along`): before the first promotion the object is
as it was (`Before`), after it the copy has the phase and only a written status carries it over (`Midway`).
-/

namespace TruenasCsi.Replication

open Prog Reconciler Replication.World Manager Volume

abbrev Traced := World × List (Call × Fault)

/-- What holds along a program, for all answers. -/
abbrev R.through {α : Type} (I : Traced → Prop) (p : R α) (Q : Except Err α → Traced → Prop)
    (s : Traced) : Prop :=
  along (logged handle) (fun _ _ _ => True) I p Q s

theorem Call.Aside.unwritten {c : Call} (aside : c.Aside) (fault : Fault) : persists (c, fault) = false := by
  cases c with
  | updateStatus spg => cases aside
  | _ => rfl

section

variable (ns name : String) (o : StorageProtectionGroup) (target : String)

/-- Nothing has reached the API server. -/
structure Pending (s : Traced) : Prop where
  kept : ∃ p, s.1.object? ns name = some p ∧ p.status = o.status
  unwritten : s.2.any persists = false
  named : s.1.copy.ns = ns ∧ s.1.copy.name = name
  spec : s.1.copy.spec = o.spec

/-- Nothing was promoted yet. -/
structure Before (s : Traced) : Prop extends Pending ns name o s where
  silent : ∀ x ∈ s.2, Quiet target x.1
  linked : s.1.copy.status.phase.engaged = o.status.phase.engaged

/-- The copy says that a failover is under way, and nothing was written. -/
structure Midway (s : Traced) : Prop extends Pending ns name o s where
  fresh : o.status.phase.engaged = false
  beyond : s.1.copy.status.phase.over = true
  readable : s.1.copy.status.Readable

def Underway (s : Traced) : Prop := Before ns name o target s ∨ Midway ns name o s

/-- The update is written and knows of the failover. -/
def Settled (s : Traced) : Prop :=
  s.2.any persists = true ∧ ∃ p, s.1.object? ns name = some p ∧ p.status.phase.over = true ∧
    p.status.Readable

/-- No promotion, the old object, or the failover. -/
def Accounted (s : Traced) : Prop :=
  (∀ x ∈ s.2, Quiet target x.1) ∨
    ((∃ p, s.1.object? ns name = some p ∧ p.status = o.status) ∧ s.2.any persists = false ∧
      o.status.phase.engaged = false) ∨ Settled ns name s

variable {ns name o target} {s : Traced} {c : Call}
  {f : StorageProtectionGroup → StorageProtectionGroup}

theorem Underway.accounted (underway : Underway ns name o target s) :
    Accounted ns name o target s := by
  obtain before | midway := underway
  · exact .inl before.silent
  · exact .inr (.inl ⟨midway.kept, midway.unwritten, midway.fresh⟩)

theorem Pending.step (pending : Pending ns name o s) (aside : c.Aside)
    (fault : Fault) : Pending ns name o (logged handle fault c s).2 := by
  obtain ⟨copy, objects⟩ := aside.frame fault s.1
  constructor
  · simpa [logged, object?, objects] using pending.kept
  · simp only [logged, List.any_append, pending.unwritten, List.any_cons, aside.unwritten fault]
    rfl
  · simpa [logged, copy] using pending.named
  · simpa [logged, copy] using pending.spec

theorem silent_snoc {log : List (Call × Fault)} (silent : ∀ x ∈ log, Quiet target x.1)
    (quiet : Quiet target c) (fault : Fault) : ∀ x ∈ log ++ [(c, fault)], Quiet target x.1 := by
  intro x member
  obtain early | last := List.mem_append.mp member
  · exact silent x early
  · rw [List.mem_singleton.mp last]
    exact quiet

theorem Before.step (before : Before ns name o target s) (aside : c.Aside)
    (quiet : Quiet target c) (fault : Fault) :
    Before ns name o target (logged handle fault c s).2 := by
  refine ⟨before.toPending.step aside fault, silent_snoc before.silent quiet fault, ?_⟩
  simpa [logged, (aside.frame fault s.1).1] using before.linked

theorem Midway.step (midway : Midway ns name o s) (aside : c.Aside)
    (fault : Fault) : Midway ns name o (logged handle fault c s).2 := by
  have copy := (aside.frame fault s.1).1
  refine ⟨midway.toPending.step aside fault, midway.fresh, ?_, ?_⟩
  · simpa [logged, copy] using midway.beyond
  · simpa [logged, copy] using midway.readable

theorem through_before {α : Type} {p : R α} {P : Except Err α → World → Prop}
    (spec : R.wp p P s.1) (emits : p.Emits Any fun c => c.Aside ∧ Quiet target c)
    (now : Before ns name o target s) : R.through (Underway ns name o target) p
      (fun r t => P r t.1 ∧ Before ns name o target t ∧ t.1.copy = s.1.copy) s := by
  have along := along_of_wp (A := fun _ _ _ => True) (T := Any) (h := logged handle)
    (I := fun t : Traced => Before ns name o target t ∧ t.1.copy = s.1.copy)
    (fun fault c t => trivial) (wp_logged_state spec) emits ?_ ⟨now, rfl⟩
  · refine along_weaken (along_mono along ?_) fun t holds => .inl holds.1
    exact fun r t holds ends => ⟨ends, holds⟩
  · rintro fault c t - ⟨aside, quiet⟩ ⟨before, same⟩
    exact ⟨before.step aside quiet fault, (aside.frame fault t.1).1.trans same⟩

theorem through_midway {α : Type} {p : R α} {P : Except Err α → World → Prop}
    (spec : R.wp p P s.1) (emits : p.Emits Any Call.Aside) (now : Midway ns name o s) :
    R.through (Underway ns name o target) p
      (fun r t => P r t.1 ∧ Midway ns name o t ∧ t.1.copy = s.1.copy) s := by
  have along := along_of_wp (A := fun _ _ _ => True) (T := Any) (h := logged handle)
    (I := fun t : Traced => Midway ns name o t ∧ t.1.copy = s.1.copy)
    (fun fault c t => trivial) (wp_logged_state spec) emits ?_ ⟨now, rfl⟩
  · refine along_weaken (along_mono along ?_) fun t holds => .inr holds.1
    exact fun r t holds ends => ⟨ends, holds⟩
  · rintro fault c t - aside ⟨midway, same⟩
    exact ⟨midway.step aside fault, (aside.frame fault t.1).1.trans same⟩

def Traced.rewritten (s : Traced) (f : StorageProtectionGroup → StorageProtectionGroup) (a b : Fault) :
    Traced :=
  ({ s.1 with copy := f s.1.copy }, s.2 ++ [(.read, a)] ++ [(.write (f s.1.copy), b)])

def SameObject (f : StorageProtectionGroup → StorageProtectionGroup) : Prop :=
  ∀ spg, (f spg).ns = spg.ns ∧ (f spg).name = spg.name ∧ (f spg).spec = spg.spec

theorem Pending.rewritten (pending : Pending ns name o s) (same : SameObject f) (a b : Fault) :
    Pending ns name o (s.rewritten f a b) := by
  obtain ⟨sameNs, sameName, sameSpec⟩ := same s.1.copy
  refine ⟨pending.kept, ?_, ⟨sameNs.trans pending.named.1, sameName.trans pending.named.2⟩,
    sameSpec.trans pending.spec⟩
  simp [Traced.rewritten, pending.unwritten, persists]

theorem silent_rewritten
    (silent : ∀ x ∈ s.2, Quiet target x.1) (a b : Fault) : ∀ x ∈ (s.rewritten f a b).2, Quiet target x.1 := by
  intro x member
  simp only [Traced.rewritten, List.mem_append, List.mem_singleton] at member
  obtain (early | rfl) | rfl := member
  · exact silent x early
  · exact id
  · exact id

theorem through_rewrite {I : Traced → Prop} {Q : Except Err Unit → Traced → Prop} (start : I s)
    (asked : ∀ a, I (logged handle a .read s).2)
    (written : ∀ a b, I (s.rewritten f a b) ∧ Q (.ok ()) (s.rewritten f a b)) :
    R.through I (readCopy >>= fun spg => writeCopy (f spg)) Q s :=
  ⟨start, fun a _ => ⟨asked a, fun b _ => written a b⟩⟩

theorem through_rewrite_before (now : Before ns name o target s) (same : SameObject f)
    (phase : (f s.1.copy).status.phase.engaged = s.1.copy.status.phase.engaged) :
    R.through (Underway ns name o target) (readCopy >>= fun spg => writeCopy (f spg))
      (fun _ t => Before ns name o target t) s := by
  have ends : ∀ a b, Before ns name o target (s.rewritten f a b) := fun a b =>
    ⟨now.toPending.rewritten same a b, silent_rewritten now.silent a b, phase.trans now.linked⟩
  exact through_rewrite (.inl now) (fun a => .inl (now.step (c := .read) trivial id a))
    fun a b => ⟨.inl (ends a b), ends a b⟩

theorem through_rewrite_midway
    (now : Underway ns name o target s) (same : SameObject f) (fresh : o.status.phase.engaged = false)
    (beyond : (f s.1.copy).status.phase.over = true) (readable : (f s.1.copy).status.Readable) :
    R.through (Underway ns name o target) (readCopy >>= fun spg => writeCopy (f spg))
      (fun _ t => Midway ns name o t) s := by
  have pending : Pending ns name o s := by
    obtain before | midway := now
    · exact before.toPending
    · exact midway.toPending
  have ends : ∀ a b, Midway ns name o (s.rewritten f a b) := fun a b =>
    ⟨pending.rewritten same a b, fresh, beyond, readable⟩
  refine through_rewrite now ?_ fun a b => ⟨.inr (ends a b), ends a b⟩
  intro a
  obtain before | midway := now
  · exact .inl (before.step (c := .read) trivial id a)
  · exact .inr (midway.step (c := .read) trivial a)

end

section

variable {ns name : String} {o : StorageProtectionGroup} {g : Group} {appliances : Backend.Registry}

theorem source_quiet (different : g.sourceBackend ≠ g.targetBackend) (op : Op) :
    (Call.api g.sourceBackend op).Aside ∧ Quiet g.targetBackend (.api g.sourceBackend op) := by
  refine ⟨trivial, ?_⟩
  intro promotes
  cases op with
  | dataset op =>
    cases op with
    | update id patch => exact different promotes.1
    | _ => exact promotes
  | promote id => exact different promotes
  | _ => exact promotes

theorem ensuredState_engaged (ids : List Nat) (task : ReplicationTask) (st : State) :
    (ensuredState g ids task st).phase.engaged = st.phase.engaged := by
  unfold ensuredState
  cases st.phase <;> cases task.enabled <;> rfl

theorem sameObject_saved (st : State) :
    SameObject fun spg => { spg with status := savedStatus spg.spec spg.status st } :=
  fun _ => ⟨rfl, rfl, rfl⟩

variable {s : Traced} {target : String}

theorem through_create (different : g.sourceBackend ≠ g.targetBackend)
    (now : Before ns name o g.targetBackend s) :
    R.through (Underway ns name o g.targetBackend) ((manager appliances).create g)
      (fun _ t => Before ns name o g.targetBackend t) s := by
  have onSource := source_quiet different
  have dials : ∀ b, (Call.client b).Aside ∧ Quiet g.targetBackend (.client b) := fun b => ⟨trivial, id⟩
  unfold create
  refine along_bind (through_before (wp_trivial _ s.1)
    (emits_verifyMembership (fun _ => onSource _) dials) now) (fun e t _ ends => ends.2.1) ?_
  rintro _ t₁ - ⟨-, now, -⟩
  refine along_bind (through_before (wp_trivial _ t₁.1) emits_roots now)
    (fun e t _ ends => ends.2.1) ?_
  rintro roots t₂ - ⟨-, now, -⟩
  refine along_bind (through_before ((manager appliances).wp_clients g t₂.1)
    (emits_clients dials) now) (fun e t _ ends => ends.2.1) ?_
  rintro ⟨src, dst⟩ t₃ - ⟨⟨-, ⟨same, -⟩ | ⟨e, same, -⟩⟩, now, -⟩
  swap
  · cases same
  cases same
  refine along_bind (through_before (P := fun r t => t = t₃.1 ∧ r = loadedState t₃.1.copy.status)
    (Store.wp_load.mpr ⟨rfl, rfl⟩) (Store.emits_load ⟨trivial, id⟩ ⟨trivial, id⟩) now)
    (fun e t _ ends => ends.2.1) ?_
  rintro st t₄ - ⟨⟨-, loaded⟩, now, copy₄⟩
  have phase : st.phase = t₄.1.copy.status.phase := by
    rw [copy₄]
    exact loadedState_phase loaded.symm
  refine along_bind (through_before (wp_trivial _ t₄.1)
    (emits_ensureMembers onSource g.volumes) now) (fun e t _ ends => ends.2.1) ?_
  rintro taskIDs t₅ - ⟨-, now, copy₅⟩
  refine along_bind (through_before (wp_trivial _ t₅.1)
    (emits_ensureReplication onSource _ taskIDs) now) (fun e t _ ends => ends.2.1) ?_
  rintro task t₆ - ⟨-, now, copy₆⟩
  -- The record that is saved here leaves an engaged phase as it was.
  refine along_bind (through_rewrite_before now (sameObject_saved _) ?_) (fun e t _ ends => ends) ?_
  · show (ensuredState g taskIDs task st).phase.engaged = _
    rw [ensuredState_engaged, phase, copy₆, copy₅]
  · intro _ t₇ _ now
    exact along_ret (.inl now) now

/-- The target is untouched, or the copy tells. -/
theorem through_failover (now : Before ns name o g.targetBackend s) :
    R.through (Underway ns name o g.targetBackend) ((manager appliances).failover g false)
      (fun _ t => Underway ns name o g.targetBackend t) s := by
  have dials : ∀ b, (Call.client b).Aside ∧ Quiet g.targetBackend (.client b) := fun b => ⟨trivial, id⟩
  unfold failover
  refine along_bind (through_before (P := fun r t => t = s.1 ∧ r = loadedState s.1.copy.status)
    (Store.wp_load.mpr ⟨rfl, rfl⟩) (Store.emits_load ⟨trivial, id⟩ ⟨trivial, id⟩) now)
    (fun e t _ ends => .inl ends.2.1) ?_
  rintro st t₁ - ⟨⟨-, loaded⟩, now, copy₁⟩
  have phase : st.phase = t₁.1.copy.status.phase := by
    rw [copy₁]
    exact loadedState_phase loaded.symm
  have readable : t₁.1.copy.status.Readable := by
    rw [copy₁]
    exact readable_iff.mpr ⟨st, loaded.symm⟩
  split_ifs with done
  · exact along_ret (.inl now) (.inl now)
  unfold failoverFrom
  cases allowed : refuseFailover g false st with
  | error e => exact along_fail (.inl now) (.inl now)
  | ok _ =>
  simp only [ofExcept_ok, ret_bind]
  -- A failover that goes ahead found a record that was not engaged.
  have fresh : o.status.phase.engaged = false := by
    rw [← now.linked, ← phase]
    unfold refuseFailover at allowed
    split_ifs at allowed with beyond back
    cases stands : st.phase <;> simp_all [Phase.engaged]
  refine along_bind (through_before ((manager appliances).wp_clients g t₁.1)
    (emits_clients dials) now) (fun e t _ ends => .inl ends.2.1) ?_
  rintro ⟨src, dst⟩ t₂ - ⟨⟨-, ⟨same, ⟨srcCfg, source⟩, dstCfg, target⟩ | ⟨e, same, -⟩⟩, now, copy₂⟩
  swap
  · cases same
  cases same
  rw [(manager appliances).roots_eq source target]
  simp only [pure_eq, ret_bind]
  refine along_bind (through_rewrite_midway (.inl now) (sameObject_saved _) fresh rfl ?_)
    (fun e t _ ends => .inr ends) ?_
  · show (savedStatus _ _ _).Readable
    rw [copy₂]
    exact readable_savedStatus readable
  intro _ t₃ _ now
  refine along_bind (through_midway (wp_trivial _ t₃.1) (emits_setTransfers trivial
    (fun _ => trivial) (fun _ _ => trivial) fun _ => trivial) now) (fun e t _ ends => .inr ends.2.1) ?_
  rintro ⟨st', stopped⟩ t₄ - ⟨-, now, -⟩
  cases requireStopped g false stopped with
  | error e => exact along_fail (.inr now) (.inr now)
  | ok _ =>
  simp only [ofExcept_ok, ret_bind]
  refine along_bind (through_midway (wp_trivial _ t₄.1)
    (emits_promoteMembers (fun _ => trivial) g.volumes st') now)
    (fun e t _ ends => .inr ends.2.1) ?_
  rintro st'' t₅ - ⟨-, now, -⟩
  refine along_bind (through_rewrite_midway (.inr now) (sameObject_saved _) fresh rfl
    (readable_savedStatus now.readable)) (fun e t _ ends => .inr ends) ?_
  intro _ t₆ _ now
  exact along_ret (.inr now) (.inr now)

/-- The phase is saved in the copy before the first promotion, but not written to the object. -/
theorem through_applyAction (action : o.spec.action = .failover) (unforced : o.spec.force = false)
    (now : Before ns name o g.targetBackend s) :
    R.through (Underway ns name o g.targetBackend) (applyAction appliances g)
      (fun _ t => Underway ns name o g.targetBackend t) s := by
  unfold applyAction
  refine along_bind (through_before (p := readCopy) (P := fun r t => r = .ok s.1.copy)
    (fun _ => rfl) (emits_issue.mpr ⟨trivial, id⟩) now) (fun e t _ ends => .inl ends.2.1) ?_
  rintro spg t₁ - ⟨same, now₁, copy₁⟩
  cases same
  split_ifs with idle
  · exact along_ret (.inl now₁) (.inl now₁)
  rw [now.spec, action, unforced]
  refine along_bind (P := fun _ t => Underway ns name o g.targetBackend t)
    (along_bind (through_failover now₁) (fun e t _ ends => ends) fun st t _ ends =>
      along_ret ends ends) (fun e t _ ends => ends) ?_
  rintro _ t₂ - underway
  -- The served action is entered in the copy, whose phase stays as it is.
  have same : SameObject (markServed .failover) := fun _ => ⟨rfl, rfl, rfl⟩
  obtain before | midway := underway
  · exact along_mono (through_rewrite_before before same rfl) fun _ t _ ends => .inl ends
  · exact along_mono (through_rewrite_midway (.inr midway) same midway.fresh midway.beyond
      midway.readable) fun _ t _ ends => .inr ends

theorem wp_status_phase (m : Manager) (stored : m.store = .status) (w : World) :
    R.wp (m.status g) (fun r _ => ∀ st, r = .ok st → st.state.phase = w.copy.status.phase) w := by
  unfold status
  refine wp_seq (P := fun r _ => r = loadedState w.copy.status) ?_ ?_ ?_
  · rw [stored]
    exact Store.wp_load.mpr rfl
  · intro e t _ st wrong
    cases wrong
  · intro st t loaded
    have phase := loadedState_phase loaded.symm
    refine wp_seq (wp_trivial _ t) (fun e u _ st' wrong => by cases wrong) fun src u _ => ?_
    refine wp_seq (wp_trivial _ u) (fun e v _ st' wrong => by cases wrong) fun found v _ => ?_
    cases found with
    | none =>
      intro st' same
      cases same
      exact phase
    | some task =>
      intro st' same
      cases same
      exact phase

theorem through_status (different : g.sourceBackend ≠ g.targetBackend)
    (now : Underway ns name o g.targetBackend s) :
    R.through (Underway ns name o g.targetBackend) ((manager appliances).status g)
      (fun r t => Underway ns name o g.targetBackend t ∧ t.1.copy = s.1.copy ∧
        ∀ st, r = .ok st → st.state.phase = s.1.copy.status.phase) s := by
  have emits : ((manager appliances).status g).Emits Any fun c =>
      c.Aside ∧ Quiet g.targetBackend c :=
    emits_status (source_quiet different) (fun b => ⟨trivial, id⟩) ⟨trivial, id⟩ ⟨trivial, id⟩
  have spec := wp_status_phase (g := g) (manager appliances) rfl s.1
  obtain before | midway := now
  · exact along_mono (through_before spec emits before) fun r t _ ends =>
      ⟨.inl ends.2.1, ends.2.2, ends.1⟩
  · exact along_mono (through_midway spec (emits.mono fun _ both => both.1) midway)
      fun r t _ ends => ⟨.inr ends.2.1, ends.2.2, ends.1⟩

/-- The update that ends a reconcile. -/
theorem through_statusUpdate {f : StorageProtectionGroup → StorageProtectionGroup}
    (now : Underway ns name o target s) (same : SameObject f)
    (phase : (f s.1.copy).status.phase = s.1.copy.status.phase)
    (readable : s.1.copy.status.Readable → (f s.1.copy).status.Readable) :
    R.through (Accounted ns name o target) (statusUpdate f)
      (fun _ t => Accounted ns name o target t) s := by
  obtain before | midway := now
  · -- Nothing has been promoted, and the update promotes nothing.
    refine ⟨.inl before.silent, fun a _ => ⟨.inl (silent_snoc (c := .read) before.silent id a),
      fun b _ => ?_⟩⟩
    have written : ∀ x ∈ (s.rewritten f a b).2, Quiet target x.1 := silent_rewritten before.silent a b
    refine ⟨.inl written, fun fault _ => ?_⟩
    have updated := silent_snoc (c := .updateStatus (f s.1.copy)) written id fault
    exact along_ofExcept (.inl updated) (.inl updated)
  · have read : ∀ a, Midway ns name o (logged handle a .read s).2 := fun a =>
      midway.step (c := .read) trivial a
    have written : ∀ a b, Midway ns name o (s.rewritten f a b) := fun a b =>
      ⟨midway.toPending.rewritten same a b, midway.fresh,
        by rw [← midway.beyond]; exact congrArg Phase.over phase,
        readable midway.readable⟩
    refine ⟨(Underway.accounted (.inr midway)), fun a _ => ⟨Underway.accounted (.inr (read a)),
      fun b _ => ⟨Underway.accounted (.inr (written a b)), fun fault _ => ?_⟩⟩⟩
    have settles : Accounted ns name o target
        (logged handle fault (.updateStatus (f s.1.copy)) (s.rewritten f a b)).2 := by
      have there := written a b
      obtain ⟨p, found, -⟩ := there.kept
      obtain ⟨isNs, isName⟩ : (f s.1.copy).ns = ns ∧ (f s.1.copy).name = name := there.named
      -- Carried out, the update puts the status of the copy in the place of the old one.
      have done : ((s.rewritten f a b).1.statusUpdated (f s.1.copy)).object? ns name =
          some { p with status := (f s.1.copy).status } := by
        have updated := object?_statusUpdated (s.rewritten f a b).1 (f s.1.copy)
        rw [isNs, isName, found] at updated
        exact updated
      have present : ((s.rewritten f a b).1.object? (f s.1.copy).ns (f s.1.copy).name).isNone = false := by
        rw [isNs, isName, found]
        rfl
      have settled {t : Traced} (wrote : t.2.any persists = true)
          (stored : t.1 = (s.rewritten f a b).1.statusUpdated (f s.1.copy)) :
          Accounted ns name o target t :=
        .inr (.inr ⟨wrote, { p with status := (f s.1.copy).status }, by rw [stored]; exact done,
          there.beyond, there.readable⟩)
      cases fault with
      | none =>
        exact settled (by simp [logged, persists])
          (by simp only [logged, handle, faulty, present]; rfl)
      | refused e =>
        refine .inr (.inl ⟨there.kept, ?_, there.fresh⟩)
        simp [logged, there.unwritten, persists]
      | lost e =>
        exact settled (by simp [logged, persists])
          (by simp only [logged, handle, faulty, present]; rfl)
    exact along_ofExcept settles settles

theorem through_refuse (e : Err) (now : Underway ns name o target s) :
    R.through (Accounted ns name o target) (refuse e) (fun _ _ => True) s := by
  refine along_bind (through_statusUpdate now (fun _ => ⟨rfl, rfl, rfl⟩) rfl fun readable => readable)
    (fun _ _ _ _ => trivial) ?_
  exact fun _ t _ accounted => along_ret accounted trivial

theorem through_retryable (e : Err) (now : Underway ns name o target s) :
    R.through (Accounted ns name o target) (retryable e) (fun _ _ => True) s := by
  refine along_bind (through_statusUpdate now (fun _ => ⟨rfl, rfl, rfl⟩) rfl fun readable => readable)
    (fun _ _ _ _ => trivial) ?_
  exact fun _ t _ accounted => along_fail accounted trivial

theorem parseHandles_formed {handles : List String} {ids : List ID}
    (parsed : parseHandles handles = .ok ids) : ∀ id ∈ ids, WellFormed id := by
  induction handles generalizing ids with
  | nil =>
    cases parsed
    intro id member
    cases member
  | cons handle rest ih =>
    rw [parseHandles] at parsed
    split at parsed
    · cases parsed
    · rename_i first read
      split at parsed
      · cases parsed
      · rename_i others readRest
        cases parsed
        intro id member
        obtain rfl | later := List.mem_cons.mp member
        · exact (parseID_ok read).1
        · exact ih readRest id later

theorem groupFromSpec_ok {spg : StorageProtectionGroup} (made : groupFromSpec spg = .ok g) :
    g.sourceBackend ≠ g.targetBackend ∧ g.volumes ≠ [] ∧ ∀ id ∈ g.volumes, WellFormed id := by
  unfold groupFromSpec at made
  split_ifs at made with missing same
  split at made
  · cases made
  · cases made
  · rename_i ids nonempty parsed
    cases made
    exact ⟨same, nonempty, parseHandles_formed parsed⟩

theorem readable_reconciled (formed : ∀ id ∈ g.volumes, WellFormed id) (st : GroupStatus)
    (spg : StorageProtectionGroup) : (markReconciled g st spg).status.Readable := by
  intro v member
  have listed : v ∈ (writeStatus g st spg).status.volumes := member
  simp only [writeStatus, List.mem_map] at listed
  obtain ⟨id, of, rfl⟩ := listed
  exact ⟨id, parseID_string (formed id of)⟩

theorem through_converge (made : groupFromSpec o = .ok g) (action : o.spec.action = .failover)
    (unforced : o.spec.force = false) (now : Before ns name o g.targetBackend s) :
    R.through (Accounted ns name o g.targetBackend) (converge appliances g)
      (fun _ _ => True) s := by
  obtain ⟨different, -, formed⟩ := groupFromSpec_ok made
  have accounts : ∀ t, Underway ns name o g.targetBackend t → Accounted ns name o g.targetBackend t :=
    fun _ underway => underway.accounted
  unfold converge
  have ensured : R.through (Underway ns name o g.targetBackend) (ensure appliances g)
      (fun _ t => Before ns name o g.targetBackend t) s := by
    refine along_bind (P := fun _ t => Before ns name o g.targetBackend t)
      (along_mapError (through_create different now)) (fun _ _ _ ends => ends) ?_
    exact fun _ t _ ends => along_ret (.inl ends) ends
  refine along_attempt_seq (along_weaken ensured accounts) ?_
  rintro r t₁ - before
  cases r with
  | error e => exact through_retryable e (.inl before)
  | ok _ =>
  refine along_attempt_seq (along_weaken (through_applyAction action unforced before) accounts) ?_
  rintro r t₂ - underway
  cases r with
  | error e =>
    show R.through _ (if refused e then _ else _) _ _
    split_ifs
    · exact through_refuse e underway
    · exact through_retryable e underway
  | ok _ =>
  refine along_attempt_seq (along_weaken (through_status different underway) accounts) ?_
  rintro r t₃ - ⟨underway, same, phase⟩
  cases r with
  | error e => exact through_retryable e underway
  | ok st =>
    refine along_bind (through_statusUpdate underway (fun _ => ⟨rfl, rfl, rfl⟩) ?_
      fun _ => readable_reconciled formed st _) (fun _ _ _ _ => trivial) ?_
    · rw [same]
      exact phase st rfl
    · exact fun _ t _ accounted => along_ret accounted trivial

theorem quiet_of_other {c : Call} (other : ∀ backend op, c ≠ .api backend op) : Quiet target c := by
  cases c with
  | api backend op => exact absurd rfl (other backend op)
  | _ => exact id

theorem through_quiet {α : Type} {p : R α} (quiet : p.Emits Any (Quiet target))
    (silent : ∀ x ∈ s.2, Quiet target x.1) :
    R.through (Accounted ns name o target) p (fun _ _ => True) s := by
  refine along_weaken (I := fun t : Traced => ∀ x ∈ t.2, Quiet target x.1)
    (along_of_wp (T := Any) (fun _ _ _ => trivial) ?_ quiet ?_ silent) fun t silent => .inl silent
  · exact wp_logged_state (wp_trivial p s.1)
  · exact fun fault c t _ quiet silent => silent_snoc silent quiet fault

theorem Before.update (before : Before ns name o target s)
    (spg : StorageProtectionGroup) (isNs : spg.ns = ns) (isName : spg.name = name)
    (held : spg.finalizers ≠ []) (fault : Fault) :
    Before ns name o target (logged handle fault (.update spg) s).2 := by
  obtain ⟨p, found, status⟩ := before.kept
  have silent := silent_snoc (c := .update spg) before.silent id fault
  have unwritten : (s.2 ++ [(Call.update spg, fault)]).any persists = false := by
    simp [before.unwritten, persists]
  simp only [logged]
  obtain same | same := handle_update fault spg s.1
  · rw [same]
    exact ⟨⟨before.kept, unwritten, before.named, before.spec⟩, silent, before.linked⟩
  · rw [same]
    refine ⟨⟨⟨{ p with finalizers := spg.finalizers, spec := spg.spec }, ?_, status⟩, unwritten,
      before.named, before.spec⟩, silent, before.linked⟩
    have updated := object?_updated (w := s.1) held
    rw [isNs, isName, found] at updated
    exact updated

theorem through_addFinalizer (now : Before ns name o target s)
    (copied : s.1.copy = o) : R.through (Underway ns name o target) (addFinalizer o)
      (fun _ t => Before ns name o target t) s := by
  unfold addFinalizer
  split_ifs with held
  · exact along_ret (.inl now) now
  obtain ⟨isNs, isName⟩ : o.ns = ns ∧ o.name = name := by
    rw [← copied]
    exact now.named
  have written : ∀ b, Before ns name o target (logged handle b
      (.write { o with finalizers := o.finalizers ++ [finalizer] }) s).2 := by
    intro b
    refine ⟨⟨now.kept, ?_, ⟨isNs, isName⟩, rfl⟩, silent_snoc now.silent id b, rfl⟩
    simp [logged, now.unwritten, persists]
  refine ⟨.inl now, fun b _ => ⟨.inl (written b), fun fault _ => ?_⟩⟩
  have ends := (written b).update { o with finalizers := o.finalizers ++ [finalizer] } isNs isName
    (by simp) fault
  exact along_ofExcept (.inl ends) ends

/-- Every point of a reconcile is accounted for. -/
theorem through_reconcile {w : World} (found : w.object? ns name = some o)
    (made : groupFromSpec o = .ok g) (action : o.spec.action = .failover)
    (unforced : o.spec.force = false) :
    R.through (Accounted ns name o g.targetBackend) (reconcile appliances ns name)
      (fun _ _ => True) (w, []) := by
  obtain ⟨different, -, -⟩ := groupFromSpec_ok made
  obtain ⟨isNs, isName⟩ : o.ns = ns ∧ o.name = name := by
    have here : isObject ns name o = true := List.find?_some found
    simpa [isObject] using here
  have silent : ∀ fault, ∀ x ∈ ([] : List (Call × Fault)) ++ [(Call.get ns name, fault)],
      Quiet g.targetBackend x.1 := silent_snoc (by simp) id
  unfold reconcile
  refine along_bind (P := fun r t => (∃ fault, t = (w, [] ++ [(Call.get ns name, fault)])) ∧
    ∀ a, r = .ok a → a = some o) ?_ (fun _ _ _ _ => trivial) ?_
  · refine along_issue (.inl (by simp)) fun fault _ => ?_
    cases fault with
    | none =>
      refine ⟨.inl (silent _), ⟨.none, rfl⟩, ?_⟩
      intro a same
      cases same
      exact found
    | refused e => exact ⟨.inl (silent _), ⟨.refused e, rfl⟩, fun a wrong => by cases wrong⟩
    | lost e => exact ⟨.inl (silent _), ⟨.lost e, rfl⟩, fun a wrong => by cases wrong⟩
  rintro answer t - ⟨⟨fault, rfl⟩, same⟩
  obtain rfl := same answer rfl
  -- From here on the copy is the object itself.
  have before : ∀ b, Before ns name o g.targetBackend (logged handle b (.write o)
      (w, [] ++ [(Call.get ns name, fault)])).2 := by
    exact fun b => ⟨⟨⟨o, found, rfl⟩, rfl, ⟨isNs, isName⟩, rfl⟩, silent_snoc (silent fault) id b, rfl⟩
  refine ⟨.inl (silent fault), fun b _ => ?_⟩
  rw [made]
  show R.through _ (if o.deleting then _ else _) _ _
  split_ifs with deleting
  · refine through_quiet (emits_finalize appliances (fun op => (source_quiet different op).2)
      (fun _ => id) (fun _ => id) fun c other => quiet_of_other other) (before b).silent
  · refine along_bind (along_weaken (through_addFinalizer (before b) rfl)
      fun t underway => underway.accounted) (fun _ _ _ _ => trivial) ?_
    exact fun _ t _ now => through_converge made action unforced now

/-- A reconcile that serves an unforced failover and is stopped after `n` calls, one of which promotes:
after a restart the next failover leaves the group alone, whatever fails then, exactly if a status was
written in those calls. -/
theorem interrupted_failover_iff {w : World} {faults : List Fault} {n : Nat}
    (found : w.object? ns name = some o) (made : groupFromSpec o = .ok g)
    (action : o.spec.action = .failover) (unforced : o.spec.force = false)
    (promoting : ∃ x ∈ (Prog.log World.handle (Reconciler.reconcile appliances ns name) faults w).take n,
      Promotes g.targetBackend x.1) :
    ∃ p, (Prog.stopped World.handle n (Reconciler.reconcile appliances ns name) faults w).object? ns name =
        some p ∧
      ∀ later, Remembered (Reconciler.manager appliances) g later
          ((Prog.stopped World.handle n (Reconciler.reconcile appliances ns name) faults w).restarted p) ↔
        ((Prog.log World.handle (Reconciler.reconcile appliances ns name) faults w).take n).any persists =
          true := by
  obtain ⟨-, members, -⟩ := groupFromSpec_ok made
  have stops := along_stopped (through_reconcile found made action unforced :
    R.through _ (reconcile appliances ns name) _ _)
    (chosen_of_forall (fun _ _ _ => trivial) _ faults _) n
  rw [stopped_logged, List.nil_append] at stops
  obtain silent | ⟨⟨p, there, same⟩, unwritten, fresh⟩ | ⟨wrote, p, there, beyond, readable⟩ := stops
  · obtain ⟨x, member, promotes⟩ := promoting
    exact absurd promotes (silent x member)
  · -- The object is the one the reconcile started from.
    refine ⟨p, there, fun later => iff_of_false ?_ (by simp [unwritten])⟩
    refine not_remembered_of_fresh (fun st recorded => ?_) members later
    have loaded : loadedState p.status = .ok st := recorded
    rw [loadedState_phase loaded, same]
    exact fresh
  · refine ⟨p, there, fun later => iff_of_true ?_ wrote⟩
    obtain ⟨st, loaded⟩ := readable_iff.mp readable
    have phase : st.phase.over = true := by
      rw [loadedState_phase loaded]
      exact beyond
    have recorded : (manager appliances).store.recorded g.name
        ((stopped handle n (reconcile appliances ns name) faults w).restarted p) = .ok st := loaded
    exact remembered_of_over recorded phase later

end

def asked : StorageProtectionGroup where
  ns := "prod"
  name := "payments"
  spec := {
    sourceBackend := "nas1"
    targetBackend := "nas2"
    volumeHandles := ["nas1/nfs/Pool0/k8s/pvc-1"]
    sshCredentialID := 3
    reverseSSHCredentialID := 5
    action := .failover }

def askedWorld : World := { replicatedPair with objects := [asked] }

theorem asked_group : ∃ g, groupFromSpec asked = .ok g ∧ g.targetBackend = "nas2" := by
  have made : (groupFromSpec asked).toOption.map (·.targetBackend) = some "nas2" := by decide
  cases group : groupFromSpec asked with
  | error e =>
    rw [group] at made
    cases made
  | ok g =>
    rw [group] at made
    exact ⟨g, rfl, Option.some.inj made⟩

/-- A reconcile that ran to its end is remembered. -/
theorem finished_failover_remembered : ∃ g p, groupFromSpec asked = .ok g ∧
    ∀ later, Remembered (Reconciler.manager Pair.registry) g later
      ((Prog.stopped World.handle 39 (Reconciler.reconcile Pair.registry "prod" "payments") []
        askedWorld).restarted p) := by
  obtain ⟨g, made, target⟩ := asked_group
  have found : askedWorld.object? "prod" "payments" = some asked := rfl
  have promoting : ∃ x ∈ (log handle (reconcile Pair.registry "prod" "payments") []
      askedWorld).take 39, Promotes g.targetBackend x.1 := by
    rw [target]
    decide
  obtain ⟨p, -, remembered⟩ := interrupted_failover_iff found made rfl rfl promoting
  exact ⟨g, p, made, fun later => (remembered later).mpr (by decide)⟩

/-- A stop after the first promotion leaves no trace. -/
theorem failover_forgotten : ¬ ∀ (appliances : Backend.Registry) (ns name : String)
    (o p : StorageProtectionGroup) (g : Group) (w : World) (faults later : List Fault) (n : Nat),
    w.object? ns name = some o → groupFromSpec o = .ok g → o.spec.action = .failover →
    o.spec.force = false →
    (∃ x ∈ (Prog.log World.handle (Reconciler.reconcile appliances ns name) faults w).take n,
      Promotes g.targetBackend x.1) →
    (Prog.stopped World.handle n (Reconciler.reconcile appliances ns name) faults w).object? ns name =
      some p →
    Remembered (Reconciler.manager appliances) g later
      ((Prog.stopped World.handle n (Reconciler.reconcile appliances ns name) faults w).restarted p) := by
  intro remembered
  obtain ⟨g, made, target⟩ := asked_group
  obtain ⟨-, members, -⟩ := groupFromSpec_ok made
  have phase : ((stopped handle 29 (reconcile Pair.registry "prod" "payments") []
      askedWorld).object? "prod" "payments").map (·.status.phase) = some .unknown := by decide
  cases there : (stopped handle 29 (reconcile Pair.registry "prod" "payments") []
      askedWorld).object? "prod" "payments" with
  | none =>
    rw [there] at phase
    cases phase
  | some p =>
    rw [there] at phase
    have unknown : p.status.phase = .unknown := Option.some.inj phase
    refine not_remembered_of_fresh ?_ members [] (remembered Pair.registry "prod" "payments" asked p g
      askedWorld [] [] 29 rfl made rfl rfl (by rw [target]; decide) there)
    intro st recorded
    have loaded : loadedState p.status = .ok st := recorded
    rw [loadedState_phase loaded, unknown]
    rfl

end TruenasCsi.Replication
