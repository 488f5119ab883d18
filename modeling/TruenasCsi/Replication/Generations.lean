import TruenasCsi.Replication.Marks

/-! What an object remembers of its action. -/

namespace TruenasCsi.Replication

open Prog Replication.World

namespace Reconciler

variable (appliances : Backend.Registry)

/-- How far a reconcile got. -/
inductive Course where
  | ended (result : Result)
  | attempted (g : Group) (outcome : Except Err Unit)

def course (ns name : String) : R Course := do
  match ← (Prog.issue (Call.get ns name) : R (Option StorageProtectionGroup)) with
  | none => return .ended {}
  | some spg =>
    writeCopy spg
    match groupFromSpec spg with
    | .error e => return .ended (← refuse e)
    | .ok g =>
      if spg.deleting then return .ended (← finalize appliances g)
      else do
        addFinalizer spg
        match ← (ensure appliances g).attempt with
        | .error e => return .ended (← retryable e)
        | .ok () => return .attempted g (← (applyAction appliances g).attempt)

def conclude : Course → R Result
  | .ended result => return result
  | .attempted _ (.error e) => if refused e then refuse e else retryable e
  | .attempted g (.ok ()) => do
    match ← ((manager appliances).status g).attempt with
    | .error e => retryable e
    | .ok status =>
      statusUpdate (markReconciled g status)
      return { requeueAfter := some resyncInterval }

private theorem ended_conclude (p : R Result) :
    ((p >>= fun r => Prog.ret (Course.ended r)) >>= conclude appliances) = p := by
  rw [bind_assoc]
  exact bind_ret p

theorem reconcile_eq (ns name : String) :
    reconcile appliances ns name = course appliances ns name >>= conclude appliances := by
  unfold reconcile course
  rw [bind_assoc]
  congr 1
  funext found
  cases found with
  | none => rfl
  | some spg =>
  simp only []
  rw [bind_assoc]
  congr 1
  funext _
  cases groupFromSpec spg with
  | error e => exact (ended_conclude appliances _).symm
  | ok g =>
  simp only []
  split_ifs
  · exact (ended_conclude appliances _).symm
  rw [bind_assoc]
  congr 1
  funext _
  -- What is left of both is the engine's part and the status.
  unfold converge
  rw [bind_assoc]
  congr 1
  funext ensured
  cases ensured with
  | error e => exact (ended_conclude appliances _).symm
  | ok _ =>
  simp only [pure_eq]
  rw [bind_assoc]
  congr 1
  funext outcome
  cases outcome <;> rfl

variable (g : Group) (spg : StorageProtectionGroup)

/-- An action is asked for and not marked as served. -/
def due : Bool := spg.spec.action ≠ .none && !served spg

/-- Something was refused for this generation. -/
def onRecord : Prop :=
  ∃ c ∈ spg.status.conditions, c.type = conditionRefused ∧ c.status = true ∧
    c.observedGeneration = spg.generation

theorem mem_setCondition (type : String) (status : Bool) (reason message : String) :
    ⟨type, status, reason, message, spg.generation⟩ ∈
      (setCondition spg type status reason message).status.conditions := by
  show _ ∈ setCondition.place type _ spg.status.conditions
  induction spg.status.conditions with
  | nil => exact List.mem_singleton.mpr rfl
  | cons c rest ih =>
    unfold setCondition.place
    split_ifs
    · exact List.mem_cons_self
    · exact List.mem_cons_of_mem _ ih

theorem mem_setCondition_of_ne {spg : StorageProtectionGroup} {type : String} {c : Condition}
    (member : c ∈ spg.status.conditions) (other : c.type ≠ type) (status : Bool) (reason message : String) :
    c ∈ (setCondition spg type status reason message).status.conditions := by
  show _ ∈ setCondition.place type _ spg.status.conditions
  revert member
  generalize spg.status.conditions = conditions
  intro member
  induction conditions with
  | nil => cases member
  | cons first rest ih =>
    unfold setCondition.place
    rcases List.mem_cons.mp member with rfl | later
    · rw [if_neg other]
      exact List.mem_cons_self
    · split_ifs
      · exact List.mem_cons_of_mem _ later
      · exact List.mem_cons_of_mem _ (ih later)

theorem onRecord_markRefused (text : String) (spg : StorageProtectionGroup) :
    onRecord (markRefused text spg) := by
  refine ⟨_, mem_setCondition_of_ne (mem_setCondition _ _ _ _ _) ?_ _ _ _, rfl, rfl, rfl⟩
  show conditionRefused ≠ conditionReady
  decide

theorem onRecord_markFailed {spg : StorageProtectionGroup} (recorded : onRecord spg) (text : String) :
    onRecord (markFailed text spg) := by
  obtain ⟨c, member, type, status, generation⟩ := recorded
  refine ⟨c, mem_setCondition_of_ne member ?_ _ _ _, type, status, generation⟩
  rw [type]
  decide

theorem onRecord_of_sameMarks {a b : StorageProtectionGroup} (same : SameMarks a b)
    (recorded : onRecord a) : onRecord b := by
  unfold onRecord
  rwa [same.conditions, same.generation]

theorem served_of_sameMarks {a b : StorageProtectionGroup} (same : SameMarks a b) :
    served b = served a := by
  unfold served
  rw [same.lastAction, same.lastActionGeneration, same.spec, same.generation]

theorem served_markServed : served (markServed spg.spec.action spg) = true := by
  simp [served, markServed]

def StatusHeard (fault : Fault) (c : Call) (_ : World) : Prop :=
  ∀ spg, c = .updateStatus spg → ∀ e, fault ≠ .refused e

/-- What holds after such a run. -/
abbrev heard {α : Type} (p : R α) (Q : Except Err α → World → Prop) (w : World) : Prop :=
  Prog.along handle StatusHeard (fun _ => True) p Q w

/-- At most one object of a name, with a property. -/
def Left (ns name : String) (P : StorageProtectionGroup → Prop) (w : World) : Prop :=
  w.stored ns name = [] ∨ ∃ s, w.stored ns name = [s] ∧ P s

variable {P : StorageProtectionGroup → Prop} {w : World}

theorem Left.mono {ns name : String} {Q : StorageProtectionGroup → Prop}
    (left : Left ns name P w) (weaker : ∀ s, P s → Q s) : Left ns name Q w :=
  left.imp id fun ⟨s, stored, holds⟩ => ⟨s, stored, weaker s holds⟩

variable {ns name : String}

theorem heard_statusUpdate {f : StorageProtectionGroup → StorageProtectionGroup}
    (isNs : (f w.copy).ns = ns) (isName : (f w.copy).name = name) (left : Left ns name P w) :
    heard (statusUpdate f) (fun _ t =>
      Left ns name (fun s => ∃ old, P old ∧ s = { old with status := (f w.copy).status }) t) w := by
  have written : Left ns name (fun s => ∃ old, P old ∧ s = { old with status := (f w.copy).status })
      ({ w with copy := f w.copy }.statusUpdated (f w.copy)) := by
    have same := stored_statusUpdated { w with copy := f w.copy } (f w.copy)
    rw [isNs, isName] at same
    obtain none | ⟨old, one, holds⟩ := left
    · left
      rw [same, show stored { w with copy := f w.copy } ns name = [] from none]
      rfl
    · right
      refine ⟨{ old with status := (f w.copy).status }, ?_, old, holds, rfl⟩
      rw [same, show stored { w with copy := f w.copy } ns name = [old] from one]
      rfl
  refine ⟨trivial, fun a _ => ⟨trivial, fun b _ => ⟨trivial, fun fault allowed => ?_⟩⟩⟩
  refine along_ofExcept trivial ?_
  rw [handle_updateStatus (allowed _ rfl)]
  exact written

/-- The same request: nobody has changed the spec. -/
structure SameRequest (o s : StorageProtectionGroup) : Prop where
  generation : s.generation = o.generation
  spec : s.spec = o.spec

/-- A later state, with nothing forgotten. -/
structure Spared (o s : StorageProtectionGroup) : Prop extends SameRequest o s where
  lastAction : s.status.lastAction = o.status.lastAction
  lastActionGeneration : s.status.lastActionGeneration = o.status.lastActionGeneration
  recorded : onRecord o → onRecord s

theorem Spared.refl (o : StorageProtectionGroup) : Spared o o := ⟨⟨rfl, rfl⟩, rfl, rfl, id⟩

theorem SameRequest.refl (o : StorageProtectionGroup) : SameRequest o o := ⟨rfl, rfl⟩

variable {o : StorageProtectionGroup} {outcome : Except Err Unit} {c : StorageProtectionGroup}

theorem heard_refuse (e : Err) (isNs : o.ns = ns) (isName : o.name = name)
    (marks : SameMarks o w.copy) (left : Left ns name (SameRequest o) w) :
    heard (refuse e) (fun _ t => Left ns name (fun s => Spared o s ∧ onRecord s) t) w := by
  have told : heard (statusUpdate (markRefused e.text)) (fun _ t =>
      Left ns name (fun s => Spared o s ∧ onRecord s) t) w := by
    refine along_mono (heard_statusUpdate (marks.ns.trans isNs) (marks.name.trans isName) left) ?_
    rintro r t - told
    refine told.mono ?_
    rintro s ⟨old, same, rfl⟩
    have recorded : onRecord { old with status := (markRefused e.text w.copy).status } := by
      obtain ⟨c, member, type, status, generation⟩ := onRecord_markRefused e.text w.copy
      refine ⟨c, member, type, status, generation.trans ?_⟩
      exact marks.generation.trans same.generation.symm
    exact ⟨⟨⟨same.generation, same.spec⟩, marks.lastAction, marks.lastActionGeneration,
      fun _ => recorded⟩, recorded⟩
  exact along_bind told (fun _ _ _ ends => ends) fun _ t _ ends => along_ret trivial ends

theorem heard_retryable (e : Err) (isNs : o.ns = ns) (isName : o.name = name)
    (marks : SameMarks o w.copy) (left : Left ns name (SameRequest o) w) :
    heard (retryable e) (fun _ t => Left ns name (Spared o) t) w := by
  have told : heard (statusUpdate (markFailed e.text)) (fun _ t => Left ns name (Spared o) t) w := by
    refine along_mono (heard_statusUpdate (marks.ns.trans isNs) (marks.name.trans isName) left) ?_
    rintro r t - told
    refine told.mono ?_
    rintro s ⟨old, same, rfl⟩
    refine ⟨⟨same.generation, same.spec⟩, marks.lastAction, marks.lastActionGeneration, fun recorded => ?_⟩
    obtain ⟨c, member, type, status, generation⟩ :=
      onRecord_markFailed (onRecord_of_sameMarks marks recorded) e.text
    refine ⟨c, member, type, status, generation.trans ?_⟩
    exact marks.generation.trans same.generation.symm
  exact along_bind told (fun _ _ _ ends => ends) fun _ t _ ends => along_fail trivial ends

/-- The action is done, and nobody knows yet. -/
structure Attempted (ns name : String) (o : StorageProtectionGroup) (outcome : Except Err Unit)
    (t : World) : Prop where
  marks : SameMarks (if due o && outcome.isOk then markServed o.spec.action o else o) t.copy
  stored : Left ns name (fun s => SameRequest o s) t

/-- Whatever the reconcile has come to. -/
def After (ns name : String) (o : StorageProtectionGroup) : Except Err Course → World → Prop
  | .ok (.attempted _ outcome), t => Attempted ns name o outcome t
  | .ok (.ended _), t => Left ns name (Spared o) t
  | .error _, t => Left ns name (Spared o) t

theorem left_of_objects {t : World} (same : t.objects = w.objects)
    (left : Left ns name P w) : Left ns name P t := by
  unfold Left stored at *
  rwa [same]

theorem heard_applyAction (marks : SameMarks o w.copy) (left : Left ns name (SameRequest o) w) :
    heard (applyAction appliances g).attempt (fun r t => ∃ outcome, r = .ok outcome ∧
      Attempted ns name o outcome t) w := by
  refine along_attempt (along_bind (P := fun r t => r = .ok w.copy ∧ t = w)
    (along_issue trivial fun _ _ => ⟨trivial, rfl, rfl⟩) ?_ ?_)
  · rintro e t - ⟨wrong, -⟩
    cases wrong
  rintro spg t - ⟨same, rfl⟩
  cases same
  by_cases idle : t.copy.spec.action = .none ∨ served t.copy = true
  · -- Nothing is to be served.
    rw [if_pos idle]
    refine along_ret trivial ⟨_, rfl, ?_, left⟩
    have notDue : due o = false := by
      rw [marks.spec, served_of_sameMarks marks] at idle
      rcases idle with none | done
      · simp [due, none]
      · simp [due, done]
    rw [notDue]
    exact marks
  · show heard (if _ then _ else _) _ _
    rw [if_neg idle]
    have isDue : due o = true := by
      rw [marks.spec, served_of_sameMarks marks, not_or] at idle
      simp [due, idle.1, idle.2]
    refine along_bind (along_of_wp_any
      (keeps_serve appliances g _ _ t ⟨marks, rfl⟩ : R.wp _ (fun _ u => Marked o t.objects u) t)) ?_ ?_
    · rintro e u - ⟨kept, same⟩
      refine ⟨_, rfl, ?_, left_of_objects same left⟩
      rw [isDue]
      exact kept
    · rintro _ u - ⟨kept, same⟩
      -- The mark is set in the copy, next to whatever the action has recorded there.
      refine ⟨trivial, fun _ _ => ⟨trivial, fun _ _ => along_ofExcept trivial ⟨_, rfl, ?_, ?_⟩⟩⟩
      · rw [isDue]
        exact ⟨kept.ns, kept.name, kept.generation, kept.spec, marks.spec ▸ rfl, kept.generation,
          kept.conditions⟩
      · exact left_of_objects same left

theorem left_updated (isNs : spg.ns = ns) (isName : spg.name = name) (spec : spg.spec = o.spec)
    (kept : ∀ s fins, P s → P { s with finalizers := fins, spec := o.spec })
    (left : Left ns name P w) (fault : Fault) :
    Left ns name P (handle fault (.update spg) w).2 := by
  obtain same | same := handle_update fault spg w
  · rw [same]
    exact left
  rw [same]
  have stored := stored_updated w spg
  rw [isNs, isName, spec] at stored
  obtain none | ⟨s, one, holds⟩ := left
  · left
    rw [stored, none]
    rfl
  · rw [one] at stored
    cases gone : (s.deleting && spg.finalizers == []) with
    | true =>
      simp only [List.filterMap_cons, List.filterMap_nil, gone, if_true] at stored
      exact .inl stored
    | false =>
      simp only [List.filterMap_cons, List.filterMap_nil, gone, Bool.false_eq_true, if_false] at stored
      exact .inr ⟨_, stored, kept s _ holds⟩

theorem heard_addFinalizer (isNs : o.ns = ns) (isName : o.name = name)
    (copied : w.copy = o) (left : Left ns name (SameRequest o) w)
    (spared : Left ns name (Spared o) w) :
    heard (addFinalizer o) (fun _ t => SameMarks o t.copy ∧ Left ns name (SameRequest o) t ∧
      Left ns name (Spared o) t) w := by
  unfold addFinalizer
  split_ifs with held
  · refine along_ret trivial ⟨?_, left, spared⟩
    rw [copied]
    exact .refl o
  · refine ⟨trivial, fun _ _ => ⟨trivial, fun fault _ => along_ofExcept trivial ⟨?_, ?_, ?_⟩⟩⟩
    · rw [handle_update_copy]
      exact ⟨rfl, rfl, rfl, rfl, rfl, rfl, rfl⟩
    · refine left_updated { o with finalizers := o.finalizers ++ [finalizer] } isNs isName rfl
        (fun s fins same => ⟨same.generation, rfl⟩) ?_ fault
      exact left
    · refine left_updated { o with finalizers := o.finalizers ++ [finalizer] } isNs isName rfl
        (fun s fins spared => ?_) ?_ fault
      · exact ⟨⟨spared.generation, rfl⟩, spared.lastAction, spared.lastActionGeneration, spared.recorded⟩
      · exact spared

theorem heard_finalize (isNs : o.ns = ns) (isName : o.name = name)
    (marks : SameMarks o w.copy) (left : Left ns name (SameRequest o) w)
    (spared : Left ns name (Spared o) w) :
    heard (finalize appliances g) (fun _ t => Left ns name (Spared o) t) w := by
  refine along_bind (P := fun r t => r = .ok w.copy ∧ t = w)
    (along_issue trivial fun _ _ => ⟨trivial, rfl, rfl⟩) ?_ ?_
  · rintro e t - ⟨wrong, -⟩
    cases wrong
  rintro spg t - ⟨same, rfl⟩
  cases same
  by_cases held : finalizer ∉ t.copy.finalizers
  · show heard (if _ then _ else _) _ _
    rw [if_pos held]
    exact along_ret trivial spared
  show heard (if _ then _ else _) _ _
  rw [if_neg held]
  refine along_attempt_seq (along_of_wp_any
    (keeps_delete appliances g _ t ⟨marks, rfl⟩ : R.wp _ (fun _ u => Marked o t.objects u) t)) ?_
  rintro r u - ⟨kept, same⟩
  cases r with
  | error e =>
    show heard (if _ then _ else _) _ _
    split_ifs
    · refine along_mono (heard_refuse e isNs isName kept (left_of_objects same left)) ?_
      exact fun _ _ _ ends => ends.mono fun _ both => both.1
    · exact heard_retryable e isNs isName kept (left_of_objects same left)
  | ok _ =>
    refine ⟨trivial, fun _ _ => ⟨trivial, fun _ _ => ⟨trivial, fun fault _ => ?_⟩⟩⟩
    have ends : Left ns name (Spared o) (handle fault (.update { u.copy with
        finalizers := u.copy.finalizers.filter (· ≠ finalizer) }) { u with copy := { u.copy with
        finalizers := u.copy.finalizers.filter (· ≠ finalizer) } }).2 := by
      refine left_updated { u.copy with finalizers := u.copy.finalizers.filter (· ≠ finalizer) }
        (kept.ns.trans isNs) (kept.name.trans isName) kept.spec (fun s fins spared => ?_)
        ?_ fault
      · exact ⟨⟨spared.generation, rfl⟩, spared.lastAction, spared.lastActionGeneration, spared.recorded⟩
      · exact left_of_objects (w := t) same spared
    refine along_bind (P := fun _ v => Left ns name (Spared o) v) (along_ofExcept trivial ends)
      (fun _ _ _ ends => ends) ?_
    exact fun _ v _ ends => along_ret trivial ends

/-- If statuses are written, the object remembers what its reconcile did. -/
theorem heard_course (alone : w.stored ns name = [o]) :
    heard (course appliances ns name) (After ns name o) w := by
  have found : w.object? ns name = some o := by
    rw [object?_eq_head, alone]
    rfl
  obtain ⟨isNs, isName⟩ : o.ns = ns ∧ o.name = name := by
    have member : o ∈ w.stored ns name := by simp [alone]
    have isIt := (List.mem_filter.mp member).2
    simpa [isObject] using isIt
  have request : Left ns name (SameRequest o) w := .inr ⟨o, alone, .refl o⟩
  have spared : Left ns name (Spared o) w := .inr ⟨o, alone, .refl o⟩
  unfold course
  refine along_bind (P := fun r t => t = w ∧ ((∃ e, r = .error e) ∨ r = .ok (some o))) ?_ ?_ ?_
  · refine along_issue trivial fun fault _ => ⟨trivial, ?_⟩
    cases fault with
    | none => exact ⟨rfl, .inr (by rw [← found]; rfl)⟩
    | refused e => exact ⟨rfl, .inl ⟨_, rfl⟩⟩
    | lost e => exact ⟨rfl, .inl ⟨_, rfl⟩⟩
  · rintro e t - ⟨rfl, -⟩
    exact spared
  rintro answer t - ⟨rfl, ⟨e, wrong⟩ | same⟩
  · cases wrong
  cases same
  refine along_bind (P := fun r u => r = .ok () ∧ u = { t with copy := o })
    (along_issue trivial fun _ _ => ⟨trivial, rfl, rfl⟩) ?_ ?_
  · rintro e u - ⟨wrong, -⟩
    cases wrong
  rintro _ u - ⟨-, rfl⟩
  -- The copy is the object as it was read.
  have copied : SameMarks o { t with copy := o }.copy := .refl o
  cases groupFromSpec o with
  | error e =>
    refine along_bind (heard_refuse e isNs isName copied (left_of_objects rfl request)) ?_ ?_
    · exact fun _ _ _ ends => ends.mono fun _ both => both.1
    · exact fun _ v _ ends => along_ret trivial (ends.mono fun _ both => both.1)
  | ok g =>
  split_ifs
  · refine along_bind (heard_finalize appliances g isNs isName copied (left_of_objects rfl request)
      (left_of_objects rfl spared)) (fun _ _ _ ends => ends) ?_
    exact fun _ v _ ends => along_ret trivial ends
  refine along_bind (heard_addFinalizer isNs isName rfl (left_of_objects rfl request)
    (left_of_objects rfl spared)) (fun _ _ _ ends => ends.2.2) ?_
  rintro _ u - ⟨marks, request', spared'⟩
  have ensured : R.wp (ensure appliances g) (fun _ v => Marked o u.objects v) u := by
    refine keeps_bind (keeps_mapError (keeps_create appliances g) _) (fun _ => keeps_ret) u ?_
    exact ⟨marks, rfl⟩
  refine along_attempt_seq (along_of_wp_any ensured) ?_
  rintro r v - ⟨kept, same⟩
  cases r with
  | error e =>
    refine along_bind (heard_retryable e isNs isName kept (left_of_objects same request'))
      (fun _ _ _ ends => ends) ?_
    exact fun _ x _ ends => along_ret trivial ends
  | ok _ =>
    refine along_bind (heard_applyAction appliances g kept (left_of_objects same request')) ?_ ?_
    · rintro e x - ⟨outcome, wrong, -⟩
      cases wrong
    · rintro outcome x - ⟨outcome', same', attempted⟩
      cases same'
      exact along_ret trivial attempted

/-- What the object remembers then. -/
structure Concluded (o : StorageProtectionGroup) (outcome : Except Err Unit)
    (s : StorageProtectionGroup) : Prop extends SameRequest o s where
  served : served o = true ∨ (due o && outcome.isOk) = true → served s = true
  refused : ∀ e, outcome = .error e → refused e = true → onRecord s
  recorded : outcome.isOk = false → onRecord o → onRecord s

theorem served_of_marks
    (marks : SameMarks (if due o && outcome.isOk then markServed o.spec.action o else o) c)
    (done : served o = true ∨ (due o && outcome.isOk) = true) : served c = true := by
  rw [served_of_sameMarks marks]
  split_ifs with carried
  · exact served_markServed o
  · exact done.resolve_right carried

theorem served_of_status {s : StorageProtectionGroup} (request : SameRequest c s)
    (action : s.status.lastAction = c.status.lastAction)
    (generation : s.status.lastActionGeneration = c.status.lastActionGeneration) : served s = served c := by
  unfold served
  rw [request.spec, request.generation, action, generation]

theorem heard_conclude (isNs : o.ns = ns)
    (isName : o.name = name) (attempted : Attempted ns name o outcome w) :
    heard (conclude appliances (.attempted g outcome)) (fun _ t =>
      Left ns name (Concluded o outcome) t) w := by
  obtain ⟨marks, left⟩ := attempted
  cases outcome with
  | error e =>
    have notOk : (Except.error e : Except Err Unit).isOk = false := rfl
    rw [notOk, Bool.and_false] at marks
    have ended {s : StorageProtectionGroup} (spared : Spared o s) (recorded : refused e = true → onRecord s) :
        Concluded o (.error e) s := by
      refine ⟨spared.toSameRequest, fun done => ?_, ?_, fun _ => spared.recorded⟩
      · rw [notOk, Bool.and_false] at done
        rw [served_of_status spared.toSameRequest spared.lastAction spared.lastActionGeneration]
        exact done.resolve_right (by simp)
      · rintro e' same isRefused
        cases same
        exact recorded isRefused
    show heard (if _ then _ else _) _ _
    split_ifs with isRefused
    · refine along_mono (heard_refuse e isNs isName marks left) ?_
      exact fun _ _ _ left => left.mono fun s both => ended both.1 fun _ => both.2
    · refine along_mono (heard_retryable e isNs isName marks left) ?_
      exact fun _ _ _ left => left.mono fun s spared => ended spared fun wrong => absurd wrong isRefused
  | ok _ =>
    have isOk : (Except.ok () : Except Err Unit).isOk = true := rfl
    -- Whatever is written now has the marks of the copy.
    have ended {c s : StorageProtectionGroup} (request : SameRequest o s)
        (same : SameMarks (if due o && (Except.ok () : Except Err Unit).isOk then
          markServed o.spec.action o else o) c)
        (action : s.status.lastAction = c.status.lastAction)
        (generation : s.status.lastActionGeneration = c.status.lastActionGeneration) :
        Concluded o (.ok ()) s := by
      refine ⟨request, fun done => ?_, ?_, ?_⟩
      · have marked := served_of_marks same done
        have sameRequest : SameRequest c s := by
          constructor
          · rw [request.generation, same.generation]
            split_ifs <;> rfl
          · rw [request.spec, same.spec]
            split_ifs <;> rfl
        rw [served_of_status sameRequest action generation]
        exact marked
      · rintro e wrong
        cases wrong
      · nofun
    have named {c : StorageProtectionGroup} (same : SameMarks (if due o && (Except.ok () : Except Err
        Unit).isOk then markServed o.spec.action o else o) c) : c.ns = ns ∧ c.name = name := by
      rw [same.ns, same.name]
      split_ifs
      · exact ⟨isNs, isName⟩
      · exact ⟨isNs, isName⟩
    refine along_attempt_seq (along_of_wp_any
      (keeps_status appliances g w ⟨marks, rfl⟩ : R.wp _ (fun _ u => Marked _ w.objects u) w)) ?_
    rintro r u - ⟨kept, same⟩
    have left' : Left ns name (SameRequest o) u := left_of_objects same left
    cases r with
    | error e =>
      refine along_bind (heard_statusUpdate (named kept).1 (named kept).2 left') ?_ ?_
      · refine fun _ _ _ told => told.mono ?_
        rintro s ⟨old, request, rfl⟩
        exact ended ⟨request.generation, request.spec⟩ kept rfl rfl
      · refine fun _ _ _ told => along_fail trivial (told.mono ?_)
        rintro s ⟨old, request, rfl⟩
        exact ended ⟨request.generation, request.spec⟩ kept rfl rfl
    | ok status =>
      refine along_bind (heard_statusUpdate (named kept).1 (named kept).2 left') ?_ ?_
      · refine fun _ _ _ told => told.mono ?_
        rintro s ⟨old, request, rfl⟩
        exact ended ⟨request.generation, request.spec⟩ kept rfl rfl
      · refine fun _ _ _ told => along_ret trivial (told.mono ?_)
        rintro s ⟨old, request, rfl⟩
        exact ended ⟨request.generation, request.spec⟩ kept rfl rfl

end Reconciler

end TruenasCsi.Replication
