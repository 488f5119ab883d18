import TruenasCsi.Migration.Migrator

/-! Planning only reads. -/

namespace TruenasCsi.Migration

open Prog

abbrev G.Looks {α : Type} (p : G α) : Prop :=
  p.Emits (fun _ _ => True) Call.Reads

section

theorem looks_issue {c : Call} (reads : c.Reads) : G.Looks (Prog.issue c) :=
  emits_issue.mpr reads

theorem looks_endpoint (ns name : String) : G.Looks (endpoint ns name) := by
  have hint : ∀ pvc : Claim, G.Looks (bindingHint pvc) := by
    intro pvc
    unfold bindingHint
    split
    · exact emits_ret
    · split_ifs
      · exact emits_ret
      · refine emits_bind (emits_attempt.mpr (looks_issue (by exact trivial))) fun answer => ?_
        cases answer with
        | error e => exact emits_ret
        | ok sc =>
          dsimp only
          split_ifs <;> exact emits_ret
  refine emits_bind (emits_mapError.mpr (looks_issue (by exact trivial))) fun pvc => ?_
  split_ifs
  · exact emits_bind (hint pvc) fun _ => emits_fail
  · exact emits_bind (emits_mapError.mpr (looks_issue (by exact trivial))) fun _ =>
      emits_ret

variable (m : Migrator) (r : Request)

theorem looks_verifyOwned (dataset : String) : G.Looks (m.verifyOwned dataset) := by
  refine emits_bind (emits_attempt.mpr (looks_issue (by exact trivial))) fun answer => ?_
  match answer with
  | .error e => exact emits_fail
  | .ok [] => exact emits_fail
  | .ok (ds :: _) => exact emits_mapError.mpr emits_ofExcept

theorem looks_plan : G.Looks (m.plan r) := by
  unfold Migrator.plan
  split_ifs
  · exact emits_fail
  · exact emits_fail
  · refine emits_bind (emits_mapError.mpr (looks_endpoint _ _)) fun src => ?_
    refine emits_bind (emits_mapError.mpr (looks_endpoint _ _)) fun dst => ?_
    refine emits_bind emits_ofExcept fun id => ?_
    refine emits_bind (looks_verifyOwned m _) fun _ => ?_
    split_ifs
    · exact emits_fail
    · exact emits_ret

theorem wp_looks {α : Type} {p : G α} (looks : G.Looks p) (w : World) :
    G.wp p (fun _ t => t = w) w :=
  Prog.Emits.wp_invariant World.handle (fun _ _ _ => trivial) looks
    (fun fault _ _ reads same => (handle_reads reads fault _).trans same) rfl

theorem yields_plan (w : World) :
    G.yields (m.plan r) (fun p t => t = w ∧ p.job = some (buildJob p)) w := by
  have untouched : G.yields (m.plan r) (fun _ t => t = w) w :=
    yields_iff_wp.mpr (wp_mono (wp_looks (looks_plan m r) w) fun _ _ same _ _ => same)
  have rendered : G.yields (m.plan r) (fun p _ => p.job = some (buildJob p)) w := by
    unfold Migrator.plan
    split_ifs
    · exact yields_fail
    · exact yields_fail
    · refine yields_bind yields_trivial fun src _ _ => ?_
      refine yields_bind yields_trivial fun dst _ _ => ?_
      refine yields_bind yields_trivial fun id _ _ => ?_
      refine yields_bind yields_trivial fun _ _ _ => ?_
      split_ifs
      · exact yields_fail
      · exact yields_ret rfl
  exact yields_and untouched rendered

end

/-- A run adds the Job of its plan, or nothing. -/
def Adds (spec : JobSpec) (w t : World) : Prop :=
  t = w ∨ w.job? spec.ns spec.name = none ∧ t = (w.createJob spec).2

variable {spec : JobSpec} {p : Plan}

theorem createJob_of_some {w : World} (stored : (w.job? spec.ns spec.name).isSome) :
    w.createJob spec = (none, w) := if_pos stored

theorem createJob_of_none {w : World} (free : w.job? spec.ns spec.name = none) :
    w.createJob spec = (some { uid := w.nextUid, spec },
      { w with jobs := w.jobs ++ [{ uid := w.nextUid, spec }], nextUid := w.nextUid + 1 }) := by
  unfold World.createJob
  rw [free]
  rfl

theorem adds_createJob (spec : JobSpec) (w : World) : Adds spec w (w.createJob spec).2 := by
  cases stored : w.job? spec.ns spec.name with
  | none => exact .inr ⟨stored, rfl⟩
  | some job =>
    left
    rw [createJob_of_some (by rw [stored]; rfl)]

theorem wp_createJob (spec : JobSpec) (w : World) :
    G.wp (createJob spec) (fun _ t => Adds spec w t) w := by
  refine wp_issue.mpr fun fault => ?_
  cases fault with
  | none => exact adds_createJob spec w
  | refused e => exact .inl rfl
  | lost e => exact adds_createJob spec w

theorem wp_adopt (p : Plan) (spec : JobSpec) (w : World) :
    G.wp (adopt p spec) (fun _ t => Adds spec w t) w := by
  have reads : ∀ (ns name : String) (f : Err → Err), G.Looks ((getJob ns name).mapError f) :=
    fun _ _ _ => emits_mapError.mpr (looks_issue (by exact trivial))
  refine wp_seq (wp_looks (reads _ _ _) w) (fun _ _ same => Or.inl same) ?_
  rintro answer t rfl
  cases answer with
  | some job => exact .inl rfl
  | none =>
    refine wp_seq (P := fun _ u => Adds spec t u)
      (wp_mapError.mpr (wp_createJob spec t)) (fun _ _ added => added) ?_
    intro answer u added
    cases answer with
    | some job => exact added
    | none =>
      refine wp_seq (wp_looks (reads _ _ _) u) (fun _ _ same => same ▸ added) ?_
      rintro answer _ rfl
      cases answer <;> exact added

theorem wp_run (rendered : p.job = some spec) (w : World) :
    G.wp (run (some p)) (fun _ t => Adds spec w t) w := by
  unfold run
  simp only [rendered]
  refine wp_seq (wp_adopt p spec w) (fun _ _ added => added) fun job t added => ?_
  split_ifs
  · exact added
  · have looks : G.Looks (summary p).attempt := emits_attempt.mpr
      (emits_bind (emits_mapError.mpr (looks_issue (by exact trivial))) fun _ =>
        emits_ofExcept)
    refine wp_seq (wp_looks looks t) (fun _ _ same => same ▸ added) ?_
    rintro read _ rfl
    exact added
  · exact added

/-- The Job and the pod a success is about. -/
structure RestsOn (p : Plan) (rep : Report) (w : World) (job : Job) (pod : Pod) : Prop where
  stored : w.job? p.ns p.jobName = some job
  complete : finished job .complete = true
  read : newestSucceeded none (w.podsOf p.ns p.jobName) = some pod
  said : ∃ message, copyMessage pod = some message ∧ parseSummary message = .ok rep.summary

theorem yields_adopt (named : spec.ns = p.ns ∧ spec.name = p.jobName)
    (w : World) : G.yields (adopt p spec)
      (fun job t => (t = w ∧ w.job? p.ns p.jobName = some job) ∨ job.conditions = []) w := by
  refine yields_bind (P := fun answer t => t = w ∧ answer = w.job? p.ns p.jobName)
    (yields_mapError (yields_issue fun a answered => ?_)) ?_
  · cases answered
    exact ⟨rfl, rfl⟩
  · rintro answer t ⟨rfl, found⟩
    cases answer with
    | some job => exact yields_ret (.inl ⟨rfl, found.symm⟩)
    | none =>
      have free : t.job? spec.ns spec.name = none := by
        rw [named.1, named.2]
        exact found.symm
      refine yields_bind (P := fun answer _ => ∃ job, answer = some job ∧ job.conditions = [])
        (yields_mapError (yields_issue fun a answered => ?_)) ?_
      · rw [show t.act (.createJob spec) = (.ok (t.createJob spec).1, (t.createJob spec).2) from rfl,
          createJob_of_none free] at answered
        cases answered
        exact ⟨_, rfl, rfl⟩
      · rintro _ u ⟨job, rfl, fresh⟩
        exact yields_ret (.inr fresh)

theorem judged_succeeded {rep : Report} {read : Except Err (Option Summary)}
    (succeeded : (judged rep read).phase = .succeeded) :
    read = .ok (judged rep read).summary ∧ Summary.check (judged rep read).summary = .ok () := by
  cases read with
  | error e => cases succeeded
  | ok summary =>
    unfold judged at succeeded ⊢
    cases checked : Summary.check summary with
    | error e =>
      simp only [checked] at succeeded
      cases succeeded
    | ok _ =>
      simp only [checked]
      exact ⟨trivial, trivial⟩

theorem summaryOf_checked {pod : Option Pod} {s : Option Summary} (read : summaryOf pod = .ok s)
    (accepted : Summary.check s = .ok ()) : ∃ p message, pod = some p ∧
      copyMessage p = some message ∧ parseSummary message = .ok s := by
  cases pod with
  | none =>
    cases read
    cases accepted
  | some p =>
    cases said : copyMessage p with
    | none =>
      simp only [summaryOf, said] at read
      cases read
      cases accepted
    | some message =>
      simp only [summaryOf, said] at read
      exact ⟨p, message, rfl, said, read⟩

theorem yields_summary (p : Plan) (w : World) : G.yields (summary p).attempt (fun read t =>
    t = w ∧ ∀ s, read = .ok s → summaryOf (newestSucceeded none (w.podsOf p.ns p.jobName)) = .ok s)
    w := by
  have looks : G.Looks (summary p) :=
    emits_bind (emits_mapError.mpr (looks_issue (by exact trivial))) fun _ =>
      emits_ofExcept
  refine yields_attempt (wp_and (wp_looks looks w) (yields_iff_wp.mp ?_))
  refine yields_bind (P := fun pods _ => pods = w.podsOf p.ns p.jobName)
    (yields_mapError (yields_issue fun a answered => ?_)) ?_
  · cases answered
    rfl
  · rintro _ t rfl
    exact yields_ofExcept fun s read => read

/-- A report of success rests on a job with the plan's name and a summary that was checked. -/
theorem yields_run (rendered : p.job = some (buildJob p)) (w : World) :
    G.yields (run (some p)) (fun rep t => rep.phase = .succeeded →
      t = w ∧ ∃ job pod, RestsOn p rep w job pod) w := by
  unfold run
  simp only [rendered]
  refine yields_bind (yields_adopt (p := p) ⟨rfl, rfl⟩ w) ?_
  intro job t adopted
  split_ifs with broken complete
  · exact yields_ret nofun
  · rcases adopted with ⟨rfl, stored⟩ | fresh
    · refine yields_bind (yields_summary p t) ?_
      rintro read _ ⟨rfl, heard⟩
      refine yields_ret fun succeeded => ⟨rfl, job, ?_⟩
      obtain ⟨same, accepted⟩ := judged_succeeded succeeded
      obtain ⟨pod, message, newest, said, parsed⟩ := summaryOf_checked (heard _ same) accepted
      exact ⟨pod, stored, complete, newest, message, said, parsed⟩
    · exfalso
      unfold finished at complete
      rw [fresh] at complete
      cases complete
  · exact yields_ret nofun

end TruenasCsi.Migration
