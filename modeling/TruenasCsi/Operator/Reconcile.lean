import TruenasCsi.Upgrade

/-! Reconciling the driver: a requested version is checked against the one on record, its objects
are applied, and once nothing is in flight it is recorded in turn. -/

namespace TruenasCsi.Operator

open Upgrade (Table Semver numbered)

inductive Reason where
  | secretMissing
  | versionSkew
  | upgradeNotSupported
  | renderFailed
  | applyFailed
  | rollingOut
  | rotatingCredentials
  | backendUnreachable
  | reconciled
deriving DecidableEq

/-- What one reconcile meets. -/
structure Round where
  tag : String
  credentials : Option Err := none
  skew : Option Err := none
  /-- The rendered objects, by kind and name. -/
  objects : Except Err (List String) := .ok []
  ensureNamespace : Option Err := none
  apply : String → Option Err := fun _ => none
  /-- What is still in flight. -/
  progressing : Except Err String := .ok ""
  rotating : Bool := false
  unreachable : List String := []
  patch : Option Err := none

structure Outcome where
  /-- The objects that were sent to the cluster. -/
  applied : List String := []
  /-- The version that finished rolling out, recorded or not. -/
  finished : Option String := none
  /-- The annotation of the resource afterwards. -/
  previousVersion : String
  condition : Option (Reason × String) := none
  error : Option Err := none

def applyAll (apply : String → Option Err) : List String → List String × Option (String × Err)
  | [] => ([], none)
  | obj :: rest =>
    match apply obj with
    | some e => ([obj], some (obj, e))
    | none => (obj :: (applyAll apply rest).1, (applyAll apply rest).2)

/-- The annotation, or why there is none. -/
def recordAppliedVersion (previous applied : String) (patch : Option Err) : Except Err String :=
  if applied = "" ∨ previous = applied then .ok previous
  else match patch with
    | some e => .error (e.wrap ("record applied version " ++ applied ++ ": "))
    | none => .ok applied

def driverVersion (appVersion : String) (r : Round) : String := if r.tag = "" then appVersion else r.tag

/-- Checked, applied, waited for, recorded. -/
def reconcile {V : Type} (sv : Semver V) (t : Table) (appVersion previous : String) (r : Round) :
    Outcome :=
  let version := driverVersion appVersion r
  let kept : Outcome := { previousVersion := previous }
  match r.credentials with
  | some e => { kept with condition := some (.secretMissing, e.text) }
  | none =>
  match r.skew with
  | some e => { kept with condition := some (.versionSkew, e.text) }
  | none =>
  match t.check sv previous version with
  | .error e => { kept with condition := some (.upgradeNotSupported, e.text) }
  | .ok () =>
  match r.objects with
  | .error e => { kept with condition := some (.renderFailed, e.text) }
  | .ok objs =>
  match r.ensureNamespace with
  | some e => { kept with condition := some (.applyFailed, e.text), error := some e }
  | none =>
  let (sent, refused) := applyAll r.apply objs
  let sent : Outcome := { kept with applied := sent }
  match refused with
  | some (obj, e) =>
    let msg := "apply " ++ obj ++ ": " ++ e.text
    { sent with condition := some (.applyFailed, msg), error := some (.plain msg) }
  | none =>
  match r.progressing with
  | .error e => { sent with error := some e }
  | .ok "" =>
    let done : Outcome := { sent with finished := if version = "" then none else some version }
    match recordAppliedVersion previous version r.patch with
    | .error e => { done with error := some e }
    | .ok annotation => { done with
        previousVersion := annotation
        condition := some (if r.unreachable = [] then
          (.reconciled, "driver " ++ version ++ " applied and healthy")
          else (.backendUnreachable, "backend(s) unreachable: [" ++ Text.join " " r.unreachable ++ "]")) }
  | .ok progressing => { sent with
      condition := some (if r.rotating then .rotatingCredentials else .rollingOut, progressing) }

/-- The version a round put on record: it finished, and the write went through. -/
def Outcome.recorded (o : Outcome) : Option String := if o.error.isNone then o.finished else none

variable {V : Type} {sv : Semver V} {t : Table} {appVersion previous : String} {r : Round}

theorem recordAppliedVersion_ok {applied annotation : String} {patch : Option Err}
    (done : recordAppliedVersion previous applied patch = .ok annotation) :
    annotation = (if applied = "" then none else some applied).getD previous := by
  unfold recordAppliedVersion at done
  split_ifs at done with nothing
  · rcases nothing with nameless | same
    · simp_all
    · by_cases nameless : applied = "" <;> simp_all
  · have named : applied ≠ "" := fun same => nothing (.inl same)
    cases patch <;> simp_all

/-- The annotation is what was recorded last, and what is applied was allowed from it. -/
theorem reconcile_spec :
    (reconcile sv t appVersion previous r).previousVersion =
      ((reconcile sv t appVersion previous r).recorded).getD previous ∧
    ((reconcile sv t appVersion previous r).applied ≠ [] →
      t.check sv previous (driverVersion appVersion r) = .ok ()) := by
  unfold reconcile
  dsimp only
  cases r.credentials with
  | some e => simp [Outcome.recorded]
  | none =>
  cases r.skew with
  | some e => simp [Outcome.recorded]
  | none =>
  cases allowed : t.check sv previous (driverVersion appVersion r) with
  | error e => simp [Outcome.recorded]
  | ok u =>
  refine ⟨?_, fun _ => rfl⟩
  cases r.objects with
  | error e => rfl
  | ok objs =>
  cases r.ensureNamespace with
  | some e => rfl
  | none =>
  dsimp only
  cases (applyAll r.apply objs).2 with
  | some refused => rfl
  | none =>
  dsimp only
  split
  · rfl
  · cases recorded : recordAppliedVersion previous (driverVersion appVersion r) r.patch with
    | error e => rfl
    | ok annotation => exact recordAppliedVersion_ok recorded
  · rfl

def run {V : Type} (sv : Semver V) (t : Table) (appVersion previous : String) :
    List Round → List (Round × Outcome)
  | [] => []
  | r :: rest =>
    (r, reconcile sv t appVersion previous r) ::
      run sv t appVersion (reconcile sv t appVersion previous r).previousVersion rest

/-- The version that last finished rolling out, or `first`. -/
def lastFinished (first : String) (done : List (Round × Outcome)) : String :=
  done.foldl (fun last x => x.2.finished.getD last) first

/-- The version that last finished and was recorded, or `first`. -/
def lastRecorded (first : String) (done : List (Round × Outcome)) : String :=
  done.foldl (fun last x => x.2.recorded.getD last) first

/-- The versions whose objects were applied since a version last finished. -/
def appliedSince (appVersion : String) (done : List (Round × Outcome)) : List String :=
  done.foldl (fun since x =>
    if x.2.finished.isSome then []
    else if x.2.applied = [] then since else since ++ [driverVersion appVersion x.1]) []

theorem lastRecorded_eq_lastFinished {first : String} {done : List (Round × Outcome)}
    (written : ∀ x ∈ done, x.2.finished ≠ none → x.2.error = none) :
    lastRecorded first done = lastFinished first done := by
  induction done generalizing first with
  | nil => rfl
  | cons x rest ih =>
    have same : x.2.recorded = x.2.finished := by
      cases finished : x.2.finished with
      | none => simp [Outcome.recorded, finished]
      | some version => simp [Outcome.recorded, finished, written x (by simp) (by simp [finished])]
    simp only [lastRecorded, lastFinished, List.foldl_cons, same]
    exact ih fun y member => written y (List.mem_cons_of_mem x member)

/-- In every run, a version whose objects are applied is one the table allows from the version that
last finished and was recorded. That is the version that last finished, unless the write of a record
failed on the way. -/
theorem applied_allowed (sv : Semver V) (t : Table) (appVersion first : String) (rounds : List Round)
    (done rest : List (Round × Outcome)) (r : Round) (o : Outcome)
    (split : run sv t appVersion first rounds = done ++ (r, o) :: rest) (applies : o.applied ≠ []) :
    t.check sv (lastRecorded first done) (driverVersion appVersion r) = .ok () ∧
      ((∀ x ∈ done, x.2.finished ≠ none → x.2.error = none) →
        t.check sv (lastFinished first done) (driverVersion appVersion r) = .ok ()) := by
  have allowed : t.check sv (lastRecorded first done) (driverVersion appVersion r) = .ok () := by
    induction rounds generalizing first done with
    | nil => simp [run] at split
    | cons s rounds ih =>
      have spec := @reconcile_spec V sv t appVersion first s
      cases done with
      | nil =>
        cases (List.cons.inj split).1
        exact spec.2 applies
      | cons x done =>
        obtain ⟨rfl, onward⟩ := List.cons.inj split
        have later := ih _ done onward
        rw [spec.1] at later
        exact later
  exact ⟨allowed, fun written => lastRecorded_eq_lastFinished written ▸ allowed⟩

def sampleRounds : List Round :=
  [{ tag := "0.4.0", objects := .ok ["DaemonSet/node"] },
    { tag := "0.6.0", objects := .ok ["DaemonSet/node"], progressing := .ok "rolling" },
    { tag := "0.5.0", objects := .ok ["DaemonSet/node"] }]

def sampleRun : List (Round × Outcome) := run numbered Table.sample "" "0.3.0" sampleRounds

/-- From 0.3.0: 0.4.0 finishes and is recorded, 0.6.0 is begun, and 0.5.0 is then judged from
0.4.0. -/
theorem applied_allowed_sample : Table.sample.check numbered "0.4.0" "0.5.0" = .ok () := by
  have allowed := applied_allowed numbered Table.sample "" "0.3.0" sampleRounds (sampleRun.take 2) []
    (sampleRun.get ⟨2, by decide⟩).1 (sampleRun.get ⟨2, by decide⟩).2 rfl (by decide)
  have written : ∀ x ∈ sampleRun.take 2, x.2.finished ≠ none → x.2.error = none := by decide
  have last : lastFinished "0.3.0" (sampleRun.take 2) = "0.4.0" := by decide
  rw [← last]
  exact allowed.2 written

/-- What the gate does not consult: a version that was only begun, and one that finished while the
write of its record was refused. -/
theorem rollout_left :
    (¬∀ (t : Table) (appVersion first : String) (rounds : List Round)
      (done rest : List (Round × Outcome)) (r : Round) (o : Outcome),
      run numbered t appVersion first rounds = done ++ (r, o) :: rest → o.applied ≠ [] →
        ∀ v ∈ appliedSince appVersion done,
          t.check numbered v (driverVersion appVersion r) = .ok ()) ∧
    ¬∀ (t : Table) (appVersion first : String) (rounds : List Round)
      (done rest : List (Round × Outcome)) (r : Round) (o : Outcome),
      run numbered t appVersion first rounds = done ++ (r, o) :: rest → o.applied ≠ [] →
        t.check numbered (lastFinished first done) (driverVersion appVersion r) = .ok () := by
  constructor
  · intro claim
    have kept := claim Table.sample "" ""
      [{ tag := "0.5.0", objects := .ok ["DaemonSet/node"], progressing := .ok "rolling" },
        { tag := "0.2.0", objects := .ok ["DaemonSet/node"] }] [_] [] _ _ rfl (by decide) "0.5.0"
      (by decide)
    exact absurd kept (by decide)
  · intro claim
    have kept := claim Table.sample "" ""
      [{ tag := "0.5.0", objects := .ok ["DaemonSet/node"], patch := some (.plain "conflict") },
        { tag := "0.2.0", objects := .ok ["DaemonSet/node"] }] [_] [] _ _ rfl (by decide)
    exact absurd kept (by decide)

end TruenasCsi.Operator
