import TruenasCsi.Appliance.Tree
import TruenasCsi.Retention.Names
import TruenasCsi.Support.Instants
import TruenasCsi.Truenas.Footprint

/-!
# The reaper

`reapable` is the guard of every destroy, `sweep` one pass over a graveyard. Whatever fails, a sweep takes
only entries that are `Due` (`sweep_takes_due`); undisturbed it takes all of them that have no clone
(`sweep_reclaims_due`); and what somebody put there by hand is never due (`foreign_never_due`).
-/

namespace TruenasCsi.Retention

open Appliance Truenas Text Prog
open Volume hiding Dataset verifyOwned

/-- Why a dataset must not be destroyed. -/
inductive Refusal where
  | off
  | noDataset
  | outside (e : Err)
  | notOwned (e : Err)
  /-- Neither the property, with this value, nor the name of the entry gives a time. -/
  | undated (id value : String)
  /-- The age and the grace period in nanoseconds. -/
  | stillInGrace (id : String) (age grace : Int)

/-- A whole number of seconds as Go prints a duration. -/
def durationText (seconds : Int) : String :=
  let n := seconds.natAbs
  (if seconds < 0 then "-" else "") ++ (if n ≥ 3600 then toString (n / 3600) ++ "h" else "") ++
    (if n ≥ 60 then toString (n / 60 % 60) ++ "m" else "") ++ toString (n % 60) ++ "s"

/-- The nearest second, halves away from zero. -/
def roundToSecond (nanoseconds : Int) : Int :=
  nanoseconds.sign * ((nanoseconds.natAbs + 500000000) / 1000000000 : Nat)

/-- The text of a refusal, where `parseError` is what `time.Parse` says of a text it cannot read. -/
def Refusal.text (parseError : String → String) : Refusal → String
  | off => "dataset is not reapable: delete protection is off"
  | noDataset => "dataset is not reapable: no dataset"
  | outside e | notOwned e => "dataset is not reapable: " ++ e.text
  | undated id value => "dataset is not reapable: " ++ quote id ++ ": " ++
      if value = "" then "no " ++ deletedAtProperty ++ " property"
      else deletedAtProperty ++ "=" ++ quote value ++ " is not an RFC 3339 timestamp: " ++ parseError value
  | stillInGrace id age grace => "dataset is not reapable: still within its grace period: " ++ quote id ++
      " was retired " ++ durationText (roundToSecond age) ++ " ago and the grace period is " ++
      durationText (roundToSecond grace) ++ ": " ++ durationText (roundToSecond (grace - age)) ++ " left"

def parseDeletedAt (s : String) : Option Int :=
  if s = "" then none else Civil.parseRFC3339 s

variable (ds : Dataset) (p : Policy) (now : Int) (c : Client)

/-- The property where it can be read, the entry's name where it cannot. -/
def deletedAt : Option Int :=
  (parseDeletedAt (localProperty ds deletedAtProperty)).or
    ((deletedAtFromEntryName ds.id).map fun named => named.1.instant + named.2)

/-- The preconditions of every destroy, in their order. -/
def reapable : Option Dataset → Except Refusal Unit
  | none => .error (if p.on then .noDataset else .off)
  | some ds =>
    if p.on = false then .error .off
    else
      match p.confineToGraveyard ds.id, verifyOwned ds, deletedAt ds with
      | .error e, _, _ => .error (.outside e)
      | .ok _, .error e, _ => .error (.notOwned e)
      | .ok _, .ok _, none => .error (.undated ds.id (localProperty ds deletedAtProperty))
      | .ok _, .ok _, some deletedAt =>
        -- A time in the future reads as "not yet".
        if now - deletedAt < p.grace * 10 ^ 9 then
          .error (.stillInGrace ds.id (now - deletedAt) (p.grace * 10 ^ 9))
        else .ok ()

/-- Destroy what may be; one failure does not stop the rest. -/
def destroyAll : List Dataset → M (List String)
  | [] => return []
  | ds :: rest =>
    match reapable p now (some ds) with
    | .error _ => destroyAll rest
    | .ok _ => do
      let done ← (c.datasetDelete ds.id true false).attempt
      let more ← destroyAll rest
      return if done.isOk then ds.id :: more else more

/-- Destroys every entry that passes the guard; failures do not end it. -/
def sweep : M (List String) :=
  if p.on = false then return []
  else do
    match ← (c.datasetList (p.root ++ "/")).attempt with
    | .error _ => return []
    | .ok datasets => destroyAll p now c datasets

/-- One sweep of every target, each at its own reading of the clock. -/
def runOnce (targets : List (Client × Policy × Int)) : M (List String) := do
  let destroyed ← targets.foldlM (fun all target => do
    return all ++ (← sweep target.2.1 target.2.2 target.1)) []
  return destroyed.insertionSort (· ≤ ·)

variable {ds : Dataset} {p : Policy} {now : Int} {c : Client} {w u : World}

theorem reapable_iff : reapable p now (some ds) = .ok () ↔
    p.on = true ∧ p.confineToGraveyard ds.id = .ok () ∧ verifyOwned ds = .ok () ∧
      ∃ t, deletedAt ds = some t ∧ t + p.grace * 10 ^ 9 ≤ now := by
  unfold reapable
  dsimp only
  split_ifs with off
  · simp [off]
  · cases p.confineToGraveyard ds.id with
    | error e => simp
    | ok inside =>
      cases verifyOwned ds with
      | error e => simp
      | ok owned =>
        cases deletedAt ds with
        | none => simp
        | some t =>
          simp only [Bool.not_eq_false] at off
          simp only [off, true_and, Option.some.injEq, exists_eq_left']
          split_ifs with early
          · simp only [false_iff]
            omega
          · simp only [true_iff]
            omega

/-- Some subtrees, each under a root in `E`, have been destroyed. -/
structure Pruned (E : String → Prop) (s s' : Storage) : Prop where
  datasets : ∀ path, s'.datasets.get? path = s.datasets.get? path ∨
    s'.datasets.get? path = none ∧ ∃ entry, E entry ∧ atOrBelow entry path = true
  snapshots : s'.snapshots.Sublist s.snapshots

variable {E : String → Prop} {s s' : Storage} {entry path : String}

theorem atOrBelow_rfl : atOrBelow path path = true := atOrBelow_iff.mpr List.prefix_rfl

theorem Pruned.refl (E : String → Prop) (s : Storage) : Pruned E s s := ⟨fun _ => .inl rfl, .refl _⟩

theorem Pruned.trans {s'' : Storage} (first : Pruned E s s') (second : Pruned E s' s'') :
    Pruned E s s'' := by
  refine ⟨fun path => ?_, second.snapshots.trans first.snapshots⟩
  rcases second.datasets path with same | gone
  · rw [same]
    exact first.datasets path
  · exact .inr gone

theorem pruned_deleteTree (due : E entry) (s : Storage) : Pruned E s (s.deleteTree entry) := by
  refine ⟨fun path => ?_, List.filter_sublist⟩
  rw [Storage.get?_deleteTree]
  split_ifs with below
  · exact .inr ⟨rfl, entry, due, below⟩
  · exact .inl rfl

theorem Pruned.present {d : DatasetState} (so : Pruned E s s')
    (found : s'.datasets.get? path = some d) : s.datasets.get? path = some d := by
  rcases so.datasets path with same | ⟨gone, -⟩
  · rw [← same, found]
  · rw [gone] at found
    cases found

theorem Pruned.absent (so : Pruned E s s') (gone : s.datasets.get? path = none) :
    s'.datasets.get? path = none := by
  rcases so.datasets path with same | ⟨absent, -⟩
  · rw [same, gone]
  · exact absent

/-- No dataset becomes the origin of a clone. -/
theorem Pruned.outsideClones (so : Pruned E s s') (unused : s.outsideClones entry = []) :
    s'.outsideClones entry = [] := by
  simp only [Storage.outsideClones, List.filter_eq_nil_iff] at unused ⊢
  intro path member
  obtain ⟨d, found⟩ := Dict.mem_keys_iff.mp member
  have before := so.present found
  have none := unused path (Dict.mem_keys_iff.mpr ⟨d, before⟩)
  simp only [before, found, Bool.and_eq_true, List.any_eq_true, Bool.not_eq_true', not_and,
    not_exists] at none ⊢
  intro apart snap kept
  exact none apart snap (so.snapshots.subset kept)

/-- A destroy takes all below its path, or nothing. -/
theorem act_delete (s : Storage) (entry : String) (recursive force : Bool) :
    (Storage.act (.delete entry recursive force) s).2 = s.deleteTree entry ∨
      (Storage.act (.delete entry recursive force) s).2 = s := by
  simp only [Storage.act]
  split_ifs <;> simp

/-- What every write keeps, the program keeps. -/
theorem Within.storage_invariant {α : Type} {F : String → DatasetOp → Prop} {prog : M α}
    (within : M.Within F prog) {backend : String} {I : Storage → Prop}
    (step : ∀ op s, F backend op → I s → I (Storage.act op s).2) {w : World}
    (initial : I (w.appliance backend).storage) :
    M.wp prog (fun _ u => I (u.appliance backend).storage) w := by
  -- A call that took effect, heard of or not, is the only one that matters.
  have acted : ∀ b op w, Call.Within F (.api b op) → I (w.appliance backend).storage →
      I ((World.acted w b op).appliance backend).storage := by
    intro b op w inside holds
    unfold World.acted
    by_cases here : backend = b
    · subst here
      rw [World.setAppliance_self]
      cases op with
      | dataset op =>
        rcases inside with reads | written
        · show I (Storage.act op _).2
          rwa [Storage.act_reads reads]
        · exact step op _ written holds
      | _ => exact holds
    · rwa [World.setAppliance_other _ _ here]
  refine M.Within.wp within (I := fun w => I (w.appliance backend).storage) ?_ initial
  intro fault c w inside holds
  cases c with
  | api b op =>
    cases fault with
    | none => exact acted b op w inside holds
    | refused e => exact holds
    | lost e => exact acted b op w inside holds
  | client b =>
    by_cases dialled : b ∈ w.process.connected
    · simpa [World.handle, dialled] using holds
    · cases fault <;> simpa [World.handle, dialled] using holds
  | process op => cases fault <;> exact holds

theorem within_datasetDelete {F : String → DatasetOp → Prop} {path : String} {recursive force : Bool}
    (allowed : F c.name (.delete path recursive force)) :
    M.Within F (c.datasetDelete path recursive force) := by
  refine emits_tried (within_dataset.mpr (.inr allowed)) (fun _ => trivial) fun e =>
    emits_if (fun _ => trivial) fun _ => emits_if (fun _ => emits_bind ?_ fun _ => trivial) fun _ => trivial
  exact emits_tried (emits_rows (within_dataset.mpr (.inl rfl))) (fun _ => trivial) fun _ => trivial

/-- With protection on, an entry of the graveyard that the driver owns and whose grace period is over,
as the appliance reports it. -/
def Due (p : Policy) (now : Int) (s : Storage) (entry : String) : Prop :=
  ∃ ds, s.dataset? entry = some ds ∧ p.on = true ∧ p.confineToGraveyard ds.id = .ok () ∧
    verifyOwned ds = .ok () ∧ ∃ t, deletedAt ds = some t ∧ t + p.grace * 10 ^ 9 ≤ now

/-- The destroys of entries in `E`. -/
def Destroys (c : Client) (E : String → Prop) (backend : String) (op : DatasetOp) : Prop :=
  backend = c.name ∧ ∃ entry, E entry ∧ op = .delete entry true false

theorem within_destroyAll {rows : List Dataset}
    (due : ∀ ds ∈ rows, reapable p now (some ds) = .ok () → E ds.id) :
    M.Within (Destroys c E) (destroyAll p now c rows) := by
  induction rows with
  | nil => trivial
  | cons ds rest ih =>
    have later := ih fun ds' member => due ds' (List.mem_cons_of_mem _ member)
    unfold destroyAll
    cases verdict : reapable p now (some ds) with
    | error e => exact later
    | ok _ =>
      have here := due ds List.mem_cons_self verdict
      apply emits_bind (emits_attempt.mpr (within_datasetDelete ⟨rfl, _, here, rfl⟩))
      exact fun _ => emits_bind later fun _ => trivial

/-- What a program that destroys entries in `E` leaves on each appliance. -/
theorem Within.pruned {α : Type} {prog : M α} (within : M.Within (Destroys c E) prog) (w : World)
    (backend : String) : M.wp prog (fun _ u => Pruned (fun entry => backend = c.name ∧ E entry)
      (w.appliance backend).storage (u.appliance backend).storage) w := by
  refine Within.storage_invariant within (fun op s writes so => ?_) (Pruned.refl _ _)
  obtain ⟨here, entry, due, rfl⟩ := writes
  rcases act_delete s entry true false with gone | same
  · rw [gone]
    exact so.trans (pruned_deleteTree ⟨here, due⟩ s)
  · rwa [same]

theorem wp_sweep (p : Policy) (now : Int) (c : Client) (w : World) (backend : String) :
    M.wp (sweep p now c) (fun _ u => Pruned
      (fun entry => backend = c.name ∧ Due p now (w.appliance c.name).storage entry)
      (w.appliance backend).storage (u.appliance backend).storage) w := by
  unfold sweep
  split_ifs with off
  · exact Pruned.refl _ _
  · apply wp_bind.mpr
    apply wp_attempt.mpr
    apply wp_mono (asks_rows (wp_query rfl))
    rintro r t ⟨rfl, rfl | ⟨e, rfl⟩⟩
    · refine Within.pruned (within_destroyAll fun ds member verdict => ?_) t backend
      obtain ⟨path, -, found⟩ := List.mem_filterMap.mp member
      obtain ⟨d, -, rfl⟩ := Option.map_eq_some_iff.mp found
      exact ⟨_, found, reapable_iff.mp verdict⟩
    · exact Pruned.refl _ _

/-- For every policy, time and failures: a sweep leaves every dataset of every backend as it is, apart from
those at or below an entry of its own graveyard that is due. -/
theorem sweep_takes_due (p : Policy) (now : Int) (c : Client) (faults : List Fault) (w : World)
    (backend path : String) :
    ((M.run (sweep p now c) faults w).2.appliance backend).storage.datasets.get? path =
        (w.appliance backend).storage.datasets.get? path ∨
      backend = c.name ∧ ∃ entry, Due p now (w.appliance c.name).storage entry ∧
        atOrBelow entry path = true := by
  rcases (wp_iff_run.mp (wp_sweep p now c w backend) faults).datasets path with
    same | ⟨-, entry, ⟨here, due⟩, below⟩
  · exact .inl same
  · exact .inr ⟨here, entry, due, below⟩

section

variable {α β : Type} (q : M α)

theorem run_tried (f : Except Err α → M β) (w : World) :
    M.run (q.attempt >>= f) [] w = M.run (f (M.run q [] w).1) [] (M.run q [] w).2 := by
  show Prog.run _ _ _ _ = _
  rw [run_bind, run_attempt]

theorem run_mapped (f : α → β) (w : World) :
    (M.run (q >>= fun a => pure (f a)) [] w).2 = (M.run q [] w).2 := by
  show (Prog.run _ _ _ _).2 = _
  rw [run_bind]
  split <;> rfl

end

theorem run_dataset (op : DatasetOp) : M.run (c.dataset op) [] w =
    (((w.appliance c.name).act (.dataset op)).1, w.acted c.name (.dataset op)) :=
  run_issue World.handle _ w

theorem run_datasetDelete
    (unused : (w.appliance c.name).storage.outsideClones entry = []) :
    ((M.run (c.datasetDelete entry true false) [] w).2.appliance c.name).storage.datasets.get? entry =
      none := by
  unfold Client.datasetDelete
  rw [run_tried, run_dataset]
  by_cases absent : (w.appliance c.name).storage.datasets.get? entry = none
  · simp [State.act, Storage.act, World.acted, absent]
  · simp [State.act, Storage.act, World.acted, absent, unused, Storage.get?_deleteTree, atOrBelow_rfl]

theorem run_destroyAll {rows : List Dataset} (listed : ds ∈ rows)
    (due : reapable p now (some ds) = .ok ()) (w : World)
    (unused : (w.appliance c.name).storage.outsideClones ds.id = []) :
    ((M.run (destroyAll p now c rows) [] w).2.appliance c.name).storage.datasets.get? ds.id = none := by
  induction rows generalizing w with
  | nil => cases listed
  | cons head rest ih =>
    unfold destroyAll
    cases verdict : reapable p now (some head) with
    | error e =>
      rcases List.mem_cons.mp listed with rfl | later
      · rw [due] at verdict
        cases verdict
      · exact ih later w unused
    | ok _ =>
      dsimp only
      rw [run_tried, run_mapped]
      -- The entry goes at its own turn; no destroy before or after it gets in its way.
      rcases List.mem_cons.mp listed with rfl | later
      · have onward : M.Within (Destroys c fun _ => True) (destroyAll p now c rest) :=
          within_destroyAll fun _ _ _ => trivial
        exact (wp_iff_run.mp (Within.pruned onward _ c.name) []).absent (run_datasetDelete unused)
      · have before : M.Within (Destroys c fun _ => True) (c.datasetDelete head.id true false) :=
          within_datasetDelete ⟨rfl, head.id, trivial, rfl⟩
        exact ih later _ ((wp_iff_run.mp (Within.pruned before w c.name) []).outsideClones unused)

theorem run_datasetList (start : String) : M.run (c.datasetList start) [] w =
    (.ok (((w.appliance c.name).storage.datasets.keys.filter fun p => startsWith p start).filterMap
      (w.appliance c.name).storage.dataset?), w) := by
  unfold Client.datasetList rows
  rw [run_tried, run_dataset]
  have unchanged : w.acted c.name (.dataset (.list start)) = w := World.setAppliance_appliance _ _
  rw [unchanged]
  rfl

theorem confined_shape (inside : p.confineToGraveyard path = .ok ()) :
    ∃ name, '/' ∉ name.toList ∧ path = p.root ++ "/" ++ name := by
  unfold Policy.confineToGraveyard Policy.confineToGraveyard.below Policy.confineToGraveyard.refuse at inside
  dsimp only at inside
  split_ifs at inside with off itself elsewhere empty deep
  obtain ⟨name, rfl⟩ := startsWith_iff.mp (by simpa using elsewhere)
  refine ⟨name, ?_, rfl⟩
  have rest : (p.root ++ "/" ++ name).toList = (p.root ++ "/").toList ++ name.toList :=
    String.toList_append
  rwa [rest, List.drop_left] at deep

/-- With no failures, a sweep destroys every entry that is due and has no clone outside of it. -/
theorem sweep_reclaims_due (p : Policy) (now : Int) (c : Client) (w : World) (entry : String)
    (due : Due p now (w.appliance c.name).storage entry)
    (unused : (w.appliance c.name).storage.outsideClones entry = []) :
    ((M.run (sweep p now c) [] w).2.appliance c.name).storage.datasets.get? entry = none := by
  obtain ⟨ds, found, conditions⟩ := due
  have verdict := reapable_iff.mpr conditions
  obtain ⟨on, inside, -, -⟩ := conditions
  obtain ⟨d, present, rfl⟩ := Option.map_eq_some_iff.mp found
  unfold sweep
  rw [if_neg (by simp [on]), run_tried, run_datasetList]
  refine run_destroyAll (List.mem_filterMap.mpr ⟨entry, ?_, found⟩) verdict w unused
  refine List.mem_filter.mpr ⟨Dict.mem_keys_iff.mpr ⟨d, present⟩, ?_⟩
  obtain ⟨name, -, rfl⟩ := confined_shape inside
  exact startsWith_iff.mpr ⟨name, rfl⟩

def samplePolicy : Policy := ⟨"tank", "k8s", ".trash", 3600⟩

def sampleDataset (path : String) : DatasetState where
  type := .filesystem
  userProperties := Dict.ofList [(ownerProperty, ownerValue), (ownerIDProperty, path)]

/-- A retired volume, and a dataset somebody put beside it. -/
def sampleGraveyard : Storage where
  datasets := Dict.ofList [("tank/k8s/.trash", sampleDataset "tank/k8s/.trash"),
    ("tank/k8s/.trash/20260309T070504Z-pvc-1", sampleDataset "tank/k8s/.trash/20260309T070504Z-pvc-1"),
    ("tank/k8s/.trash/byhand", { type := .filesystem })]

theorem sweep_reclaims_due_sample : ((M.run (sweep samplePolicy (10 ^ 20) ⟨"nas", ""⟩) []
    { appliance := fun _ => { storage := sampleGraveyard } }).2.appliance "nas").storage.datasets.get?
      "tank/k8s/.trash/20260309T070504Z-pvc-1" = none :=
  sweep_reclaims_due samplePolicy (10 ^ 20) ⟨"nas", ""⟩ _ _
    ⟨_, rfl, by decide, rfl, rfl, _, rfl, by decide⟩ (by decide)

/-- The guard refuses what carries another dataset's owner id. -/
theorem verifyOwned_other {prop : Property} (carries : ds.userProperties ownerIDProperty = some prop)
    (other : prop.value ≠ ds.id) : verifyOwned ds ≠ .ok () := by
  unfold verifyOwned Volume.verifyOwned
  dsimp only
  rw [carries]
  split
  · exact fun wrong => by cases wrong
  · dsimp only
    split_ifs <;> exact fun wrong => by cases wrong

/-- Where the graveyard has its own path for an owner's id, an entry without an id of its own is never due. -/
theorem foreign_never_due (p : Policy) (now : Int) (s : Storage) (entry : String)
    (marked : s.own p.root ownerIDProperty = some p.root)
    (foreign : s.own entry ownerIDProperty = none) : ¬ Due p now s entry := by
  rintro ⟨ds, found, -, inside, owned, -⟩
  obtain ⟨d, -, rfl⟩ := Option.map_eq_some_iff.mp found
  obtain ⟨name, slashless, rfl⟩ := confined_shape inside
  have carries : s.userProperty (p.root ++ "/" ++ name) ownerIDProperty = some ⟨p.root, sourceLocal⟩ := by
    rw [Storage.userProperty_child slashless foreign]
    exact Storage.userProperty_own marked
  exact verifyOwned_other carries (child_ne p.root name).symm owned

theorem foreign_never_due_sample : ¬ Due samplePolicy (10 ^ 20) sampleGraveyard "tank/k8s/.trash/byhand" :=
  foreign_never_due samplePolicy _ sampleGraveyard _ (by decide) (by decide)

end TruenasCsi.Retention
