import TruenasCsi.Provisioning.Capacity
import TruenasCsi.Support.Log

/-!
# Changing a volume's attributes takes one call or none

`modify_frame`: whatever fails, the only call that changes anything is one update of the properties that
were asked for and differ. A request that succeeds makes it if one of them differs, and repeated it makes
none.
-/

namespace TruenasCsi.Provisioning

open Appliance Backend Csi Prog
open Volume (ID)
open World

theorem mapM_ok {α β ε : Type} {f : α → Except ε β} (g : α → β) (each : ∀ a b, f a = .ok b → b = g a)
    {l : List α} {out : List β} (done : l.mapM f = .ok out) :
    out = l.map g ∧ ∀ a ∈ l, f a = .ok (g a) := by
  induction l generalizing out with
  | nil =>
    cases done
    exact ⟨rfl, by simp⟩
  | cons a l ih =>
    rw [List.mapM_cons] at done
    cases first : f a with
    | error e => simp [first, bind, Except.bind] at done
    | ok b =>
      cases rest : l.mapM f with
      | error e => simp [first, rest, bind, Except.bind] at done
      | ok bs =>
        simp only [first, rest, bind, Except.bind, pure, Except.pure, Except.ok.injEq] at done
        obtain ⟨same, others⟩ := ih rest
        obtain rfl := each a b first
        exact ⟨by rw [← done, same, List.map_cons], List.forall_mem_cons.mpr ⟨first, others⟩⟩

def spelled (raw : String) : String := String.ofList ((Text.trimSpace raw).toList.map Label.upperChar)

theorem parseProperty_ok {key raw : String} {entry : String × String}
    (parsed : parseProperty key raw = .ok entry) :
    entry = (key, spelled raw) ∧ ∃ p, lookupMutableProperty key = some p ∧ spelled raw ∈ p.values := by
  unfold parseProperty at parsed
  cases found : lookupMutableProperty key with
  | none => simp [found] at parsed
  | some p =>
    simp only [found] at parsed
    split_ifs at parsed with accepted
    exact ⟨(Except.ok.inj parsed).symm, p, rfl, accepted⟩

theorem parseModification_ok {mutable : Dict String} {mod : Modification}
    (parsed : parseModification mutable = .ok mod) :
    (∀ key want, (key, want) ∈ mod ↔ ∃ raw, mutable.get? key = some raw ∧ want = spelled raw) ∧
    ∀ key raw, mutable.get? key = some raw →
      ∃ p, lookupMutableProperty key = some p ∧ spelled raw ∈ p.values := by
  obtain ⟨rfl, each⟩ := mapM_ok (fun key => (key, spelled (mutable.getD key "")))
    (fun key entry given => (parseProperty_ok given).1) parsed
  have value {key raw : String} (given : mutable.get? key = some raw) : mutable.getD key "" = raw := by
    simp [Dict.getD, given]
  constructor
  · intro key want
    simp only [List.mem_map, Text.mem_sortedSet, Dict.mem_keys_iff]
    constructor
    · rintro ⟨key', ⟨raw, given⟩, same⟩
      cases same
      exact ⟨raw, given, by rw [value given]⟩
    · rintro ⟨raw, given, rfl⟩
      exact ⟨key, ⟨raw, given⟩, by rw [value given]⟩
  · intro key raw given
    have member : key ∈ Text.sortedSet mutable.keys :=
      Text.mem_sortedSet.mpr (Dict.mem_keys_iff.mpr ⟨raw, given⟩)
    obtain ⟨-, accepted⟩ := parseProperty_ok (each key member)
    rwa [value given] at accepted

theorem patch_ok {mod : Modification} {ds : Dataset} {changes : List (String × String)}
    (patched : patch mod ds = .ok changes) :
    changes = mod.filter (fun e => !propertyMatches ds e.1 e.2) ∧
    ∀ e ∈ mod, ∀ p, lookupMutableProperty e.1 = some p → p.filesystemOnly = true → ds.type ≠ .volume := by
  unfold patch at patched
  cases made : mod.mapM (patchEntry ds) with
  | error e => simp [made] at patched
  | ok lists =>
    have shape : ∀ e out, patchEntry ds e = .ok out →
        out = if propertyMatches ds e.1 e.2 then [] else [e] := by
      intro e out given
      unfold patchEntry at given
      grind
    obtain ⟨rfl, each⟩ := mapM_ok _ shape made
    simp only [made, Functor.map, Except.map] at patched
    cases patched
    constructor
    · clear made each
      induction mod with
      | nil => rfl
      | cons e rest ih =>
        rw [List.map_cons, List.flatten_cons, ih]
        cases matched : propertyMatches ds e.1 e.2 <;> simp [matched]
    · intro e member p found only zvol
      have given := each e member
      unfold patchEntry at given
      simp [found, only, zvol] at given

/-- Calls that change no appliance. -/
def quiet : Call → Bool
  | .api _ (.dataset op) => op.reads
  | .api _ _ => false
  | _ => true

/-- The calls of a run that can change something. -/
def mutating (l : List (Call × Fault)) : List (Call × Fault) := l.filter fun x => !quiet x.1

theorem mutating_append_quiet {l more : List (Call × Fault)} (still : ∀ x ∈ more, quiet x.1 = true) :
    mutating (l ++ more) = mutating l := by
  have none : more.filter (fun x => !quiet x.1) = [] := List.filter_eq_nil_iff.mpr (by simpa using still)
  rw [mutating, List.filter_append, none, List.append_nil, mutating]

section

variable {c : Controller} {id : ID} {mod : Modification} {w : World} {l : List (Call × Fault)}
  {mutable : Dict String} {volumeId : String}

theorem quiet_client : (c.reg.client id.backend).Emits Truthful (quiet · = true) :=
  emits_bind emits_ofExcept fun _ =>
    emits_bind (emits_mapError.mpr (emits_issue.mpr rfl)) fun _ => trivial

theorem quiet_volumeDataset : (c.volumeDataset id).Emits Truthful (quiet · = true) := by
  unfold Controller.volumeDataset
  split
  · trivial
  · refine emits_bind (emits_mapError.mpr emits_ofExcept) fun _ =>
      emits_bind (emits_mapError.mpr quiet_client) fun cl => ?_
    exact emits_option (emits_mapError.mpr (Truenas.emits_first (emits_issue.mpr rfl))) trivial
      fun _ => trivial

def Stands (id : ID) (w : World) (d : DatasetState) : Prop :=
  (w.appliance id.backend).storage.datasets.get? id.datasetPath = some d

def shown (id : ID) (w : World) (d : DatasetState) : Dataset :=
  (w.appliance id.backend).storage.view id.datasetPath d

theorem wp_volumeDataset : M.wp (c.volumeDataset id) (fun r _ =>
    ∀ ds, r = .ok ds → ∃ d, Stands id w d ∧ ds = shown id w d) w := by
  unfold Controller.volumeDataset
  cases c.reg.backends.get? id.backend with
  | none => exact fun ds wrong => by cases wrong
  | some b =>
    refine wp_bind.mpr (wp_mapError.mpr (wp_ofExcept.mpr ?_))
    cases Volume.confine id b.pool b.parentDataset with
    | error e => exact fun ds wrong => by cases wrong
    | ok _ =>
      refine wp_withStatus_seq (c.reg.wp_client id.backend) (fun e t ended ds wrong => by cases wrong) ?_
      rintro cl t ⟨same, known⟩
      obtain ⟨b, -, rfl⟩ := known cl rfl
      refine wp_withStatus_seq (Truenas.wp_datasetQuery _ _) ?_ ?_
      · exact fun e u ended ds wrong => by cases wrong
      · rintro found u ⟨rfl, answered | ⟨e, wrong⟩⟩
        · obtain rfl := Except.ok.inj answered
          rw [same, Storage.dataset?]
          cases there : (w.appliance id.backend).storage.datasets.get? id.datasetPath with
          | none => exact fun ds wrong => by cases wrong
          | some d => exact fun ds given => ⟨d, there, (Except.ok.inj given).symm⟩
        · cases wrong

def writeOf (id : ID) (changes : List (String × String)) : Call :=
  .api id.backend (.dataset (.update id.datasetPath { zfsProperties := changes }))

/-- Nothing is changed, or one call is made. -/
def Modified (id : ID) (mod : Modification) (w : World) (l : List (Call × Fault))
    (r : Except Err Unit) (t : World × List (Call × Fault)) : Prop :=
  (mutating t.2 = mutating l ∧ (r = .ok () → ∃ d, Stands id w d ∧
    ∀ e ∈ mod, propertyMatches (shown id w d) e.1 e.2 = true)) ∨
  ∃ d changes fault, Stands id w d ∧ requireOwned (shown id w d) = .ok () ∧
    patch mod (shown id w d) = .ok changes ∧ changes ≠ [] ∧
    mutating t.2 = mutating l ++ [(writeOf id changes, fault)]

/-- The one write is made exactly if some property differs. -/
theorem logged_modify : Prog.wp (logged handle)
    (c.volumeDataset id >>= fun ds => c.applyModification id ds mod) (Modified id mod w l) (w, l) := by
  refine wp_logged_seq handle_truthful wp_volumeDataset quiet_volumeDataset ?_ ?_
  · intro e t more still ended
    exact .inl ⟨mutating_append_quiet still, nofun⟩
  intro ds t more still known
  obtain ⟨d, stands, rfl⟩ := known ds rfl
  have unchanged {r : Except Err Unit} (matched : r = .ok () → ∀ e ∈ mod,
      propertyMatches (shown id w d) e.1 e.2 = true) : Modified id mod w l r (t, l ++ more) :=
    .inl ⟨mutating_append_quiet still, fun done => ⟨d, stands, matched done⟩⟩
  unfold Controller.applyModification
  split_ifs with nothing
  · apply unchanged
    intro _ e member
    rw [List.isEmpty_iff.mp nothing] at member
    cases member
  cases owned : requireOwned (shown id w d) with
  | error e => exact unchanged fun wrong => by cases wrong
  | ok _ =>
  cases patched : patch mod (shown id w d) with
  | error e => exact unchanged fun wrong => by cases wrong
  | ok changes =>
  simp only [ofExcept_ok, ret_bind]
  split_ifs with none
  · apply unchanged
    intro _ e member
    have same := List.filter_eq_nil_iff.mp ((patch_ok patched).1.symm.trans (List.isEmpty_iff.mp none))
    simpa using same e member
  -- Something differs, so the update is the next call that is not quiet, whatever becomes of it.
  have some : changes ≠ [] := fun empty => none (List.isEmpty_iff.mpr empty)
  have dials : M.wp (withStatus (c.reg.client id.backend)) (fun r _ =>
      ∀ cl, r = .ok cl → cl.name = id.backend) t := by
    refine wp_mapError.mpr (wp_mono (c.reg.wp_client id.backend) ?_)
    rintro (e | cl) u ⟨-, known⟩
    · nofun
    · obtain ⟨b, -, rfl⟩ := known cl rfl
      exact fun cl given => by cases given; rfl
  refine wp_logged_seq handle_truthful dials (emits_mapError.mpr quiet_client) ?_ ?_
  · intro e u again still' ended
    refine .inl ⟨?_, nofun⟩
    rw [mutating_append_quiet still', mutating_append_quiet still]
  intro cl u again still' dialled
  obtain ⟨_, host⟩ := cl
  obtain rfl : _ = id.backend := dialled _ rfl
  refine wp_bind.mpr (wp_mapError.mpr (wp_issue.mpr fun fault => ?_))
  have written : mutating (l ++ more ++ again ++ [(writeOf id changes, fault)]) =
      mutating l ++ [(writeOf id changes, fault)] := by
    have silent : mutating (l ++ more ++ again) = mutating l := by
      rw [mutating_append_quiet still', mutating_append_quiet still]
    rw [← silent]
    exact List.filter_append _ _
  have ends (r : Except Err Unit) (x : World) :
      Modified id mod w l r (x, l ++ more ++ again ++ [(writeOf id changes, fault)]) :=
    .inr ⟨d, changes, fault, stands, owned, patched, some, written⟩
  show andThen _ _ (Except.mapError _ (handle fault (writeOf id changes) u).1) _
  cases (handle fault (writeOf id changes) u).1 with
  | error e => exact ends _ _
  | ok ds => exact ends _ _

theorem Modified.released {r : Except Err Unit} {t : World} {m : List (Call × Fault)} {p : Process}
    {op : ProcessOp} {fault : Fault} (ended : Modified id mod w l r (t, m)) :
    Modified id mod w l r ({ t with process := p }, m ++ [(.process op, fault)]) := by
  have same : mutating (m ++ [(.process op, fault)]) = mutating m :=
    mutating_append_quiet (by simp [quiet])
  unfold Modified at ended ⊢
  rw [same]
  exact ended

theorem logged_controllerModifyVolume
    (named : Volume.parseID volumeId = .ok id) (parsed : parseModification mutable = .ok mod) :
    Prog.wp (logged handle) (c.controllerModifyVolume volumeId mutable) (Modified id mod w [])
      (w, []) := by
  unfold Controller.controllerModifyVolume
  split_ifs
  · exact .inl ⟨rfl, by simp⟩
  rw [parsed, named]
  simp only [ofExcept_ok, mapError_ret, ret_bind]
  refine wp_bind.mpr (wp_issue.mpr fun fault => ?_)
  simp only [logged, handle_process]
  by_cases taken : id.string ∈ w.process.volumeLocks
  · simp only [Process.act, taken, if_true]
    exact .inl ⟨rfl, by simp⟩
  · simp only [Process.act, taken, if_false]
    refine wp_bind.mpr (wp_attempt.mpr (wp_mono logged_modify ?_))
    rintro r ⟨t, m⟩ ended
    refine wp_bind.mpr (wp_issue.mpr fun fault' => ?_)
    simp only [logged, handle_process]
    exact wp_ofExcept.mpr (Modified.released ended)

theorem run_controllerModifyVolume
    (named : Volume.parseID volumeId = .ok id) (parsed : parseModification mutable = .ok mod)
    (faults : List Fault) :
    Modified id mod w [] (M.run (c.controllerModifyVolume volumeId mutable) faults w).1
      ((M.run (c.controllerModifyVolume volumeId mutable) faults w).2,
        log handle (c.controllerModifyVolume volumeId mutable) faults w) := by
  have reached := wp_iff_run.mp (logged_controllerModifyVolume (c := c) (w := w) named parsed) faults
  rwa [run_logged, List.nil_append] at reached

end

/-- A write that the request calls for. -/
structure CalledFor (mutable : Dict String) (id : ID) (w : World) (d : DatasetState)
    (changes : List (String × String)) : Prop where
  accepted : ∀ key raw, mutable.get? key = some raw → ∃ p, lookupMutableProperty key = some p ∧
    spelled raw ∈ p.values ∧ (p.filesystemOnly = true → d.type ≠ .volume)
  owned : requireOwned (shown id w d) = .ok ()
  differ : ∀ key want, (key, want) ∈ changes ↔ ∃ raw, mutable.get? key = some raw ∧
    want = spelled raw ∧ propertyMatches (shown id w d) key want = false

variable {mutable : Dict String} {id : ID} {w : World}

theorem calledFor_of_patch {mod : Modification}
    {d : DatasetState} {changes : List (String × String)} (parsed : parseModification mutable = .ok mod)
    (owned : requireOwned (shown id w d) = .ok ()) (patched : patch mod (shown id w d) = .ok changes) :
    CalledFor mutable id w d changes := by
  obtain ⟨asked, listed⟩ := parseModification_ok parsed
  obtain ⟨rfl, fits⟩ := patch_ok patched
  refine ⟨fun key raw given => ?_, owned, fun key want => ?_⟩
  · obtain ⟨p, found, value⟩ := listed key raw given
    exact ⟨p, found, value, fits _ ((asked key _).mpr ⟨raw, given, rfl⟩) p found⟩
  · rw [List.mem_filter, asked]
    simp only [Bool.not_eq_true', ← and_assoc, exists_and_right]

/-- The property as it was, or as it was set. -/
structure ReportedAfter (before after : Dataset) (key want : String) : Prop where
  kept : propertyMatches before key want = true → after.zfsProperty key = before.zfsProperty key
  inherited : propertyMatches before key want = false → want = inheritValue →
    (after.zfsProperty key).source ≠ "" ∧ (after.zfsProperty key).source ≠ "LOCAL"
  set : propertyMatches before key want = false → want ≠ inheritValue →
    (after.zfsProperty key).source = "LOCAL" ∧ equalFold (after.zfsProperty key).value want = true

theorem ReportedAfter.matches {before after : Dataset} {key want : String}
    (reported : ReportedAfter before after key want) : propertyMatches after key want = true := by
  cases same : propertyMatches before key want with
  | true =>
    unfold propertyMatches at same ⊢
    rwa [reported.kept same]
  | false =>
    by_cases inherit : want = inheritValue
    · simp [propertyMatches, inherit, reported.inherited same inherit]
    · simp [propertyMatches, inherit, (reported.set same inherit).2]

variable (c : Controller) (volumeId : String)

/-- No write, or the one called for. -/
def Framed (mutable : Dict String) (faults : List Fault) (w : World) : Prop :=
  mutating (log handle (c.controllerModifyVolume volumeId mutable) faults w) = [] ∨
  ∃ id d changes fault, Volume.parseID volumeId = .ok id ∧ Stands id w d ∧
    CalledFor mutable id w d changes ∧ changes ≠ [] ∧
    mutating (log handle (c.controllerModifyVolume volumeId mutable) faults w) =
      [(writeOf id changes, fault)]

/-- Whatever fails, there is no other write. -/
theorem framed (mutable : Dict String) (faults : List Fault)
    (w : World) : Framed c volumeId mutable faults w := by
  cases parsed : parseModification mutable with
  | error e =>
    refine .inl ?_
    unfold Controller.controllerModifyVolume
    split_ifs <;> simp [parsed, log, mutating, throw_eq]
  | ok mod =>
  cases named : Volume.parseID volumeId with
  | error e =>
    refine .inl ?_
    unfold Controller.controllerModifyVolume
    split_ifs <;> simp [parsed, named, log, mutating, throw_eq]
  | ok id =>
  obtain ⟨still, -⟩ | ⟨d, changes, fault, stands, owned, patched, some, made⟩ :=
    run_controllerModifyVolume (c := c) (w := w) named parsed faults
  · exact .inl still
  · exact .inr ⟨id, d, changes, fault, named, stands, calledFor_of_patch parsed owned patched, some,
      made⟩

theorem matched_of_quiet {c : Controller} {volumeId : String} {faults : List Fault}
    (named : Volume.parseID volumeId = .ok id)
    (done : (M.run (c.controllerModifyVolume volumeId mutable) faults w).1 = .ok ()) :
    ∃ d, Stands id w d ∧ (mutating (log handle (c.controllerModifyVolume volumeId mutable) faults w) = [] →
      ∀ key raw, mutable.get? key = some raw → propertyMatches (shown id w d) key (spelled raw) = true) := by
  cases parsed : parseModification mutable with
  | error e =>
    unfold Controller.controllerModifyVolume at done
    split_ifs at done <;> simp [parsed, M.run, throw_eq] at done
  | ok mod =>
    obtain ⟨-, ends⟩ | ⟨d, changes, fault, stands, -, -, -, made⟩ :=
      run_controllerModifyVolume (c := c) (w := w) named parsed faults
    · obtain ⟨d, stands, matched⟩ := ends done
      refine ⟨d, stands, fun _ key raw given => matched (key, spelled raw) ?_⟩
      exact ((parseModification_ok parsed).1 key _).mpr ⟨raw, given, rfl⟩
    · refine ⟨d, stands, fun still => ?_⟩
      rw [still] at made
      cases made

/-- Changing attributes makes no write or the one called for, under any failures. If the call succeeds and
a property that was asked for differs, it makes the write; and repeated in a state that reports the
properties as they were set, it makes none. -/
theorem modify_frame (c : Controller) (volumeId : String) (mutable : Dict String) (faults : List Fault)
    (w : World) : Framed c volumeId mutable faults w ∧
    ∀ id, Volume.parseID volumeId = .ok id →
      (M.run (c.controllerModifyVolume volumeId mutable) faults w).1 = .ok () →
      (∀ d key raw, Stands id w d → mutable.get? key = some raw →
        propertyMatches (shown id w d) key (spelled raw) = false →
          mutating (log handle (c.controllerModifyVolume volumeId mutable) faults w) ≠ []) ∧
      ∀ u again, (∀ d d', Stands id w d → Stands id u d' → ∀ key raw, mutable.get? key = some raw →
          ReportedAfter (shown id w d) (shown id u d') key (spelled raw)) →
        mutating (log handle (c.controllerModifyVolume volumeId mutable) again u) = [] := by
  refine ⟨framed c volumeId mutable faults w, fun id named done => ?_⟩
  obtain ⟨d, stands, matched⟩ := matched_of_quiet named done
  constructor
  · intro d' key raw stands' given differs still
    obtain rfl : d = d' := Option.some.inj (stands.symm.trans stands')
    rw [matched still key raw given] at differs
    cases differs
  · intro u again reported
    obtain still | ⟨id', d', changes, fault, named', stands', called, some, -⟩ :=
      framed c volumeId mutable again u
    · exact still
    -- A write would be of a property that is reported as it was asked for.
    have same : id = id' := Except.ok.inj (named.symm.trans named')
    subst same
    obtain ⟨⟨key, want⟩, written⟩ := List.exists_mem_of_ne_nil changes some
    obtain ⟨raw, given, rfl, differs⟩ := (called.differ key want).mp written
    have there := (reported d d' stands stands' key raw given).matches
    exact absurd differs (by simp [there])

/-- An NFS volume with compression switched off. -/
def plainVolume : World where
  appliance _ := { storage := { datasets := Dict.ofList [("tank/k8s/data", {
    type := .filesystem
    userProperties := .ofList (Volume.stampProperties "tank/k8s/data")
    zfsProperties := .ofList [("compression", "OFF")] })] } }

def tuningController : Controller where
  reg := {
    backends := Dict.ofList [("nas", { pool := "tank", parentDataset := "k8s" })]
    env := ⟨⟨2026, 1, 1, 0, 0, 0⟩, 0, "secret", fun _ => "0", fun s => s⟩ }
  nodes := kubeNodeResolver fun _ => .ok none

/-- Asked for another compression, the call makes its write. -/
theorem modify_frame_sample : mutating (log handle (tuningController.controllerModifyVolume
    "nas/nfs/tank/k8s/data" (.ofList [("compression", "lz4")])) [] plainVolume) ≠ [] := by
  exact ((modify_frame tuningController "nas/nfs/tank/k8s/data" (.ofList [("compression", "lz4")]) []
    plainVolume).2 ⟨"nas", "nfs", "tank", "k8s", "", "data"⟩ (by decide) (by decide)).1 _ "compression" "lz4"
    rfl (by decide) (by decide)

end TruenasCsi.Provisioning
