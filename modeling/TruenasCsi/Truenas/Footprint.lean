import TruenasCsi.Truenas.Ops

/-! The calls on datasets a program can make, read off the program alone. -/

namespace TruenasCsi

open Appliance Prog

def Appliance.DatasetOp.reads : DatasetOp → Bool
  | .query _ => true
  | .list _ => true
  | .recommendedZvolBlocksize _ => true
  | .poolQuery _ => true
  | .snapshotQuery _ => true
  | .snapshotList _ => true
  | _ => false

/-- Answers that can be given. -/
def Truthful : (c : Call) → Except Err c.Answer → Prop
  | .api _ (.dataset (.query id)), .ok rows => ∀ ds ∈ rows, ds.id = id
  | .process _, .error _ => False
  | _, _ => True

variable (F : String → DatasetOp → Prop)

/-- No write to a dataset, or one in `F`. -/
def Call.Within : Call → Prop
  | .api backend (.dataset op) => op.reads = true ∨ F backend op
  | _ => True

/-- Every write to a dataset is in `F`. -/
abbrev M.Within {α : Type} (F : String → DatasetOp → Prop) (p : M α) : Prop :=
  p.Emits Truthful (Call.Within F)

theorem handle_truthful (fault : Fault) (c : Call) (w : World) :
    Truthful c (World.handle fault c w).1 := by
  unfold Truthful
  split
  · rename_i backend id rows answer
    cases fault with
    | none =>
      -- The answer of a query is the dataset at that path, if there is one.
      have shown : ((w.appliance backend).storage.dataset? id).toList = rows :=
        Except.ok.inj answer
      subst shown
      intro ds member
      obtain ⟨d, -, rfl⟩ : ∃ d, (w.appliance backend).storage.datasets.get? id = some d ∧
          (w.appliance backend).storage.view id d = ds := by
        simpa [Storage.dataset?] using member
      rfl
    | refused e => cases answer
    | lost e => cases answer
  · rename_i op e answer
    cases fault <;> cases answer
  · trivial

section

variable {α β : Type} {F : String → DatasetOp → Prop} {backend : String}

theorem within_dataset {c : Truenas.Client} {op : DatasetOp} :
    M.Within F (c.dataset op) ↔ op.reads = true ∨ F c.name op :=
  emits_issue

theorem within_nfs {op : NfsOp} : M.Within F (middleware backend (.nfs op)) :=
  emits_issue.mpr trivial

theorem within_smb {op : SmbOp} : M.Within F (middleware backend (.smb op)) :=
  emits_issue.mpr trivial

theorem within_process {op : ProcessOp} : M.Within F (process op) :=
  emits_issue.mpr trivial

theorem within_client : M.Within F (issue (Call.client backend) : M Unit) :=
  emits_issue.mpr trivial

namespace Truenas

section

variable {P : Call → Prop} {query : M (List α)}

theorem emits_first (emits : query.Emits Truthful P) : (first query).Emits Truthful P := by
  refine emits_bind (emits_attempt.mpr emits) fun r => ?_
  cases r with
  | ok rows => trivial
  | error e =>
    dsimp only
    split_ifs <;> trivial

theorem emits_rows (emits : query.Emits Truthful P) : (rows query).Emits Truthful P := by
  refine emits_bind (emits_attempt.mpr emits) fun r => ?_
  cases r with
  | ok rows => trivial
  | error e =>
    dsimp only
    split_ifs <;> trivial

theorem emits_gone {delete : M Unit} (emits : delete.Emits Truthful P) :
    (gone delete).Emits Truthful P := by
  refine emits_bind (emits_attempt.mpr emits) fun r => ?_
  cases r with
  | ok rows => trivial
  | error e =>
    dsimp only
    split_ifs <;> trivial

end

variable (c : Client) (id : String)

def About (r : Except Err (Option Dataset)) : Prop :=
  ∀ ds, r = .ok (some ds) → ds.id = id

theorem emitsTo_datasetQuery : (c.datasetQuery id).EmitsTo Truthful (Call.Within F) (About id) := by
  refine emitsTo_bind.mpr (emitsTo_attempt.mpr ?_)
  refine emitsTo_issue.mpr ⟨.inl rfl, fun r truthful => ?_⟩
  cases r with
  | ok rows =>
    intro ds first
    exact truthful ds (List.mem_of_mem_head? (Except.ok.inj first))
  | error e =>
    show EmitsTo _ _ (if e.isNotFound then _ else _) _
    split_ifs
    · nofun
    · nofun

theorem emitsTo_datasetQuery_mapError (f : Err → Err) :
    ((c.datasetQuery id).mapError f).EmitsTo Truthful (Call.Within F) (About id) := by
  refine emitsTo_mapError.mpr ?_
  refine emitsTo_mono (emitsTo_datasetQuery c id) fun r known ds shown => ?_
  cases r with
  | ok a => exact known ds shown
  | error e => cases shown

theorem within_datasetQuery {c : Client} {id : String} : M.Within F (c.datasetQuery id) :=
  (emitsTo_datasetQuery c id).emits

theorem within_setUserProperty {c : Client} {id key value : String}
    (allowed : F c.name (.update id { userPropertiesUpdate := [(key, value)] })) :
    M.Within F (c.setUserProperty id key value) :=
  emits_bind (within_dataset.mpr (.inr allowed)) fun _ => trivial

end Truenas

/-- An invariant of the allowed calls is one of the program. -/
theorem M.Within.wp {p : M α} (within : M.Within F p) {I : World → Prop}
    (preserved : ∀ fault c w, Call.Within F c → I w → I (World.handle fault c w).2) {w : World}
    (initial : I w) : M.wp p (fun _ t => I t) w :=
  Emits.wp_invariant World.handle handle_truthful within preserved initial

end

def Call.Keeps {β : Type} (part : State → β) : Call → Prop
  | .api _ op => ∀ a : State, part (a.act op).2 = part a
  | _ => True

/-- A part of every appliance is left alone. -/
abbrev M.Keeps {α β : Type} (part : State → β) (p : M α) : Prop :=
  p.Emits Truthful (Call.Keeps part)

section

variable {α β : Type} {part : State → β} {p : M α} {backend : String}

theorem Call.Keeps.acted {op : Op}
    (keeps : Call.Keeps part (.api backend op)) (w : World) (other : String) :
    part ((w.acted backend op).appliance other) = part (w.appliance other) := by
  unfold World.acted
  by_cases here : other = backend
  · subst here
    rw [World.setAppliance_self]
    exact keeps _
  · rw [World.setAppliance_other _ _ here]

theorem Call.Keeps.handle {c : Call} (keeps : Call.Keeps part c) (fault : Fault) (w : World)
    (backend : String) :
    part ((World.handle fault c w).2.appliance backend) = part (w.appliance backend) := by
  cases c with
  | api b op =>
    cases fault with
    | none => exact keeps.acted w backend
    | refused e => rfl
    | lost e => exact keeps.acted w backend
  | client b =>
    by_cases dialled : b ∈ w.process.connected
    · simp [World.handle, dialled]
    · cases fault <;> simp [World.handle, dialled]
  | process op => cases fault <;> rfl

/-- A program keeps what each of its calls keeps. -/
theorem M.Keeps.wp (keeps : M.Keeps part p) (w : World) (backend : String) :
    M.wp p (fun _ t => part (t.appliance backend) = part (w.appliance backend)) w := by
  refine Emits.wp_invariant World.handle handle_truthful keeps ?_ rfl
  intro fault c t kept before
  exact (kept.handle fault t backend).trans before

theorem M.Keeps.run (keeps : M.Keeps part p) (faults : List Fault) (w : World) (backend : String) :
    part ((M.run p faults w).2.appliance backend) = part (w.appliance backend) :=
  wp_iff_run.mp (keeps.wp w backend) faults

theorem M.Keeps.yields (keeps : M.Keeps part p) {w : World} {x : β}
    (before : part (w.appliance backend) = x) :
    M.yields p (fun _ t => part (t.appliance backend) = x) w :=
  yields_iff_wp.mpr (wp_mono (keeps.wp w backend) fun _ _ kept _ _ => kept.trans before)

theorem Appliance.Storage.act_reads {op : DatasetOp} (reads : op.reads = true)
    (s : Storage) : (Storage.act op s).2 = s := by
  cases op with
  | recommendedZvolBlocksize pool =>
    cases found : s.pools.get? pool <;> simp [Storage.act, found]
  | _ => first | rfl | cases reads

theorem M.Within.keeps {F : String → DatasetOp → Prop} (within : M.Within F p)
    (stored : ∀ a b : State, b.storage = a.storage → part b = part a)
    (writes : ∀ backend op a, F backend op → part (a.act (.dataset op)).2 = part a) :
    M.Keeps part p := by
  refine Emits.mono within fun c inside => ?_
  cases c with
  | api b op =>
    intro a
    cases op with
    | dataset op =>
      rcases inside with reads | written
      · exact stored a _ (Storage.act_reads reads a.storage)
      · exact writes b op a written
    | nfs op => exact stored a _ rfl
    | smb op => exact stored a _ rfl
    | iscsi op => exact stored a _ rfl
    | nvmet op => exact stored a _ rfl
  | client b => trivial
  | process op => trivial

theorem M.Within.keeps_storage (within : M.Within (fun _ _ => False) p) :
    M.Keeps State.storage p :=
  within.keeps (fun _ _ same => same) fun _ _ _ => False.elim

end

end TruenasCsi
