import TruenasCsi.Backend.Making

/-! What a creation does to targets and initiator groups. -/

namespace TruenasCsi.Targets

open Appliance Backend.Iscsi Prog Truenas Backend World

/-- The tables that decide who may log in to a target. -/
def tables (a : State) : List Target × List Initiator := (a.iscsi.targets, a.iscsi.initiators)

section

variable {c : Client} {backend : String}

theorem keeps_tables_dataset {op : DatasetOp} :
    Call.Keeps tables (.api backend (.dataset op)) := fun _ => rfl

theorem keeps_tables_iscsi {op : IscsiOp} (spares : op.sparesTargets = true)
    (sparesToo : op.sparesInitiators = true) : Call.Keeps tables (.api backend (.iscsi op)) :=
  fun a => Prod.ext (Iscsi.act_sparesTargets spares a.iscsi) (Iscsi.act_sparesInitiators sparesToo a.iscsi)

theorem keeps_tables_peripheral (op : IscsiOp) (asked : op.peripheral = true) :
    Call.Keeps tables (.api c.name (.iscsi op)) :=
  keeps_tables_iscsi (IscsiOp.sparesTargets_of_peripheral asked).1
    (IscsiOp.sparesTargets_of_peripheral asked).2

variable (dsPath id protocol : String) (r : CreateRequest) (sparse : Bool)

theorem keeps_tables_setUserProperty (key value : String) :
    M.Keeps tables (c.setUserProperty id key value) :=
  emits_bind (emits_issue.mpr keeps_tables_dataset) fun _ => trivial

theorem keeps_tables_recordIdentity (id : Volume.Identity) :
    M.Keeps tables (recordIdentity c dsPath id) :=
  emits_if (fun _ => trivial) fun _ => emits_bind (emits_attempt.mpr
    (emits_issue.mpr keeps_tables_dataset)) fun _ => trivial

theorem keeps_tables_stampClone : M.Keeps tables (stampClone c dsPath protocol) := by
  unfold stampClone
  induction stampProperties dsPath protocol with
  | nil => trivial
  | cons stamp rest ih =>
    exact emits_bind (emits_mapError.mpr (keeps_tables_setUserProperty _ _ _)) fun _ => ih

theorem keeps_tables_datasetQuery : M.Keeps tables (c.datasetQuery id) :=
  emits_first (emits_issue.mpr keeps_tables_dataset)

theorem keeps_tables_datasetDelete (recursive force : Bool) :
    M.Keeps tables (c.datasetDelete id recursive force) := by
  refine emits_bind (emits_attempt.mpr (emits_issue.mpr keeps_tables_dataset)) fun r => ?_
  cases r with
  | ok u => trivial
  | error e =>
    refine emits_if (fun _ => trivial) fun _ => emits_if (fun _ => ?_) fun _ => trivial
    refine emits_bind (emits_bind (emits_attempt.mpr (emits_rows
      (emits_issue.mpr keeps_tables_dataset))) fun all => ?_) fun _ => trivial
    cases all <;> trivial

theorem keeps_tables_cloneZvol : M.Keeps tables (Zvol.cloneZvol c protocol r sparse) := by
  refine emits_bind (emits_mapError.mpr (emits_issue.mpr keeps_tables_dataset)) fun _ => ?_
  refine emits_rescue ?_ fun _ => emits_bind (emits_bind (emits_attempt.mpr
    (keeps_tables_datasetDelete _ _ _)) fun _ => trivial) fun _ => trivial
  refine emits_bind (keeps_tables_stampClone _ _) fun _ =>
    emits_bind (emits_mapError.mpr (keeps_tables_datasetQuery _)) fun ds => ?_
  cases ds with
  | none => trivial
  | some ds =>
    exact emits_if (fun _ => emits_bind (emits_mapError.mpr
      (emits_issue.mpr keeps_tables_dataset)) fun _ => trivial) fun _ => trivial

theorem keeps_tables_createZvol (volBlockSize : String) :
    M.Keeps tables (Zvol.createZvol c protocol r sparse volBlockSize) := by
  refine emits_bind (emits_if (fun _ => emits_mapError.mpr
    (emits_issue.mpr keeps_tables_dataset)) fun _ => trivial) fun blocksize => ?_
  refine emits_bind (emits_mapError.mpr (emits_bind (emits_attempt.mpr
    (emits_issue.mpr keeps_tables_dataset)) fun made => ?_)) fun _ => trivial
  cases made with
  | ok ds => trivial
  | error e => exact emits_if (fun _ => trivial) fun _ => trivial

theorem keeps_tables_ensureZvol (volBlockSize : String) :
    M.Keeps tables (Zvol.ensureZvol c protocol r sparse volBlockSize) := by
  unfold Zvol.ensureZvol
  generalize Volume.identityFrom r.params = identity
  refine emits_bind (emits_mapError.mpr (keeps_tables_datasetQuery _)) fun ds => ?_
  cases ds with
  | some ds =>
    exact emits_if (fun _ => emits_bind (keeps_tables_stampClone _ _) fun _ =>
      emits_bind (keeps_tables_recordIdentity _ _) fun _ => trivial) fun _ => trivial
  | none =>
    refine emits_if (fun _ => ?_) fun _ => ?_
    · exact emits_bind (keeps_tables_createZvol _ _ _ _) fun _ =>
        emits_bind (keeps_tables_recordIdentity _ _) fun _ => trivial
    · exact emits_bind (keeps_tables_cloneZvol _ _ _) fun _ =>
        emits_bind (keeps_tables_recordIdentity _ _) fun _ => trivial

theorem keeps_tables_ensureExtent (name dsPath : String) :
    M.Keeps tables (ensureExtent c name dsPath) := by
  refine emits_bind (emits_queryExtent keeps_tables_peripheral _) fun extent => ?_
  cases extent with
  | some extent => trivial
  | none =>
    exact emits_bind (emits_mapError.mpr (emits_issue.mpr (keeps_tables_iscsi rfl rfl)))
      fun _ => trivial

theorem wp_nextID {α : Type} (p : M α) (w : World) (backend : String) :
    M.wp p (fun _ t => (w.appliance backend).iscsi.nextID ≤ (t.appliance backend).iscsi.nextID) w := by
  have anything : p.Emits Truthful fun _ => True := by
    induction p with
    | ret a => trivial
    | fail e => trivial
    | call c k ih => exact ⟨trivial, fun r _ => ih r⟩
  refine Prog.Emits.wp_invariant handle handle_truthful anything ?_ le_rfl
  intro fault c t _ before
  refine before.trans ?_
  have acted (b : String) (op : Op) : (t.appliance backend).iscsi.nextID ≤
      ((t.acted b op).appliance backend).iscsi.nextID := by
    unfold acted
    by_cases here : backend = b
    · subst here
      rw [setAppliance_self]
      cases op with
      | iscsi op => exact Iscsi.act_nextID op _
      | _ => exact le_rfl
    · rw [setAppliance_other _ _ here]
  cases c with
  | api b op =>
    cases fault with
    | none => exact acted b op
    | refused e => exact le_rfl
    | lost e => exact acted b op
  | client b =>
    by_cases dialled : b ∈ t.process.connected
    · simp [handle, dialled]
    · cases fault <;> simp [handle, dialled]
  | process op => cases fault <;> exact le_rfl

end

/-- The one initiator group that the driver looks for, by its comment. -/
def driverGroup (i : Iscsi) : Option Initiator := i.initiators.find? fun row => row.comment == initiatorComment

/-- The group lists all of these initiators. -/
def Covers (rows : List Initiator) (id : Nat) (iqns : List String) : Prop :=
  ∃ row ∈ rows, row.id = id ∧ ∀ q ∈ iqns, q ∈ row.initiators

/-- The group covers the initiators. -/
structure Ensured (iqns : List String) (before after : Iscsi) (id : Nat) : Prop where
  targets : after.targets = before.targets
  covers : Covers after.initiators id iqns
  others : ∀ i, i < before.nextID →
    (Covers after.initiators i iqns ↔
      (∃ g, driverGroup before = some g ∧ g.id = i) ∨ Covers before.initiators i iqns)
  numbered : (∀ row ∈ before.initiators, row.id ≠ 0) → before.nextID ≠ 0 → id ≠ 0

section

variable {c : Client} {p : Params} {w : World}

theorem asks_findInitiatorGroup : Asks (findInitiatorGroup c) w
    (driverGroup (w.appliance c.name).iscsi) := by
  have answer : driverGroup (w.appliance c.name).iscsi =
      ((w.appliance c.name).iscsi.initiators.filter fun row => row.comment == initiatorComment).head? := by
    rw [driverGroup, List.head?_filter]
  rw [answer]
  exact (asks_first (wp_query rfl)).mapError _

/-- What is missing is added, so all that is wanted is there. -/
theorem mem_missingIQNs {present want : List String} (q : String) (wanted : q ∈ want) :
    q ∈ present ++ missingIQNs present want := by
  by_cases listed : q ∈ present
  · exact List.mem_append_left _ listed
  · exact List.mem_append_right _ (List.mem_filter.mpr ⟨wanted, by simpa using listed⟩)

theorem iscsi_acted (w : World) (op : IscsiOp) :
    ((w.acted c.name (.iscsi op)).appliance c.name).iscsi =
      (Iscsi.act op (w.appliance c.name).iscsi).2 := by
  simp [acted, State.act]

variable {i : Iscsi} {iqns : List String} {g : Initiator}

theorem ensured_complete (found : driverGroup i = some g)
    (complete : missingIQNs g.initiators iqns = []) : Ensured iqns i i g.id := by
  have member := List.mem_of_find?_eq_some found
  have all : ∀ q ∈ iqns, q ∈ g.initiators := by
    intro q wanted
    have listed : q ∈ g.initiators ++ missingIQNs g.initiators iqns := mem_missingIQNs q wanted
    rwa [complete, List.append_nil] at listed
  have covers : Covers i.initiators g.id iqns := ⟨g, member, rfl, all⟩
  refine ⟨rfl, covers, fun n _ => ⟨.inr, ?_⟩, fun positive _ => positive g member⟩
  rintro (⟨g', same, rfl⟩ | covered)
  · rw [found] at same
    cases same
    exact covers
  · exact covered

theorem covers_updateRow {rows : List Initiator} {id : Nat} {listed : List String} (i : Nat) :
    Covers (updateRow Initiator.id id (fun row => { row with initiators := listed }) rows)
        i iqns ↔
      if i = id then (∃ row ∈ rows, row.id = id) ∧ ∀ q ∈ iqns, q ∈ listed
      else Covers rows i iqns := by
  unfold Covers updateRow
  simp only [List.mem_map]
  split_ifs with same
  · subst same
    constructor
    · rintro ⟨_, ⟨row, member, rfl⟩, named, all⟩
      by_cases here : row.id = i
      · simp only [if_pos here] at all
        exact ⟨⟨row, member, here⟩, all⟩
      · simp only [if_neg here] at named
        exact absurd named here
    · rintro ⟨⟨row, member, here⟩, all⟩
      exact ⟨_, ⟨row, member, rfl⟩, by simp [here], by simpa [here] using all⟩
  · constructor
    · rintro ⟨_, ⟨row, member, rfl⟩, named, all⟩
      by_cases here : row.id = id
      · simp only [if_pos here] at named
        exact absurd (named.symm.trans here) same
      · simp only [if_neg here] at named all
        exact ⟨row, member, named, all⟩
    · rintro ⟨row, member, named, all⟩
      have elsewhere : row.id ≠ id := fun here => same (named.symm.trans here)
      exact ⟨row, ⟨row, member, if_neg elsewhere⟩, named, all⟩

theorem ensured_update (found : driverGroup i = some g) :
    Ensured iqns i (Iscsi.act (.initiatorUpdate g.id (g.initiators ++ missingIQNs g.initiators iqns)) i).2
      g.id := by
  have member := List.mem_of_find?_eq_some found
  obtain ⟨row, first⟩ : ∃ row, i.initiators.find? (fun row => row.id == g.id) = some row := by
    refine Option.isSome_iff_exists.mp (List.find?_isSome.mpr ⟨g, member, ?_⟩)
    simp
  have after : (Iscsi.act (.initiatorUpdate g.id (g.initiators ++ missingIQNs g.initiators iqns)) i).2 =
      { i with initiators := updateRow Initiator.id g.id (fun row => { row with
        initiators := g.initiators ++ missingIQNs g.initiators iqns }) i.initiators } := by
    simp only [Iscsi.act, first]
  rw [after]
  refine ⟨rfl, ?_, fun n _ => ?_, fun positive _ => positive g member⟩
  · rw [covers_updateRow, if_pos rfl]
    exact ⟨⟨g, member, rfl⟩, mem_missingIQNs⟩
  · rw [covers_updateRow]
    split_ifs with same
    · subst same
      exact iff_of_true ⟨⟨g, member, rfl⟩, mem_missingIQNs⟩ (.inl ⟨g, found, rfl⟩)
    · refine ⟨.inr, fun covered => covered.resolve_left ?_⟩
      rintro ⟨g', again, rfl⟩
      rw [found] at again
      exact same (by cases again; rfl)

theorem ensured_create (absent : driverGroup i = none) :
    Ensured iqns i (Iscsi.act (.initiatorCreate initiatorComment iqns) i).2 i.nextID := by
  refine ⟨rfl, ⟨⟨i.nextID, initiatorComment, iqns⟩, by simp [Iscsi.act], rfl, fun _ wanted => wanted⟩,
    fun n old => ?_, fun _ positive => positive⟩
  simp only [Iscsi.act, Covers, List.mem_append, List.mem_singleton, absent]
  constructor
  · rintro ⟨row, member | rfl, named, all⟩
    · exact .inr ⟨row, member, named, all⟩
    · exact absurd named (Nat.ne_of_gt old)
  · rintro (⟨g, wrong, -⟩ | ⟨row, member, named, all⟩)
    · cases wrong
    · exact ⟨row, .inl member, named, all⟩

theorem driverGroup_create (absent : driverGroup i = none) :
    driverGroup (Iscsi.act (.initiatorCreate initiatorComment iqns) i).2 =
      some ⟨i.nextID, initiatorComment, iqns⟩ := by
  unfold driverGroup at absent ⊢
  simp only [Iscsi.act]
  rw [List.find?_append, absent]
  simp

/-- Afterwards the driver's group is there and lists every node. -/
theorem yields_ensureInitiatorGroup (acl : p.initiatorACL = true) (nodes : p.nodeIQNs ≠ []) :
    M.yields (ensureInitiatorGroup c p) (fun id t =>
      Ensured p.nodeIQNs (w.appliance c.name).iscsi (t.appliance c.name).iscsi id) w := by
  have asked : ¬((!p.initiatorACL || p.nodeIQNs.isEmpty) = true) := by
    simp [acl, nodes]
  unfold ensureInitiatorGroup
  rw [if_neg asked]
  refine asks_findInitiatorGroup.yields_seq ?_
  cases found : driverGroup (w.appliance c.name).iscsi with
  | some g =>
    simp only
    split_ifs with complete
    · exact yields_ret (ensured_complete found complete)
    · have updated : M.yields ((iscsi c (.initiatorUpdate g.id (g.initiators ++
          missingIQNs g.initiators p.nodeIQNs))).mapError
            fun e => e.wrap "adding node IQNs to the initiator group: ") (fun row t => row.id = g.id ∧
          Ensured p.nodeIQNs (w.appliance c.name).iscsi (t.appliance c.name).iscsi g.id) w := by
        refine yields_mapError (yields_middleware fun row answered => ?_)
        rw [iscsi_acted]
        refine ⟨?_, ensured_update found⟩
        have answer : (Iscsi.act (.initiatorUpdate g.id (g.initiators ++
            missingIQNs g.initiators p.nodeIQNs)) (w.appliance c.name).iscsi).1 = .ok row := answered
        simp only [Iscsi.act] at answer
        split at answer
        · cases answer
        · next first =>
          cases answer
          simpa using List.find?_some first
      refine yields_bind updated ?_
      rintro row t ⟨same, ensured⟩
      rw [← same] at ensured
      exact yields_ret ensured
  | none =>
    simp only
    -- The group is there after a creation whose answer is lost, too.
    have made : M.wp (iscsi c (.initiatorCreate initiatorComment p.nodeIQNs)) (fun r t =>
        (∀ row, r = .ok row → Ensured p.nodeIQNs (w.appliance c.name).iscsi
          (t.appliance c.name).iscsi row.id) ∧
        (driverGroup (t.appliance c.name).iscsi = none ∨
          ∃ g, driverGroup (t.appliance c.name).iscsi = some g ∧
            Ensured p.nodeIQNs (w.appliance c.name).iscsi (t.appliance c.name).iscsi g.id)) w := by
      refine wp_middleware.mpr ⟨fun e => ⟨by simp, .inl found⟩, fun e => ⟨by simp, .inr ?_⟩, ?_⟩
      · rw [iscsi_acted]
        exact ⟨_, driverGroup_create found, ensured_create found⟩
      · rw [iscsi_acted]
        refine ⟨fun row answered => ?_, .inr ⟨_, driverGroup_create found, ensured_create found⟩⟩
        cases answered
        exact ensured_create found
    refine yields_bind (yields_attempt made) ?_
    rintro r t ⟨answered, again⟩
    cases r with
    | ok row => exact yields_ret (answered row rfl)
    | error e =>
      refine yields_bind (yields_attempt asks_findInitiatorGroup) ?_
      rintro r u ⟨rfl, rfl | ⟨e', rfl⟩⟩
      · rcases again with none | ⟨g, some, ensured⟩
        · rw [none]
          exact yields_fail
        · rw [some]
          exact yields_ret ensured
      · exact yields_fail

end

end TruenasCsi.Targets
