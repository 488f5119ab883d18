import TruenasCsi.Fencing.View

/-! An unpublish of an iSCSI volume removes rows of the mapping table. -/

namespace TruenasCsi.Backend.Iscsi

open Truenas Appliance Prog

variable (t : Iscsi) (name : String)

def extentNamed : Option Extent :=
  (t.extents.filter fun row => row.name == name).head?

def targetNamed : Option Target :=
  (t.targets.filter fun row => row.name == name).head?

/-- The named extent is mapped on the named target. -/
def Exported (extent target : String) : Prop :=
  ∃ e ∈ extentNamed t extent, ∃ tg ∈ targetNamed t target,
    ∃ row ∈ t.targetExtents, row.target = tg.id ∧ row.extent = e.id

instance (t : Iscsi) (extent target : String) : Decidable (Exported t extent target) :=
  inferInstanceAs (Decidable (∃ e ∈ extentNamed t extent, ∃ tg ∈ targetNamed t target,
    ∃ row ∈ t.targetExtents, row.target = tg.id ∧ row.extent = e.id))

/-- Mappings were removed and nothing else was done. -/
structure Unmapped (t u : Iscsi) : Prop where
  extents : u.extents = t.extents
  targets : u.targets = t.targets
  rows : u.targetExtents ⊆ t.targetExtents

theorem Unmapped.refl : Unmapped t t := ⟨rfl, rfl, List.Subset.refl _⟩

theorem Unmapped.trans {t u v : Iscsi} (first : Unmapped t u) (second : Unmapped u v) : Unmapped t v :=
  ⟨second.extents.trans first.extents, second.targets.trans first.targets,
    List.Subset.trans second.rows first.rows⟩

/-- Removing rows of the mapping table exports nothing new. -/
theorem Unmapped.exported {t u : Iscsi} {extent target : String} (steps : Unmapped t u)
    (exported : Exported u extent target) : Exported t extent target := by
  obtain ⟨e, found, tg, found', row, present, same⟩ := exported
  rw [extentNamed, steps.extents] at found
  rw [targetNamed, steps.targets] at found'
  exact ⟨e, found, tg, found', row, steps.rows present, same⟩

section

variable {c : Client} {w : World}

abbrev mapped (c : Client) (w : World) : Iscsi := (w.appliance c.name).iscsi

@[simp] theorem mapped_acted (op : IscsiOp) :
    mapped c (w.acted c.name (.iscsi op)) = (Iscsi.act op (mapped c w)).2 := by
  simp [mapped, World.acted, State.act]

theorem wp_targetExtentDelete (id : Nat) : M.wp (targetExtentDelete c id) (fun r t =>
    Unmapped (mapped c w) (mapped c t) ∧
    (r = .ok () → ∀ row ∈ (mapped c t).targetExtents, row.id ≠ id)) w := by
  have done : Unmapped (mapped c w) (mapped c (w.acted c.name (.iscsi (.targetExtentDelete id)))) ∧
      ∀ row ∈ (mapped c (w.acted c.name (.iscsi (.targetExtentDelete id)))).targetExtents,
        row.id ≠ id := by
    rw [mapped_acted]
    simp only [Iscsi.act]
    split_ifs with there
    · exact ⟨⟨rfl, rfl, List.filter_sublist.subset⟩, fun row mem => by
        simpa using (List.mem_filter.mp mem).2⟩
    · exact ⟨.refl _, by simpa using there⟩
  refine wp_gone (wp_middleware.mpr ⟨?_, ?_, ?_⟩)
  · intro e
    refine ⟨⟨.refl _, by simp⟩, ?_⟩
    rintro _ ⟨⟩ absent
    rw [e.notAbsence] at absent
    cases absent
  · exact fun e => ⟨⟨done.1, by simp⟩, fun _ _ _ => ⟨done.1, fun _ => done.2⟩⟩
  · exact ⟨⟨done.1, fun _ => done.2⟩, fun _ _ _ => ⟨done.1, fun _ => done.2⟩⟩

theorem wp_unmap (target extent : Nat) (rows : List TargetExtent) :
    M.wp (unmap c target extent rows) (fun r t => Unmapped (mapped c w) (mapped c t) ∧
      (r = .ok () → ∀ m ∈ rows, m.extent = extent →
        ∀ row ∈ (mapped c t).targetExtents, row.id ≠ m.id)) w := by
  induction rows generalizing w with
  | nil => exact ⟨.refl _, fun _ _ none => nomatch none⟩
  | cons m rest ih =>
    have others : ∀ {t : World}, Unmapped (mapped c w) (mapped c t) →
        (m.extent = extent → ∀ row ∈ (mapped c t).targetExtents, row.id ≠ m.id) →
        M.wp (unmap c target extent rest) (fun r u => Unmapped (mapped c w) (mapped c u) ∧
          (r = .ok () → ∀ k ∈ m :: rest, k.extent = extent →
            ∀ row ∈ (mapped c u).targetExtents, row.id ≠ k.id)) t := by
      intro t steps gone
      refine wp_mono (@ih t) ?_
      rintro r u ⟨more, done⟩
      refine ⟨steps.trans more, fun ok k member own row present => ?_⟩
      rcases List.mem_cons.mp member with rfl | later
      · exact gone own row (more.rows present)
      · exact done ok k later own row present
    unfold unmap
    by_cases own : m.extent = extent
    · rw [if_pos own]
      refine wp_bind.mpr (wp_mapError.mpr ?_)
      refine wp_mono (wp_targetExtentDelete m.id) ?_
      rintro r t ⟨step, gone⟩
      cases r with
      | error e => exact ⟨step, nofun⟩
      | ok _ =>
        exact wp_bind.mpr (wp_process.mpr (others step fun _ => gone rfl))
    · rw [if_neg own]
      exact others (.refl _) fun same => absurd same own

/-- After an unpublish that succeeded the extent is not mapped, whichever node was named. -/
theorem wp_unpublish {b : Server} {id : Volume.ID} {node : NodeRef} :
    M.wp (unpublish b id node) (fun r t =>
      Unmapped (mapped b.client w) (mapped b.client t) ∧
      (r = .ok () → ¬Exported (mapped b.client t) (extentName b.env.sha256 id)
        (targetName b.pool b.parent))) w := by
  have extents : Asks (queryExtent b.client (extentName b.env.sha256 id)) w
      (extentNamed (mapped b.client w) (extentName b.env.sha256 id)) :=
    (asks_first (wp_query rfl)).mapError _
  unfold unpublish
  refine extents.bind (fun e => ⟨.refl _, nofun⟩) ?_
  cases extent : extentNamed (mapped b.client w) (extentName b.env.sha256 id) with
  | none =>
    refine ⟨.refl _, fun _ => ?_⟩
    rintro ⟨e, found, -⟩
    rw [extent] at found
    cases found
  | some e =>
    have targets : Asks (queryTarget b.client (targetName b.pool b.parent)) w
        (targetNamed (mapped b.client w) (targetName b.pool b.parent)) :=
      (asks_first (wp_query rfl)).mapError _
    refine targets.bind (fun e => ⟨.refl _, nofun⟩) ?_
    cases target : targetNamed (mapped b.client w) (targetName b.pool b.parent) with
    | none =>
      refine ⟨.refl _, fun _ => ?_⟩
      rintro ⟨_, -, tg, found, -⟩
      rw [target] at found
      cases found
    | some tg =>
      have rows : Asks (targetExtentList b.client tg.id) w
          ((mapped b.client w).targetExtents.filter fun row => row.target == tg.id) :=
        asks_rows (wp_query rfl)
      refine (rows.mapError _).bind (fun e => ⟨.refl _, nofun⟩) ?_
      refine wp_mono (wp_unmap tg.id e.id _) ?_
      rintro r t ⟨steps, gone⟩
      refine ⟨steps, fun ok => ?_⟩
      rintro ⟨e', found, tg', found', row, present, onTarget, ofExtent⟩
      -- The tables still have the same extent and target first under their names.
      rw [extentNamed, steps.extents] at found
      rw [targetNamed, steps.targets] at found'
      obtain rfl := Option.some.inj (extent.symm.trans found)
      obtain rfl := Option.some.inj (target.symm.trans found')
      have listed : row ∈ (mapped b.client w).targetExtents.filter fun row => row.target == tg.id :=
        List.mem_filter.mpr ⟨steps.rows present, by simpa using onTarget⟩
      exact gone ok row listed ofExtent row present rfl

end

end TruenasCsi.Backend.Iscsi
