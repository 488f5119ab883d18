import TruenasCsi.Replication.Footprint

/-! The object and the copy a reconcile works on. -/

namespace TruenasCsi.Replication

/-- A call that changes no object. -/
def Call.Aside : Call → Prop
  | .write _ => False
  | .update _ => False
  | .updateStatus _ => False
  | _ => True

theorem Call.Aside.frame {c : Call} (aside : c.Aside) (fault : Fault) (w : World) :
    (World.handle fault c w).2.copy = w.copy ∧ (World.handle fault c w).2.objects = w.objects := by
  have acts : ∀ backend op, (w.act backend op).2.copy = w.copy ∧
      (w.act backend op).2.objects = w.objects := by
    intro backend op
    rw [w.act_frame backend op]
    exact ⟨rfl, rfl⟩
  cases c with
  | api backend op =>
    cases fault with
    | none => exact acts backend op
    | refused e => exact ⟨rfl, rfl⟩
    | lost e => exact acts backend op
  | client backend =>
    by_cases connected : backend ∈ w.connected
    · simp [World.handle, connected]
    · cases fault <;> simp [World.handle, connected]
  | get ns name => cases fault <;> exact ⟨rfl, rfl⟩
  | write spg => cases aside
  | update spg => cases aside
  | updateStatus spg => cases aside
  | _ => exact ⟨rfl, rfl⟩

namespace World

variable (w : World) (spg : StorageProtectionGroup)

def stored (ns name : String) : List StorageProtectionGroup :=
  w.objects.filter (isObject ns name)

theorem object?_eq_head (ns name : String) : w.object? ns name = (w.stored ns name).head? := by
  unfold object? stored
  rw [List.head?_filter]

theorem stored_statusUpdated :
    (w.statusUpdated spg).stored spg.ns spg.name =
      (w.stored spg.ns spg.name).map fun s => { s with status := spg.status } := by
  unfold stored statusUpdated
  induction w.objects with
  | nil => rfl
  | cons first rest ih =>
    by_cases here : isObject spg.ns spg.name first = true
    · have still : isObject spg.ns spg.name { first with status := spg.status } = true := here
      simpa [here, still] using ih
    · have still : isObject spg.ns spg.name first = false := by simpa using here
      simpa [still] using ih

theorem stored_updated :
    (w.updated spg).stored spg.ns spg.name =
      (w.stored spg.ns spg.name).filterMap fun s =>
        if s.deleting && spg.finalizers == [] then none
        else some { s with finalizers := spg.finalizers, spec := spg.spec } := by
  unfold stored updated
  induction w.objects with
  | nil => rfl
  | cons first rest ih =>
    by_cases here : isObject spg.ns spg.name first = true
    · have still : isObject spg.ns spg.name
          { first with finalizers := spg.finalizers, spec := spg.spec } = true := here
      cases last : (first.deleting && spg.finalizers == []) with
      | true =>
        simp only [List.filterMap_cons, List.filter_cons, here, last, if_true]
        exact ih
      | false =>
        simp only [List.filterMap_cons, List.filter_cons, here, last, still, if_true, Bool.false_eq_true,
          if_false]
        rw [ih]
    · have still : isObject spg.ns spg.name first = false := by simpa using here
      simpa [still] using ih

theorem object?_statusUpdated :
    (w.statusUpdated spg).object? spg.ns spg.name =
      (w.object? spg.ns spg.name).map fun stored => { stored with status := spg.status } := by
  rw [object?_eq_head, object?_eq_head, stored_statusUpdated, List.head?_map]

theorem object?_updated {w : World} {spg : StorageProtectionGroup} (held : spg.finalizers ≠ []) :
    (w.updated spg).object? spg.ns spg.name = (w.object? spg.ns spg.name).map fun stored =>
      { stored with finalizers := spg.finalizers, spec := spg.spec } := by
  unfold object? updated
  induction w.objects with
  | nil => rfl
  | cons stored rest ih =>
    by_cases here : isObject spg.ns spg.name stored = true
    · have still : isObject spg.ns spg.name
          { stored with finalizers := spg.finalizers, spec := spg.spec } = true := here
      simp [here, held, still]
    · have still : isObject spg.ns spg.name stored = false := by simpa using here
      simpa [still] using ih

theorem handle_update (fault : Fault) (spg : StorageProtectionGroup) (w : World) :
    (handle fault (.update spg) w).2 = w ∨ (handle fault (.update spg) w).2 = w.updated spg := by
  cases fault with
  | refused e => exact .inl rfl
  | none =>
    simp only [handle, faulty]
    split_ifs
    · exact .inl rfl
    · exact .inr rfl
  | lost e =>
    simp only [handle, faulty]
    split_ifs
    · exact .inl rfl
    · exact .inr rfl

theorem handle_update_copy (fault : Fault) (spg : StorageProtectionGroup) (w : World) :
    (handle fault (.update spg) w).2.copy = w.copy := by
  obtain same | same := handle_update fault spg w
  · rw [same]
  · rw [same]
    rfl

theorem statusUpdated_missing {w : World} {spg : StorageProtectionGroup}
    (missing : w.object? spg.ns spg.name = none) : w.statusUpdated spg = w := by
  have same : (w.objects.map fun stored =>
      if isObject spg.ns spg.name stored then { stored with status := spg.status } else stored) =
      w.objects := by
    refine (List.map_congr_left fun stored member => ?_).trans (List.map_id _)
    rw [if_neg (List.find?_eq_none.mp missing stored member), id]
  unfold statusUpdated
  rw [same]

theorem handle_updateStatus {fault : Fault} (heard : ∀ e, fault ≠ .refused e)
    (spg : StorageProtectionGroup) (w : World) :
    (handle fault (.updateStatus spg) w).2 = w.statusUpdated spg := by
  have written : (if (w.object? spg.ns spg.name).isNone then
      ((.error (objectMissing spg), w) : Except Err Unit × World)
      else (.ok (), w.statusUpdated spg)).2 = w.statusUpdated spg := by
    split_ifs with missing
    · rw [statusUpdated_missing (Option.isNone_iff_eq_none.mp missing)]
    · rfl
  cases fault with
  | none => exact written
  | refused e => exact absurd rfl (heard e)
  | lost e => exact written

end World

end TruenasCsi.Replication
