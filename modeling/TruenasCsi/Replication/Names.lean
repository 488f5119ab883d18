import TruenasCsi.Replication.Resource
import TruenasCsi.Volume.Ownership

/-! Names of replication objects, joined by a dash that both parts may have. -/

namespace TruenasCsi.Replication

open Volume

/-- Two pairs that a dash joins to one text. -/
def Overlap (a b : String × String) : Prop :=
  a = b ∨ ∃ k, (a.1 = b.1 ++ "-" ++ k ∧ b.2 = k ++ "-" ++ a.2) ∨
    (b.1 = a.1 ++ "-" ++ k ∧ a.2 = k ++ "-" ++ b.2)

private theorem append_cons_eq_append_cons {α : Type} (sep : α) (a b c d : List α) :
    a ++ sep :: b = c ++ sep :: d ↔ (a = c ∧ b = d) ∨
      ∃ k, (a = c ++ sep :: k ∧ d = k ++ sep :: b) ∨ (c = a ++ sep :: k ∧ b = k ++ sep :: d) := by
  constructor
  · intro same
    -- The shorter of the two first parts is a front of the other.
    rcases List.append_eq_append_iff.mp same with ⟨more, front, back⟩ | ⟨more, front, back⟩
    · cases more with
      | nil =>
        left
        simp only [List.nil_append, List.cons.injEq, true_and] at back
        exact ⟨by simpa using front.symm, back⟩
      | cons x k =>
        simp only [List.cons_append, List.cons.injEq] at back
        obtain ⟨rfl, rest⟩ := back
        exact .inr ⟨k, .inr ⟨front, rest⟩⟩
    · cases more with
      | nil =>
        left
        simp only [List.nil_append, List.cons.injEq, true_and] at back
        exact ⟨by simpa using front, back.symm⟩
      | cons x k =>
        simp only [List.cons_append, List.cons.injEq] at back
        obtain ⟨rfl, rest⟩ := back
        exact .inr ⟨k, .inl ⟨front, rest⟩⟩
  · rintro (⟨rfl, rfl⟩ | ⟨k, ⟨rfl, rfl⟩ | ⟨rfl, rfl⟩⟩)
    · rfl
    · simp
    · simp

/-- Joined texts agree exactly if the keys overlap: a dash may be in either part. -/
theorem dashed_eq_iff {a b : String × String} :
    a.1 ++ "-" ++ a.2 = b.1 ++ "-" ++ b.2 ↔ Overlap a b := by
  have cutAt : ∀ x y z : String, x = y ++ "-" ++ z ↔ x.toList = y.toList ++ '-' :: z.toList := by
    intro x y z
    rw [← String.toList_inj]
    simp
  rw [← String.toList_inj]
  have apart := append_cons_eq_append_cons '-' a.1.toList a.2.toList b.1.toList b.2.toList
  simp only [String.toList_append, List.append_assoc]
  refine apart.trans ?_
  unfold Overlap
  constructor
  · rintro (⟨one, two⟩ | ⟨k, halves⟩)
    · exact .inl (Prod.ext (String.toList_inj.mp one) (String.toList_inj.mp two))
    · refine .inr ⟨String.ofList k, ?_⟩
      simpa [cutAt] using halves
  · rintro (rfl | ⟨k, halves⟩)
    · exact .inl ⟨rfl, rfl⟩
    · refine .inr ⟨k.toList, ?_⟩
      simpa [cutAt] using halves

/-- A DNS subdomain, as object names are. -/
def validName (name : String) : Bool :=
  name.utf8ByteSize ≤ 253 && (Text.split '.' name).all fun label =>
    label != "" && (badLabelChar label.utf8ByteSize 0 label.toList).isNone

structure ValidObject (spg : StorageProtectionGroup) : Prop where
  ns : validateNamespace spg.ns = .ok ()
  name : validName spg.name = true

theorem ValidObject.ns_ne {spg : StorageProtectionGroup} (valid : ValidObject spg) : spg.ns ≠ "" :=
  (component_of_validateNamespace valid.ns).nonempty

def replicated (g : Group) : List (String × ID) := g.volumes.map fun id => (g.targetBackend, id)

/-- Two groups that share no name on any appliance. -/
structure Separate (a b : Group) : Prop where
  tasks : ∀ x ∈ [taskName a, reverseTaskName a], ∀ y ∈ [taskName b, reverseTaskName b], x ≠ y
  scratch : ∀ root, scratchRoot a root ≠ scratchRoot b root
  datasets : ∀ v ∈ replicated a ++ replicated b, ∀ w ∈ replicated a ++ replicated b,
    v.1 = w.1 → v.2 ≠ w.2 → ∀ root, targetDataset root v.2 ≠ targetDataset root w.2

def failbackSuffix (key : String × String) : String × String := (key.1, key.2 ++ "-failback")

/-- Two keys that share no derived name. -/
structure Unmistakable (a b : StorageProtectionGroup) (volumes : List (String × ID)) :
    Prop where
  plain : ¬ Overlap (a.ns, a.name) (b.ns, b.name)
  first : ¬ Overlap (failbackSuffix (a.ns, a.name)) (b.ns, b.name)
  second : ¬ Overlap (a.ns, a.name) (failbackSuffix (b.ns, b.name))
  volumes : ∀ v ∈ volumes, ∀ w ∈ volumes, v.1 = w.1 → v.2 ≠ w.2 → v.2.name ≠ w.2.name

section

variable {a b : StorageProtectionGroup} {ga gb : Group}

theorem name_of_groupFromSpec (made : groupFromSpec a = .ok ga) (valid : ValidObject a) :
    ga.name = a.ns ++ "-" ++ a.name := by
  unfold groupFromSpec at made
  split_ifs at made
  split at made <;> cases made
  simp [groupName, valid.ns_ne]

theorem taskName_eq_iff : taskName ga = taskName gb ↔ ga.name = gb.name := by
  simp [taskName, String.append_right_inj]

theorem reverseTaskName_eq_iff : reverseTaskName ga = reverseTaskName gb ↔ ga.name = gb.name := by
  simp [reverseTaskName, String.append_right_inj, String.append_left_inj]

theorem reverse_eq_taskName_iff : reverseTaskName ga = taskName gb ↔ ga.name ++ "-failback" = gb.name := by
  unfold reverseTaskName taskName
  rw [String.append_assoc, String.append_right_inj]

theorem scratchRoot_eq_iff {root : String} :
    scratchRoot ga root = scratchRoot gb root ↔ ga.name = gb.name := by
  simp [scratchRoot, String.append_right_inj]

theorem targetDataset_eq_iff {root : String} {v w : ID} :
    targetDataset root v = targetDataset root w ↔ v.name = w.name := by
  simp [targetDataset, String.append_right_inj]

theorem separate_iff : Separate ga gb ↔ ga.name ≠ gb.name ∧ ga.name ++ "-failback" ≠ gb.name ∧
    ga.name ≠ gb.name ++ "-failback" ∧
    ∀ v ∈ replicated ga ++ replicated gb, ∀ w ∈ replicated ga ++ replicated gb,
      v.1 = w.1 → v.2 ≠ w.2 → v.2.name ≠ w.2.name := by
  constructor
  · intro apart
    refine ⟨?_, ?_, ?_, ?_⟩
    · intro same
      exact apart.scratch "" (scratchRoot_eq_iff.mpr same)
    · intro same
      exact apart.tasks (reverseTaskName ga) (by simp) (taskName gb) (by simp)
        (reverse_eq_taskName_iff.mpr same)
    · intro same
      exact apart.tasks (taskName ga) (by simp) (reverseTaskName gb) (by simp)
        (reverse_eq_taskName_iff.mpr same.symm).symm
    · intro v hv w hw backend different same
      exact apart.datasets v hv w hw backend different "" (targetDataset_eq_iff.mpr same)
  · rintro ⟨plain, first, second, volumes⟩
    refine ⟨?_, ?_, ?_⟩
    · intro x hx y hy same
      simp only [List.mem_cons, List.not_mem_nil, or_false] at hx hy
      rcases hx with rfl | rfl <;> rcases hy with rfl | rfl
      · exact plain (taskName_eq_iff.mp same)
      · exact second (reverse_eq_taskName_iff.mp same.symm).symm
      · exact first (reverse_eq_taskName_iff.mp same)
      · exact plain (reverseTaskName_eq_iff.mp same)
    · intro root same
      exact plain (scratchRoot_eq_iff.mp same)
    · intro v hv w hw backend different root same
      exact volumes v hv w hw backend different (targetDataset_eq_iff.mp same)

/-- For two valid objects: their groups share no name of a task, of a scratch root or of a target dataset,
exactly if their keys do not overlap, with and without the failback suffix, and no two of their volumes on
one target have the same name. -/
theorem replication_names_iff (va : ValidObject a) (vb : ValidObject b)
    (fa : groupFromSpec a = .ok ga) (fb : groupFromSpec b = .ok gb) :
    Separate ga gb ↔ Unmistakable a b (replicated ga ++ replicated gb) := by
  have joined : ∀ x y : String × String, Overlap x y ↔ x.1 ++ "-" ++ x.2 = y.1 ++ "-" ++ y.2 :=
    fun _ _ => dashed_eq_iff.symm
  rw [separate_iff, name_of_groupFromSpec fa va, name_of_groupFromSpec fb vb]
  constructor
  · rintro ⟨plain, first, second, volumes⟩
    refine ⟨?_, ?_, ?_, volumes⟩
    · simpa [joined] using plain
    · simpa [joined, failbackSuffix, String.append_assoc] using first
    · simpa [joined, failbackSuffix, String.append_assoc] using second
  · rintro ⟨plain, first, second, volumes⟩
    refine ⟨?_, ?_, ?_, volumes⟩
    · simpa [joined] using plain
    · simpa [joined, failbackSuffix, String.append_assoc] using first
    · simpa [joined, failbackSuffix, String.append_assoc] using second

end

def protects (ns name handle : String) : StorageProtectionGroup where
  ns := ns
  name := name
  spec := { sourceBackend := "nas1", targetBackend := "nas2", volumeHandles := [handle] }

def protectedGroup (name volume : String) : Group where
  name := name
  sourceBackend := "nas1"
  targetBackend := "nas2"
  volumes := [⟨"nas1", "nfs", "Pool0", "k8s", "", volume⟩]

theorem payments_apart_from_orders :
    Separate (protectedGroup "prod-payments" "pvc-1") (protectedGroup "prod-orders" "pvc-2") := by
  have keys : ∀ x y : String × String, x.1 ++ "-" ++ x.2 ≠ y.1 ++ "-" ++ y.2 → ¬ Overlap x y :=
    fun _ _ different overlap => different (dashed_eq_iff.mpr overlap)
  refine (replication_names_iff (a := protects "prod" "payments" "nas1/nfs/Pool0/k8s/pvc-1")
    (b := protects "prod" "orders" "nas1/nfs/Pool0/k8s/pvc-2") ⟨by decide, by decide⟩
    ⟨by decide, by decide⟩ (by decide) (by decide)).mpr ?_
  exact ⟨keys _ _ (by decide), keys _ _ (by decide), keys _ _ (by decide),
    by decide⟩

/-- The dash moves, and two groups have one task. -/
theorem dash_moves_between_keys : ¬ ∀ (a b : StorageProtectionGroup) (ga gb : Group),
    ValidObject a → ValidObject b → (a.ns, a.name) ≠ (b.ns, b.name) →
      groupFromSpec a = .ok ga → groupFromSpec b = .ok gb → Separate ga gb := by
  intro apart
  have claimed := apart (protects "team-a" "db" "nas1/nfs/Pool0/k8s/pvc-1")
    (protects "team" "a-db" "nas1/nfs/Pool0/k8s/pvc-2") (protectedGroup "team-a-db" "pvc-1")
    (protectedGroup "team-a-db" "pvc-2") ⟨by decide, by decide⟩
    ⟨by decide, by decide⟩ (by decide) (by decide) (by decide)
  exact claimed.scratch "" rfl

end TruenasCsi.Replication
