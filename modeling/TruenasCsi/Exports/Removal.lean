import TruenasCsi.Backend.Nfs
import TruenasCsi.Backend.Smb

/-! An entry is compared as it stands with trimmed addresses. -/

namespace TruenasCsi.Exports

open Text Backend

theorem sortedSet_congr {a b : List String} (same : ∀ s, s ∈ a ↔ s ∈ b) : sortedSet a = sortedSet b := by
  have perm : (sortedSet a).Perm (sortedSet b) := by
    apply (List.perm_ext_iff_of_nodup _ _).mpr
    · simpa using same
    · exact (List.perm_insertionSort _ _).nodup_iff.mpr a.nodup_dedup
    · exact (List.perm_insertionSort _ _).nodup_iff.mpr b.nodup_dedup
  exact perm.eq_of_pairwise' (List.pairwise_insertionSort _ _) (List.pairwise_insertionSort _ _)

variable (always current remove : List String)

/-- The removal of both backends. -/
def withoutOf : List String :=
  sortedSet (always ++ ((current.filter fun h => h ∉ remove.map trimSpace).map trimSpace).filter (· ≠ ""))

/-- The addresses that stay are there, no others. -/
def Parted (result : List String) : Prop :=
  ∀ h, h ∈ result.map trimSpace ↔
    h ∈ always ∨ h ≠ "" ∧ h ∈ current.map trimSpace ∧ h ∉ remove.map trimSpace

/-- Exact, idempotent and additive. -/
structure Clean (without : List String → List String → List String)
    (always current remove more : List String) : Prop where
  exact : Parted always current remove (without current remove)
  twice : without (without current remove) remove = without current remove
  both : without (without current remove) more = without current (remove ++ more)

/-- No entry to be removed has blanks around it. -/
def Spelled : Prop :=
  ∀ c ∈ current, trimSpace c ∈ remove.map trimSpace → trimSpace c ≠ "" → trimSpace c ∉ always →
    trimSpace c = c

section

variable {always current remove more : List String}

theorem mem_withoutOf {h : String} : h ∈ withoutOf always current remove ↔
    h ∈ always ∨ h ≠ "" ∧ ∃ c ∈ current, c ∉ remove.map trimSpace ∧ trimSpace c = h := by
  simp only [withoutOf, mem_sortedSet, List.mem_append, List.mem_filter, List.mem_map, decide_eq_true_eq]
  grind

theorem trimmed_of_mem {h : String} (listed : h ∈ remove.map trimSpace) : trimSpace h = h := by
  obtain ⟨r, -, rfl⟩ := List.mem_map.mp listed
  exact trimSpace_trimSpace r

theorem Spelled.left (spelled : Spelled always current (remove ++ more)) :
    Spelled always current remove := fun c listed removed =>
  spelled c listed (by simp only [List.map_append, List.mem_append, removed, true_or])

variable (plain : ∀ h ∈ always, trimSpace h = h)

include plain

theorem trimmed_of_withoutOf {h : String} (kept : h ∈ withoutOf always current remove) :
    trimSpace h = h := by
  rcases mem_withoutOf.mp kept with there | ⟨-, c, -, -, rfl⟩
  · exact plain h there
  · exact trimSpace_trimSpace c

theorem map_withoutOf : (withoutOf always current remove).map trimSpace = withoutOf always current remove :=
  (List.map_congr_left fun _ kept => trimmed_of_withoutOf plain kept).trans (List.map_id _)

/-- What is to be removed is gone exactly if it was spelled as it is compared. -/
theorem exact_iff : Parted always current remove (withoutOf always current remove) ↔
    Spelled always current remove := by
  unfold Parted
  rw [map_withoutOf plain]
  constructor
  · intro exact c listed removed address other
    by_contra blank
    -- The entry itself is not among the trimmed addresses.
    have kept : c ∉ remove.map trimSpace := fun same => blank (trimmed_of_mem same)
    rcases (exact (trimSpace c)).mp (mem_withoutOf.mpr (.inr ⟨address, c, listed, kept, rfl⟩))
      with there | ⟨-, -, gone⟩
    · exact other there
    · exact gone removed
  · intro spelled h
    rw [mem_withoutOf]
    constructor
    · rintro (there | ⟨address, c, listed, kept, rfl⟩)
      · exact .inl there
      · by_cases other : trimSpace c ∈ always
        · exact .inl other
        · refine .inr ⟨address, List.mem_map_of_mem listed, fun removed => kept ?_⟩
          rwa [← spelled c listed removed address other]
    · rintro (there | ⟨address, listed, kept⟩)
      · exact .inl there
      · obtain ⟨c, there, rfl⟩ := List.mem_map.mp listed
        refine .inr ⟨address, c, there, fun removed => kept ?_, rfl⟩
        rwa [trimmed_of_mem removed]

theorem exact_again : Parted always (withoutOf always current remove) more
    (withoutOf always (withoutOf always current remove) more) :=
  (exact_iff plain).mpr fun _ kept _ _ _ => trimmed_of_withoutOf plain kept

theorem both_of_spelled (spelled : Spelled always current (remove ++ more)) :
    withoutOf always (withoutOf always current remove) more =
      withoutOf always current (remove ++ more) := by
  have again : Parted always (withoutOf always current remove) more _ := exact_again plain
  have once := (exact_iff plain).mpr spelled.left
  have all := (exact_iff plain).mpr spelled
  unfold Parted at again once all
  simp only [map_withoutOf plain] at again once all
  have same (h : String) : h ∈ withoutOf always (withoutOf always current remove) more ↔
      h ∈ withoutOf always current (remove ++ more) := by
    rw [again, once, all, List.map_append, List.mem_append]
    tauto
  unfold withoutOf at same ⊢
  exact sortedSet_congr fun h => by simpa only [mem_sortedSet] using same h

/-- One statement for both protocols, by what is always on the list. -/
theorem clean_withoutOf_iff : Clean (withoutOf always) always current remove more ↔
    Spelled always current (remove ++ more) := by
  constructor
  · rintro ⟨exact, -, both⟩ c listed removed address other
    rw [List.map_append, List.mem_append] at removed
    rcases removed with removed | removed
    · exact (exact_iff plain).mp exact c listed removed address other
    by_contra blank
    have kept : c ∉ (remove ++ more).map trimSpace := fun same => blank (trimmed_of_mem same)
    have stays : trimSpace c ∈ withoutOf always current (remove ++ more) :=
      mem_withoutOf.mpr (.inr ⟨address, c, listed, kept, rfl⟩)
    rw [← both, ← map_withoutOf plain] at stays
    rcases (exact_again plain _).mp stays with there | ⟨-, -, gone⟩
    · exact other there
    · exact gone removed
  · intro spelled
    have again : Spelled always current (remove ++ remove) := fun c listed removed =>
      spelled.left c listed (by simpa only [List.map_append, List.mem_append, or_self] using removed)
    refine ⟨(exact_iff plain).mpr spelled.left, (both_of_spelled plain again).trans ?_,
      both_of_spelled plain spelled⟩
    simp only [withoutOf, List.map_append, List.mem_append, or_self]

end

/-- For all lists: removing entries of an NFS or SMB host list is exact, idempotent and additive, exactly if
no entry to be removed has blanks around it. -/
theorem host_removal_clean_iff (current remove more : List String) :
    (Clean Nfs.withoutHosts [Nfs.denyHost] current remove more ↔
      Spelled [Nfs.denyHost] current (remove ++ more)) ∧
    (Clean Smb.withoutHosts [] current remove more ↔ Spelled [] current (remove ++ more)) := by
  have deny : ∀ h ∈ [Nfs.denyHost], trimSpace h = h := by decide
  have nothing : ∀ h ∈ ([] : List String), trimSpace h = h := by decide
  exact ⟨clean_withoutOf_iff deny, clean_withoutOf_iff nothing⟩

/-- An address after a blank stays on both exports. -/
theorem blank_keeps_address :
    ¬ Clean Nfs.withoutHosts [Nfs.denyHost] [" 10.0.0.7"] ["10.0.0.7"] [] ∧
    ¬ Clean Smb.withoutHosts [] [" 10.0.0.7"] ["10.0.0.7"] [] := by
  constructor
  · intro clean
    have gone := (clean.exact "10.0.0.7").mp (by decide)
    revert gone
    decide
  · intro clean
    have gone := (clean.exact "10.0.0.7").mp (by decide)
    revert gone
    decide

end TruenasCsi.Exports
