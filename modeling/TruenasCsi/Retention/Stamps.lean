import TruenasCsi.Retention.Reaper

/-!
# When a retired volume is due

The reaper reads the time of deletion from the stamp of an entry, and where that is missing from the entry's
name. Retiring a volume writes the stamp after the rename, so an entry may be left without one.

## Main result

`due_iff_grace_over`: with or without its stamp, an entry is due exactly when its grace period is over.
-/

namespace TruenasCsi.Retention

open Appliance Truenas Text
open Volume hiding Dataset verifyOwned

variable {p : Policy} {s : Storage} {name : String} {t : Civil}

/-- The reaper goes by the stamp, or else by the name: both carry the time of deletion. -/
theorem deletedAt_entry {ds : Dataset} (entry : Dated t name) (valid : t.Valid)
    (above : ∀ up, atOrBelow up p.root = true → s.own up deletedAtProperty = none)
    (stamped : ∀ value, s.own (p.root ++ "/" ++ name) deletedAtProperty = some value → value = t.rfc3339)
    (found : s.dataset? (p.root ++ "/" ++ name) = some ds) : deletedAt ds = some t.instant := by
  obtain ⟨d, -, rfl⟩ := Option.map_eq_some_iff.mp found
  cases own : s.own (p.root ++ "/" ++ name) deletedAtProperty with
  | some value =>
    obtain rfl := stamped value own
    have shown : localProperty (s.view (p.root ++ "/" ++ name) d) deletedAtProperty = t.rfc3339 := by
      simp [localProperty, Storage.view, Storage.userProperty_own own, sourceLocal]
    have nonempty : t.rfc3339 ≠ "" := by
      intro empty
      have chars := congrArg String.toList empty
      simp [Civil.toList_rfc3339] at chars
    simp [deletedAt, shown, parseDeletedAt, nonempty, Civil.parseRFC3339_rfc3339 valid]
  | none =>
    -- Without a stamp of its own the entry inherits none either.
    have unset : s.userProperty (p.root ++ "/" ++ name) deletedAtProperty = none := by
      apply Storage.userProperty_none
      intro up below
      by_cases same : up = p.root ++ "/" ++ name
      · rw [same, own]
      · exact above up (atOrBelow_parentOf below same (parentOf_child p.root entry.no_slash))
    have shown : localProperty (s.view (p.root ++ "/" ++ name) d) deletedAtProperty = "" := by
      simp [localProperty, Storage.view, unset]
    have named : deletedAtFromEntryName (s.view (p.root ++ "/" ++ name) d).id = some (t, 0) := entry.read valid
    simp [deletedAt, shown, parseDeletedAt, named]

/-- With protection on, nothing above the graveyard stamped and a valid time: an owned entry whose name
carries the time, and whose stamp if any does too, is due exactly when its grace period is over. -/
theorem due_iff_grace_over (p : Policy) (now : Int) (s : Storage) (t : Civil) (name : String) (ds : Dataset)
    (on : p.on = true) (entry : Dated t name) (valid : t.Valid)
    (above : ∀ up, atOrBelow up p.root = true → s.own up deletedAtProperty = none)
    (stamped : ∀ value, s.own (p.root ++ "/" ++ name) deletedAtProperty = some value → value = t.rfc3339)
    (found : s.dataset? (p.root ++ "/" ++ name) = some ds) (owned : verifyOwned ds = .ok ()) :
    Due p now s (p.root ++ "/" ++ name) ↔ t.instant + p.grace * 10 ^ 9 ≤ now := by
  have time := deletedAt_entry entry valid above stamped found
  have id_eq : ds.id = p.root ++ "/" ++ name := by
    obtain ⟨d, -, rfl⟩ := Option.map_eq_some_iff.mp found
    rfl
  constructor
  · rintro ⟨ds', found', -, -, -, at', time', late⟩
    obtain rfl : ds = ds' := Option.some.inj (found.symm.trans found')
    obtain rfl : t.instant = at' := Option.some.inj (time.symm.trans time')
    exact late
  · intro late
    exact ⟨ds, found, on, by rw [id_eq]; exact entry.confined on, owned, _, time, late⟩

/-- A retired volume that got its time of deletion. -/
def stampedGraveyard : Storage where
  datasets := Dict.ofList [("tank/k8s/.trash", sampleDataset "tank/k8s/.trash"),
    ("tank/k8s/.trash/20260309T070504Z-pvc-2", {
      type := .filesystem
      userProperties := Dict.ofList [(ownerProperty, ownerValue),
        (ownerIDProperty, "tank/k8s/.trash/20260309T070504Z-pvc-2"),
        (deletedAtProperty, "2026-03-09T07:05:04Z")] })]

/-- An entry without a stamp that is not due, and one with a stamp past its grace period. -/
theorem due_iff_grace_over_sample :
    ¬Due samplePolicy 0 sampleGraveyard (samplePolicy.root ++ "/" ++ "20260309T070504Z-pvc-1") ∧
    Due samplePolicy (10 ^ 20) stampedGraveyard (samplePolicy.root ++ "/" ++ "20260309T070504Z-pvc-2") := by
  constructor
  · have unmarked : ∀ path, True → sampleGraveyard.own path deletedAtProperty = none :=
      Storage.own_none_of_keys (by decide)
    rw [due_iff_grace_over samplePolicy 0 sampleGraveyard ⟨2026, 3, 9, 7, 5, 4⟩ "20260309T070504Z-pvc-1" _
      (by decide) ⟨by simp [Plain, entryChar], "pvc-1", by decide⟩ (by decide) (fun up _ => unmarked up trivial)
      (fun value set => by rw [unmarked _ trivial] at set; cases set) rfl rfl]
    decide
  · have stamp : stampedGraveyard.own (samplePolicy.root ++ "/" ++ "20260309T070504Z-pvc-2") deletedAtProperty =
        some (⟨2026, 3, 9, 7, 5, 4⟩ : Civil).rfc3339 := by decide
    have others : ∀ up, atOrBelow up samplePolicy.root = true →
        stampedGraveyard.own up deletedAtProperty = none := Storage.own_none_of_keys (by decide)
    rw [due_iff_grace_over samplePolicy (10 ^ 20) stampedGraveyard ⟨2026, 3, 9, 7, 5, 4⟩
      "20260309T070504Z-pvc-2" _ (by decide) ⟨by simp [Plain, entryChar], "pvc-2", by decide⟩ (by decide)
      others (fun value set => Option.some.inj (set.symm.trans stamp)) rfl rfl]
    decide

end TruenasCsi.Retention
