import Mathlib.Data.List.AList

/-! Maps keyed by texts. -/

abbrev Dict (V : Type) := AList (fun _ : String => V)

namespace Dict

variable {V : Type}

variable (keep : String → Bool) (m : Dict V) (key : String) (entries : List (String × V))
  (value : V)

def get? : Option V := m.lookup key

def set : Dict V := AList.insert key value m

def delete : Dict V := AList.erase key m

def getD (m : Dict V) (key : String) (default : V) : V := (m.get? key).getD default

/-- The map with the given entries; the last counts. -/
def ofList : Dict V :=
  entries.foldl (fun m e => m.set e.1 e.2) ∅

/-- Set several keys, the later ones last. -/
def setAll : Dict V :=
  entries.foldl (fun m e => m.set e.1 e.2) m

/-- The entries whose key satisfies a predicate. -/
def filterKeys : Dict V :=
  (m.entries.filter fun e => keep e.1).toAList

@[simp] theorem get?_empty : get? (∅ : Dict V) key = none := rfl

@[simp] theorem get?_set_self : (m.set key value).get? key = some value :=
  AList.lookup_insert m

theorem get?_set_ne {key other : String} (different : key ≠ other) :
    (m.set other value).get? key = m.get? key :=
  AList.lookup_insert_ne different

theorem get?_set (other : String) (value : V) :
    (m.set other value).get? key = if key = other then some value else m.get? key := by
  by_cases same : key = other
  · subst same
    simp
  · rw [get?_set_ne m value same, if_neg same]

@[simp] theorem setAll_nil : m.setAll [] = m := rfl

@[simp] theorem setAll_cons (e : String × V) (entries : List (String × V)) :
    m.setAll (e :: entries) = (m.set e.1 e.2).setAll entries := rfl

@[simp] theorem get?_delete_self : (m.delete key).get? key = none :=
  AList.lookup_erase key m

theorem get?_delete (other : String) :
    (m.delete other).get? key = if key = other then none else m.get? key := by
  by_cases same : key = other
  · subst same
    simp
  · rw [if_neg same]
    exact AList.lookup_erase_ne same

theorem mem_keys_iff {m : Dict V} {key : String} : key ∈ m.keys ↔ ∃ value, m.get? key = some value := by
  rw [← AList.mem_keys, ← AList.lookup_isSome, Option.isSome_iff_exists]
  rfl

theorem dlookup_filter (entries : List (Sigma fun _ : String => V))
    (key : String) : (entries.filter fun e => keep e.1).dlookup key =
      if keep key then entries.dlookup key else none := by
  induction entries with
  | nil => simp
  | cons e rest ih =>
    obtain ⟨k, v⟩ := e
    by_cases same : key = k
    · subst same
      cases kept : keep key with
      | true => simp [kept]
      | false => simpa [kept] using ih
    · cases kept : keep k with
      | true =>
        rw [List.filter_cons_of_pos (by simpa using kept), List.dlookup_cons_ne _ _ same,
          List.dlookup_cons_ne _ _ same, ih]
      | false =>
        rw [List.filter_cons_of_neg (by simpa using kept), List.dlookup_cons_ne _ _ same, ih]

@[simp] theorem get?_filterKeys :
    (m.filterKeys keep).get? key = if keep key then m.get? key else none := by
  unfold get? filterKeys
  rw [AList.lookup_to_alist, dlookup_filter]
  rfl

end Dict
