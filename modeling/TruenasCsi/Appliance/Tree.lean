import TruenasCsi.Support.Paths
import TruenasCsi.Appliance.Dataset

/-! The dataset tree: inherited properties, and what the calls do to paths. -/

namespace TruenasCsi.Appliance

open Text

variable {path name : String}

/-- Being below is having the components as a first part. -/
theorem atOrBelow_iff {root : String} : atOrBelow root path = true ↔
    split '/' root <+: split '/' path := by
  rw [← below_iff_prefix]
  simp [atOrBelow]

theorem atOrBelow_trans {a b c : String} (first : atOrBelow a b = true) (second : atOrBelow b c = true) :
    atOrBelow a c = true :=
  atOrBelow_iff.mpr ((atOrBelow_iff.mp first).trans (atOrBelow_iff.mp second))

variable (parent : String)

theorem split_child (slashless : '/' ∉ name.toList) :
    split '/' (parent ++ "/" ++ name) = split '/' parent ++ [name] := by
  rw [slash_eq, split_append, split_of_notMem slashless]

theorem parentOf_child (slashless : '/' ∉ name.toList) :
    parentOf (parent ++ "/" ++ name) = some parent := by
  unfold parentOf
  rw [split_child parent slashless, List.dropLast_concat]
  cases parts : split '/' parent with
  | nil => exact absurd parts (split_ne_nil _ _)
  | cons first rest =>
    show some (join "/" (first :: rest)) = some parent
    rw [← parts]
    exact congrArg some (join_split '/' parent)

theorem parentOf_some {up : String} (inside : parentOf path = some up) :
    ∃ name, '/' ∉ name.toList ∧ path = up ++ "/" ++ name := by
  unfold parentOf at inside
  cases parts : (split '/' path).dropLast with
  | nil => simp [parts] at inside
  | cons first rest =>
    simp only [parts, Option.some.injEq] at inside
    have last := List.dropLast_append_getLast (split_ne_nil '/' path)
    refine ⟨(split '/' path).getLast (split_ne_nil '/' path),
      notMem_of_mem_split (List.getLast_mem _), ?_⟩
    rw [← inside, ← parts]
    conv_lhs => rw [← join_split '/' path, ← last]
    rw [join_append (by simp) (by simp [parts])]
    simp [join]

theorem child_ne (name : String) : parent ++ "/" ++ name ≠ parent := by
  intro same
  have length := congrArg String.length same
  simp only [String.length_append] at length
  have slash : "/".length = 1 := rfl
  omega

theorem atOrBelow_parentOf {up parent : String} (below : atOrBelow up path = true)
    (strict : up ≠ path) (inside : parentOf path = some parent) : atOrBelow up parent = true := by
  obtain ⟨name, slashless, rfl⟩ := parentOf_some inside
  rw [atOrBelow_iff] at below ⊢
  rw [split_child parent slashless] at below
  rcases List.prefix_concat_iff.mp below with whole | shorter
  · rw [← split_child parent slashless] at whole
    exact absurd (split_inj whole) strict
  · exact shorter

namespace Storage

/-- The value that is set on the dataset itself. -/
def own (s : Storage) (path key : String) : Option String :=
  (s.datasets.get? path).bind fun d => d.userProperties.get? key

variable {s : Storage} {path key : String}

theorem userProperty_own {value : String} (set : s.own path key = some value) :
    s.userProperty path key = some ⟨value, Volume.sourceLocal⟩ := by
  unfold userProperty
  rw [nearest_own set]
  rfl

/-- What is not set on a dataset comes from its parent. -/
theorem userProperty_child {parent name : String} (slashless : '/' ∉ name.toList)
    (unset : s.own (parent ++ "/" ++ name) key = none) :
    s.userProperty (parent ++ "/" ++ name) key = s.userProperty parent key := by
  unfold userProperty
  have whole : join "/" (name :: (split '/' parent).reverse).reverse = parent ++ "/" ++ name := by
    rw [List.reverse_cons, List.reverse_reverse, ← split_child parent slashless]
    exact join_split '/' _
  rw [split_child parent slashless, List.reverse_append, List.reverse_singleton,
    List.singleton_append, nearest, whole]
  have none : (s.datasets.get? (parent ++ "/" ++ name)).bind
      (fun d => d.userProperties.get? key) = Option.none := unset
  rw [none]

private theorem nearest_none {set? : DatasetState → Option String} {datasets : Dict DatasetState}
    {components : List String} (unset : ∀ last rest, (last :: rest) <:+ components →
      (datasets.get? (join "/" (last :: rest).reverse)).bind set? = none) :
    nearest set? datasets components = none := by
  induction components with
  | nil => rfl
  | cons last rest ih =>
    rw [nearest, unset last rest List.suffix_rfl]
    exact ih fun last' rest' suffix => unset last' rest' (suffix.trans (List.suffix_cons _ _))

theorem userProperty_none
    (unset : ∀ up, atOrBelow up path = true → s.own up key = none) : s.userProperty path key = none := by
  unfold userProperty
  rw [nearest_none, Option.map_none]
  intro last rest suffix
  have above : (last :: rest).reverse <+: split '/' path := List.reverse_suffix.mp (by simpa using suffix)
  refine unset _ (atOrBelow_iff.mpr ?_)
  have parts : split '/' (join "/" (last :: rest).reverse) = (last :: rest).reverse :=
    split_join (by simp) fun p member => notMem_of_mem_split (above.subset member)
  rw [parts]
  exact above

theorem own_none_of_keys {P : String → Prop}
    (unset : ∀ path ∈ s.datasets.keys, P path → s.own path key = none) (path : String) (mine : P path) :
    s.own path key = none := by
  cases found : s.datasets.get? path with
  | none => simp [own, found]
  | some d => exact unset path (Dict.mem_keys_iff.mpr ⟨d, found⟩) mine

theorem get?_put (s : Storage) (path : String) (d : DatasetState) (p : String) :
    (s.put path d).datasets.get? p = if p = path then some d else s.datasets.get? p :=
  Dict.get?_set _ _ _ _

/-- What is left after a destroy. -/
theorem get?_deleteTree (s : Storage) (root p : String) :
    (s.deleteTree root).datasets.get? p =
      if atOrBelow root p = true then none else s.datasets.get? p := by
  unfold deleteTree
  rw [Dict.get?_filterKeys]
  cases atOrBelow root p <;> simp

variable {s' : Storage} {id : String} {ds : Dataset} {spec : DatasetSpec}

theorem act_create_ok (done : act (.create spec) s = (.ok ds, s')) :
    s.refuseNew "pool.dataset.create" spec.name = none ∧ s' = s.put spec.name (newDataset spec) := by
  simp only [act] at done
  split at done
  · cases done
  · cases done
    exact ⟨‹_›, rfl⟩

theorem act_snapshotClone_ok {snapshot dst : String} {props : List (String × String)}
    (done : act (.snapshotClone snapshot dst props) s = (.ok (), s')) :
    ∃ snap, s.snapshot? snapshot = some snap ∧ s.refuseNew "pool.snapshot.clone" dst = none ∧
      s' = s.put dst (cloneOf snap dst props) := by
  simp only [act] at done
  split at done
  · cases done
  · split at done
    · cases done
    · cases done
      exact ⟨_, ‹_›, ‹_›, rfl⟩

theorem act_update_ok {patch : DatasetPatch} (done : act (.update id patch) s = (.ok ds, s')) :
    ∃ d, s.datasets.get? id = some d ∧ refusePatch d patch = none ∧
      s' = s.put id (patched d patch) := by
  simp only [act] at done
  split at done
  · cases done
  · split at done
    · cases done
    · cases done
      exact ⟨_, ‹_›, ‹_›, rfl⟩

end Storage

end TruenasCsi.Appliance
