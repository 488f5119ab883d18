import TruenasCsi.Appliance.Tree
import TruenasCsi.Backend.Scan

/-!
# Volumes, and what a scan takes for volumes

A volume is live if its dataset has the marks that the driver puts on volumes (`Live`). The appliance
reports a marker that is inherited like one that is set, so a scan takes for a volume whatever shows the
marks (`Apparent`): also the root and the clones of a rehearsal, the copy of a replicated volume, a clone that
has not got all its marks, and what somebody made inside a volume.

## Main results

`mem_found`: a scan of the datasets below the parent finds exactly what is apparent.
`apparent_iff_flat`: of the live volumes these are the ones outside of namespaces.

## Proof strategy

Nothing at or above the parent is marked (`Orderly`), so what a dataset shows is set on it or on the dataset
around it (`Orderly.reported_eq`).
-/

namespace TruenasCsi.Estate

open Appliance Backend Appliance.Storage Text Truenas
open Volume (ownerProperty ownerValue ownerIDProperty protocolProperty namespaceProperty
  graveyardProperty graveyardValue deletedAtProperty sourceLocal Component ID idFromLeaf protocolOr)

/-- The markers of what only holds volumes, or held one. -/
def kinds : List String := [namespaceProperty, graveyardProperty, deletedAtProperty]

/-- The markers that a scan looks at. -/
def markers : List String := ownerProperty :: protocolProperty :: kinds

section

variable (b : Config)

/-- The dataset below which everything of the backend lies. -/
def root : String := b.pool ++ "/" ++ b.parentDataset

def containerOf (ns : String) : String := root b ++ "/" ++ ns

/-- Nothing at or above the parent is marked, and the protocols on record can stand in an id. -/
structure Orderly (s : Storage) : Prop where
  unmarked : ∀ key ∈ markers, ∀ up, atOrBelow up (root b) = true → s.own up key = none
  protocol : ∀ path p, s.own path protocolProperty = some p → Component p

/-- The path of `v` is below the parent, directly or in a namespace. -/
structure Placed (v : ID) : Prop where
  pool : v.pool = b.pool
  parent : v.parent = b.parentDataset
  ns : v.ns = "" ∨ Component v.ns
  named : Component v.name

end

/-- A volume of the backend `name`. -/
structure Sited (name : String) (b : Config) (v : ID) : Prop extends Placed b v where
  backend : v.backend = name
  protocol : Component v.protocol

/-- The names of the backend can stand in an id. -/
structure Configured (name : String) (b : Config) : Prop where
  backend : Component name
  pool : Component b.pool
  parent : Component b.parentDataset

/-- What the driver puts on a volume. -/
def birthmarks (v : ID) : List (String × String) :=
  [(ownerProperty, ownerValue), (ownerIDProperty, v.datasetPath), (protocolProperty, v.protocol)]

/-- The dataset of `v` has all the marks of a volume, no other, and is in the container of its namespace. A
volume that was deleted or retired is not there, and a clone gets its marks one by one. -/
structure Live (name : String) (b : Config) (s : Storage) (v : ID) : Prop where
  sited : Sited name b v
  own : ∀ mark ∈ birthmarks v, s.own v.datasetPath mark.1 = some mark.2
  plain : ∀ key ∈ kinds, s.own v.datasetPath key = none
  housed : v.ns ≠ "" → s.own (containerOf b v.ns) namespaceProperty = some v.ns

section

variable (b : Config) (s : Storage)

/-- The marker on the dataset of `v`, or else on the dataset around it if that is not the parent. -/
def shown (v : ID) (key : String) : Option String :=
  if v.ns = "" then s.own v.datasetPath key
  else (s.own v.datasetPath key).or (s.own (containerOf b v.ns) key)

/-- The protocol of a volume that has none on record. -/
def fallback (d : DatasetState) : String := if d.type = .volume then "iscsi" else "nfs"

/-- There is a dataset at the place of `v` that shows the ownership marker, the protocol, and no marker of
another kind. -/
structure Apparent (name : String) (v : ID) : Prop where
  sited : Sited name b v
  owner : shown b s v ownerProperty = some ownerValue
  ns : (shown b s v namespaceProperty).getD "" = ""
  graveyard : (shown b s v graveyardProperty).getD "" ≠ graveyardValue
  deletedAt : (shown b s v deletedAtProperty).getD "" = ""
  recorded : ∃ d, s.datasets.get? v.datasetPath = some d ∧
    v.protocol = protocolOr ((shown b s v protocolProperty).getD "") (fallback d)

end

variable {name path : String} {b : Config} {s s' : Storage} {v id : ID} {d : DatasetState}

theorem Placed.path_eq (placed : Placed b v) : v.datasetPath =
    if v.ns = "" then root b ++ "/" ++ v.name else containerOf b v.ns ++ "/" ++ v.name := by
  rw [v.datasetPath_eq, Volume.ID.parentPath, placed.pool, placed.parent]
  split_ifs <;> rfl

theorem Sited.formed (sited : Sited name b v) (config : Configured name b) : Volume.WellFormed v where
  backend := sited.backend ▸ config.backend
  protocol := sited.protocol
  pool := sited.pool ▸ config.pool
  parent := sited.parent ▸ config.parent
  ns := sited.ns
  name := sited.named

section

variable {spec : DatasetSpec} {ds : Dataset}

theorem own_created (done : act (.create spec) s = (.ok ds, s')) (key : String) :
    s'.own spec.name key = (Dict.ofList spec.userProperties).get? key := by
  obtain ⟨-, rfl⟩ := act_create_ok done
  rw [Storage.own, get?_put, if_pos rfl, Option.bind_some]
  unfold newDataset
  split <;> rfl

/-- A volume is live as soon as its dataset was created with its marks. -/
theorem live_created (sited : Sited name b v) (place : spec.name = v.datasetPath)
    (marked : spec.userProperties = birthmarks v)
    (housed : v.ns ≠ "" → s.own (containerOf b v.ns) namespaceProperty = some v.ns)
    (done : act (.create spec) s = (.ok ds, s')) : Live name b s' v := by
  have set := own_created done
  rw [place, marked] at set
  refine ⟨sited, fun mark member => ?_, fun key kind => ?_, fun namespaced => ?_⟩
  · rw [set]
    simp only [birthmarks, List.mem_cons, List.not_mem_nil, or_false] at member
    rcases member with rfl | rfl | rfl <;> simp [birthmarks, Dict.ofList, Dict.get?_set,
      ownerProperty, ownerIDProperty, protocolProperty]
  · rw [set]
    simp only [kinds, List.mem_cons, List.not_mem_nil, or_false] at kind
    rcases kind with rfl | rfl | rfl <;> simp [birthmarks, Dict.ofList, Dict.get?_set, ownerProperty,
      ownerIDProperty, protocolProperty, namespaceProperty, graveyardProperty, deletedAtProperty]
  · have container : containerOf b v.ns ≠ spec.name := by
      rw [place, sited.path_eq, if_neg namespaced]
      exact (child_ne _ _).symm
    obtain ⟨-, rfl⟩ := act_create_ok done
    rw [← housed namespaced, Storage.own, Storage.own, get?_put, if_neg container]

/-- What replication creates with its stamp alone, the root of a rehearsal or the copy of a member, is not. -/
theorem not_live_stamped (place : spec.name = v.datasetPath)
    (stamped : spec.userProperties = Volume.stampProperties spec.name)
    (done : act (.create spec) s = (.ok ds, s')) : ¬Live name b s' v := by
  intro live
  have recorded := live.own (protocolProperty, v.protocol) (by simp [birthmarks])
  rw [← place, own_created done, stamped, Volume.stampProperties] at recorded
  split_ifs at recorded <;> simp [Dict.ofList, Dict.get?_set, ownerProperty, ownerIDProperty,
    protocolProperty] at recorded

end

/-- What the appliance reports, inherited or not. -/
def reported (s : Storage) (path key : String) : Option String := (s.userProperty path key).map (·.value)

theorem reported_child {x : String} (s : Storage) (up : String) (slashless : '/' ∉ x.toList)
    (key : String) : reported s (up ++ "/" ++ x) key =
      (s.own (up ++ "/" ++ x) key).or (reported s up key) := by
  unfold reported
  cases set : s.own (up ++ "/" ++ x) key with
  | none => rw [userProperty_child slashless set, Option.none_or]
  | some value => rw [userProperty_own set, Option.some_or, Option.map_some]

namespace Orderly

variable (orderly : Orderly b s)

include orderly

/-- What the appliance reports for a dataset is what the dataset or the one around it shows. -/
theorem reported_eq (placed : Placed b v) {key : String} (marker : key ∈ markers) :
    reported s v.datasetPath key = shown b s v key := by
  have above : reported s (root b) key = none := by
    rw [reported, userProperty_none (orderly.unmarked key marker), Option.map_none]
  have inner := placed.named.slashless
  rw [shown, placed.path_eq]
  split_ifs with flat
  · rw [reported_child _ _ inner, above, Option.or_none]
  · have outer := (placed.ns.resolve_left flat).slashless
    rw [reported_child _ _ inner, containerOf, reported_child _ _ outer, above, Option.or_none]

theorem component_protocol (v : ID) (d : DatasetState) :
    Component (protocolOr ((shown b s v protocolProperty).getD "") (fallback d)) := by
  cases set : shown b s v protocolProperty with
  | none =>
    rw [Option.getD_none, protocolOr, if_pos rfl, fallback]
    split_ifs <;> decide
  | some protocol =>
    have component : Component protocol := by
      unfold shown at set
      split_ifs at set
      · exact orderly.protocol _ _ set
      · rcases Option.or_eq_some_iff.mp set with own | ⟨-, around⟩
        · exact orderly.protocol _ _ own
        · exact orderly.protocol _ _ around
    rw [Option.getD_some, protocolOr, if_neg component.nonempty]
    exact component

end Orderly

section

variable (s : Storage) (path : String) (d : DatasetState)

theorem userProperties_view (key : String) : (s.view path d).userProperties key =
    (reported s path key).map fun value => ⟨value, sourceLocal⟩ := by
  unfold reported userProperty
  rw [Option.map_map, Option.map_map]
  rfl

theorem localProperty_view (key : String) :
    localProperty (s.view path d) key = (reported s path key).getD "" := by
  rw [localProperty, userProperties_view]
  cases reported s path key <;> rfl

theorem owned_view (property value : String) : owned (s.view path d) property value = true ↔
    reported s path property = some value := by
  rw [owned, userProperties_view]
  cases reported s path property <;> simp [sourceLocal]

end

theorem volumeOn_view (s : Storage) (leaf : String) (d : DatasetState) (id : ID) :
    volumeOn name b (s.view (root b ++ "/" ++ leaf) d) = some id ↔
      (reported s (root b ++ "/" ++ leaf) ownerProperty = some ownerValue ∧
        (reported s (root b ++ "/" ++ leaf) namespaceProperty).getD "" = "" ∧
        (reported s (root b ++ "/" ++ leaf) graveyardProperty).getD "" ≠ graveyardValue ∧
        (reported s (root b ++ "/" ++ leaf) deletedAtProperty).getD "" = "") ∧
      idFromLeaf name
        (protocolOr ((reported s (root b ++ "/" ++ leaf) protocolProperty).getD "") (fallback d))
        b.pool b.parentDataset leaf = .ok id := by
  have rest : String.ofList ((root b ++ "/" ++ leaf).toList.drop b.start.toList.length) = leaf := by
    rw [show b.start = root b ++ "/" from rfl, show (root b ++ "/" ++ leaf).toList =
      (root b ++ "/").toList ++ leaf.toList from String.toList_append, List.drop_left, String.ofList_toList]
  have read : ∀ read : Except Err ID, read.toOption = some id ↔ read = .ok id := by
    rintro (e | found) <;> simp [Except.toOption]
  unfold volumeOn
  rw [show (s.view (root b ++ "/" ++ leaf) d).id = root b ++ "/" ++ leaf from rfl, rest, ← read,
    ← owned_view s _ d, ← localProperty_view s _ d protocolProperty]
  have container : isContainer (s.view (root b ++ "/" ++ leaf) d) = false ↔
      (reported s (root b ++ "/" ++ leaf) namespaceProperty).getD "" = "" ∧
        (reported s (root b ++ "/" ++ leaf) graveyardProperty).getD "" ≠ graveyardValue ∧
        (reported s (root b ++ "/" ++ leaf) deletedAtProperty).getD "" = "" := by
    simp only [isContainer, localProperty_view, Volume.isNamespaceDataset, Volume.isGraveyard,
      Volume.isRetired, Bool.or_eq_false_iff, bne_eq_false_iff_eq, beq_eq_false_iff_ne, and_assoc]
  rw [← container]
  by_cases skipped : owned (s.view (root b ++ "/" ++ leaf) d) ownerProperty ownerValue = false ∨
      isContainer (s.view (root b ++ "/" ++ leaf) d) = true
  · rw [if_pos skipped]
    simp only [reduceCtorEq, false_iff]
    rintro ⟨⟨owner, plain⟩, -⟩
    simp [owner, plain] at skipped
  · rw [if_neg skipped]
    simp only [not_or, Bool.not_eq_false, Bool.not_eq_true] at skipped
    simp only [skipped, and_self, true_and]
    rfl

theorem idFromLeaf_iff {protocol leaf : String} :
    idFromLeaf name protocol b.pool b.parentDataset leaf = .ok id ↔
      (Placed b id ∧ id.backend = name ∧ id.protocol = protocol) ∧
        id.datasetPath = root b ++ "/" ++ leaf := by
  constructor
  · intro read
    obtain ⟨components, ⟨parts, same⟩ | ⟨parts, same⟩⟩ := Volume.idFromLeaf_ok read
    · generalize id.name = x at parts same
      rw [parts] at components
      obtain rfl : leaf = x := by
        rw [← join_split '/' leaf, parts]
        simp [join]
      subst same
      have placed : Placed b ⟨name, protocol, b.pool, b.parentDataset, "", leaf⟩ :=
        ⟨rfl, rfl, .inl rfl, components _ (by simp)⟩
      exact ⟨⟨placed, rfl, rfl⟩, placed.path_eq⟩
    · generalize id.ns = x, id.name = y at parts same
      rw [parts] at components
      obtain rfl : leaf = x ++ "/" ++ y := by
        rw [← join_split '/' leaf, parts]
        simp [join]
      subst same
      have outer : Component x := components _ (by simp)
      have placed : Placed b ⟨name, protocol, b.pool, b.parentDataset, x, y⟩ :=
        ⟨rfl, rfl, .inr outer, components _ (by simp)⟩
      refine ⟨⟨placed, rfl, rfl⟩, ?_⟩
      rw [placed.path_eq, if_neg outer.nonempty, containerOf]
      simp only [String.append_assoc]
  · rintro ⟨⟨placed, rfl, rfl⟩, path⟩
    obtain ⟨backend, protocol, pool, parent, ns, x⟩ := id
    obtain ⟨rfl, rfl, outer, inner⟩ := placed
    rw [Placed.path_eq ⟨rfl, rfl, outer, inner⟩] at path
    split_ifs at path with flat
    · obtain rfl : ns = "" := flat
      obtain rfl : x = leaf := String.append_right_inj _ |>.mp path
      exact Volume.idFromLeaf_flat inner
    · have nested : root b ++ "/" ++ (ns ++ "/" ++ x) = root b ++ "/" ++ leaf := by
        rw [← path, containerOf]
        simp only [String.append_assoc]
      obtain rfl : ns ++ "/" ++ x = leaf := String.append_right_inj _ |>.mp nested
      exact Volume.idFromLeaf_nested (outer.resolve_left flat) inner

def found (name : String) (b : Config) (s : Storage) : List ID :=
  ((s.datasets.keys.filter fun p => startsWith p b.start).filterMap s.dataset?).filterMap
    (volumeOn name b)

namespace Orderly

variable (orderly : Orderly b s)

include orderly

/-- The scan takes for volumes what is apparent. -/
theorem volumeOn_iff (present : s.datasets.get? path = some d) (below : startsWith path b.start = true) :
    volumeOn name b (s.view path d) = some id ↔ id.datasetPath = path ∧ Apparent b s name id := by
  obtain ⟨leaf, rfl⟩ := startsWith_iff.mp below
  rw [show b.start ++ leaf = root b ++ "/" ++ leaf from rfl] at present ⊢
  rw [volumeOn_view, idFromLeaf_iff]
  have reads : ∀ {v}, Placed b v → ∀ key ∈ markers, reported s v.datasetPath key = shown b s v key :=
    fun placed key marker => orderly.reported_eq placed marker
  simp only [markers, kinds, List.forall_mem_cons] at reads
  constructor
  · rintro ⟨seen, ⟨placed, backend, protocol⟩, here⟩
    obtain ⟨owner, recorded, ns, graveyard, deletedAt, -⟩ := reads placed
    rw [← here, owner, ns, graveyard, deletedAt] at seen
    rw [← here] at present
    rw [← here, recorded] at protocol
    obtain ⟨owned, plain⟩ := seen
    refine ⟨here, ⟨placed, backend, ?_⟩, owned, plain.1, plain.2.1, plain.2.2, d, present, protocol⟩
    rw [protocol]
    exact orderly.component_protocol id d
  · rintro ⟨here, ⟨placed, backend, -⟩, owned, plainNs, plainGraveyard, plainDeletedAt, e, there, protocol⟩
    obtain ⟨owner, recorded, ns, graveyard, deletedAt, -⟩ := reads placed
    rw [← here] at present ⊢
    obtain rfl : e = d := Option.some.inj (there.symm.trans present)
    rw [owner, ns, graveyard, deletedAt, recorded]
    exact ⟨⟨owned, plainNs, plainGraveyard, plainDeletedAt⟩, ⟨placed, backend, protocol⟩, rfl⟩

theorem mem_found : id ∈ found name b s ↔ Apparent b s name id := by
  simp only [found, List.mem_filterMap, List.mem_filter, Dict.mem_keys_iff]
  constructor
  · rintro ⟨ds, ⟨path, ⟨⟨d, present⟩, below⟩, viewed⟩, taken⟩
    rw [dataset?_of_get? present] at viewed
    cases viewed
    exact ((orderly.volumeOn_iff present below).mp taken).2
  · intro apparent
    obtain ⟨d, present, -⟩ := apparent.recorded
    have below : startsWith id.datasetPath b.start = true := by
      rw [apparent.sited.path_eq]
      split_ifs
      · exact startsWith_iff.mpr ⟨id.name, rfl⟩
      · refine startsWith_iff.mpr ⟨id.ns ++ "/" ++ id.name, ?_⟩
        simp only [containerOf, root, Config.start, String.append_assoc]
    exact ⟨_, ⟨_, ⟨⟨d, present⟩, below⟩, dataset?_of_get? present⟩,
      (orderly.volumeOn_iff present below).mpr ⟨rfl, apparent⟩⟩

theorem nodup_found : (found name b s).Nodup := by
  rw [found, List.filterMap_filterMap]
  have keys : (s.datasets.keys.filter fun p => startsWith p b.start).Nodup :=
    s.datasets.keys_nodup.filter _
  refine List.pairwise_filterMap.mpr (keys.imp_of_mem ?_)
  intro path path' member member' different id taken id' taken' same
  rw [List.mem_filter, Dict.mem_keys_iff] at member member'
  obtain ⟨⟨d, present⟩, below⟩ := member
  obtain ⟨⟨d', present'⟩, below'⟩ := member'
  rw [dataset?_of_get? present] at taken
  rw [dataset?_of_get? present'] at taken'
  -- Two that are the same would lie at the same path.
  apply different
  rw [← ((orderly.volumeOn_iff present below).mp taken).1,
    ← ((orderly.volumeOn_iff present' below').mp taken').1, same]

end Orderly

/-- Of the live volumes, those in a namespace show the marker of their container. -/
theorem apparent_iff_flat (live : Live name b s v) : Apparent b s name v ↔ v.ns = "" := by
  obtain ⟨sited, own, plain, housed⟩ := live
  simp only [birthmarks, List.forall_mem_cons] at own
  obtain ⟨owner, -, protocol, -⟩ := own
  constructor
  · intro apparent
    by_contra namespaced
    have hidden := apparent.ns
    rw [shown, if_neg namespaced, housed namespaced, plain _ (by decide)] at hidden
    exact namespaced hidden
  · intro flat
    have same : ∀ key, shown b s v key = s.own v.datasetPath key := fun key => by rw [shown, if_pos flat]
    obtain ⟨d, present, -⟩ := Option.bind_eq_some_iff.mp owner
    refine ⟨sited, by rw [same, owner], ?_, ?_, ?_, d, present, ?_⟩
    · rw [same, plain _ (by decide), Option.getD_none]
    · rw [same, plain _ (by decide)]
      decide
    · rw [same, plain _ (by decide), Option.getD_none]
    · rw [same, protocol, Option.getD_some, protocolOr, if_neg sited.protocol.nonempty]

end TruenasCsi.Estate
