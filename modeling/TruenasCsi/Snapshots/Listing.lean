import Mathlib.Algebra.GroupWithZero.Nat
import Mathlib.Algebra.Order.BigOperators.Group.List
import TruenasCsi.Appliance.Tree
import TruenasCsi.Snapshots.Single

/-! What the listing of snapshots says of those that were made. -/

namespace TruenasCsi.Snapshots

open Appliance (Storage SnapshotState atOrBelow)
open Csi Volume Backend Text

section

variable {v : ID} {pool parent : String} {leaf : String}

theorem split_datasetPath (formed : WellFormed v) :
    split '/' v.datasetPath = v.datasetComponents := by
  obtain ⟨-, -, pool, parent, flat | ns, name⟩ := formed
  · refine split_join ?_ ?_
    · simp [ID.datasetComponents, flat]
    · simp [ID.datasetComponents, flat, pool.slashless, parent.slashless, name.slashless]
  · refine split_join ?_ ?_
    · simp [ID.datasetComponents, ns.nonempty]
    · simp [ID.datasetComponents, ns.nonempty, pool.slashless, parent.slashless,
        ns.slashless, name.slashless]

theorem components_eq (v : ID) : v.components = v.backend :: v.protocol :: v.datasetComponents := by
  unfold ID.components ID.datasetComponents
  split_ifs <;> rfl

theorem string_eq (v : ID) :
    v.string = v.backend ++ "/" ++ (v.protocol ++ "/" ++ v.datasetPath) := by
  unfold ID.string ID.components ID.datasetPath ID.datasetComponents
  split_ifs <;> simp only [join_cons_cons]

theorem split_protocol_path (backend protocol path : String) (one : '/' ∉ backend.toList)
    (two : '/' ∉ protocol.toList) :
    split '/' (backend ++ "/" ++ (protocol ++ "/" ++ path)) =
      backend :: protocol :: split '/' path := by
  rw [slash_eq, split_append, split_append, split_of_notMem one, split_of_notMem two]
  rfl

theorem leaf_components (formed : WellFormed v)
    (path : v.datasetPath = pool ++ "/" ++ parent ++ "/" ++ leaf) :
    (∀ p ∈ split '/' leaf, Component p) ∧
      ((∃ name, split '/' leaf = [name]) ∨ ∃ ns name, split '/' leaf = [ns, name]) := by
  have parts := split_datasetPath formed
  have whole : split '/' (pool ++ "/" ++ parent ++ "/" ++ leaf) =
      split '/' pool ++ split '/' parent ++ split '/' leaf := by
    rw [slash_eq, split_append, split_append]
  rw [path, whole] at parts
  have good : ∀ p ∈ v.datasetComponents, Component p := by
    intro p member
    refine formed.components p ?_
    rw [components_eq]
    exact List.mem_cons_of_mem _ (List.mem_cons_of_mem _ member)
  constructor
  · intro p member
    exact good p (by rw [← parts]; simp [member])
  · have outer : 1 ≤ (split '/' pool).length :=
      List.length_pos_iff.mpr (split_ne_nil _ _)
    have inner : 1 ≤ (split '/' parent).length :=
      List.length_pos_iff.mpr (split_ne_nil _ _)
    have some : 1 ≤ (split '/' leaf).length := List.length_pos_iff.mpr (split_ne_nil _ _)
    have total := congrArg List.length parts
    have few : v.datasetComponents.length ≤ 4 := by
      unfold ID.datasetComponents
      split_ifs <;> simp
    simp only [List.length_append] at total
    match split : split '/' leaf with
    | [] => simp [split] at some
    | [name] => exact .inl ⟨name, rfl⟩
    | [ns, name] => exact .inr ⟨ns, name, rfl⟩
    | _ :: _ :: _ :: _ =>
      simp only [split, List.length_cons] at total
      omega

theorem idFromLeaf_string (backend pool parent : String) (good : ∀ p ∈ split '/' leaf, Component p)
    (short : (∃ name, split '/' leaf = [name]) ∨ ∃ ns name, split '/' leaf = [ns, name]) :
    ∃ vid, idFromLeaf backend "nfs" pool parent leaf = .ok vid ∧
      vid.string = backend ++ "/" ++ ("nfs" ++ "/" ++ (pool ++ "/" ++ parent ++ "/" ++ leaf)) := by
  have joined := join_split '/' leaf
  rcases short with ⟨name, parts⟩ | ⟨ns, name, parts⟩
  · rw [parts] at joined good
    have same : leaf = name := by rw [← joined]; simp [join]
    subst same
    refine ⟨_, idFromLeaf_flat (good leaf (by simp)), ?_⟩
    rw [string_eq]
    simp [ID.datasetPath, ID.datasetComponents, join, String.append_assoc]
  · rw [parts] at joined good
    have outer := good ns (by simp)
    have same : leaf = ns ++ "/" ++ name := by
      rw [← joined, ← slash_eq, join_cons_cons]
      simp [join]
    subst same
    refine ⟨_, idFromLeaf_nested outer (good name (by simp)), ?_⟩
    rw [string_eq]
    simp [ID.datasetPath, ID.datasetComponents, join, outer.nonempty, String.append_assoc]

/-- Mapped back iff an NFS volume below the parent. -/
theorem source_iff {reg : Registry} {b : Config} (formed : WellFormed v)
    (known : reg.backends.get? v.backend = some b) :
    snapshotPB.source reg v.datasetPath v.backend = v.string ↔
      v.protocol = "nfs" ∧ startsWith v.datasetPath b.start = true := by
  have own : split '/' v.string = v.backend :: v.protocol :: split '/' v.datasetPath := by
    rw [string_eq, split_protocol_path _ _ _ formed.backend.slashless formed.protocol.slashless]
  have raw : v.datasetPath ≠ v.string := by
    intro same
    have lengths := congrArg List.length own
    rw [← same] at lengths
    simp only [List.length_cons] at lengths
    omega
  rw [snapshotPB.source, known]
  simp only
  by_cases under : startsWith v.datasetPath b.start = true
  · obtain ⟨leaf, path⟩ := startsWith_iff.mp under
    obtain ⟨good, short⟩ := leaf_components formed path
    obtain ⟨vid, read, text⟩ := idFromLeaf_string v.backend b.pool b.parentDataset good short
    have rest : String.ofList (v.datasetPath.toList.drop b.start.toList.length) = leaf := by
      rw [path, String.toList_append, List.drop_left, String.ofList_toList]
    simp only [under, if_true, rest, read, and_true]
    constructor
    · intro same
      rw [← same, text, split_protocol_path _ _ _ formed.backend.slashless (by decide)] at own
      exact ((List.cons.inj (List.cons.inj own).2).1).symm
    · intro nfs
      rw [text, string_eq v, nfs, path]
      rfl
  · simp [under, raw]

end

section

variable (reg : Registry) (w : World)

variable (name : String)

def listedOn : List SnapshotState :=
  match reg.backends.get? name with
  | none => []
  | some b => (w.appliance name).storage.snapshots.filter fun s =>
      startsWith s.dataset b.root && !retired b s.dataset

def sourcesOn : List Appliance.Dataset :=
  match reg.backends.get? name with
  | none => []
  | some b => ((w.appliance name).storage.datasets.keys.filter fun p =>
      startsWith p b.root).filterMap (w.appliance name).storage.dataset?

/-- The entry of a snapshot, its volume read off the dataset's path. -/
def entryOf (s : SnapshotState) : SnapshotInfo :=
  snapshotPB reg (snapshotID name s.id) s.dataset name
    (listedSize (sourcesOn reg w name) (Storage.snapshotView s))
    (creationTime (Storage.snapshotView s))

def entriesOn : List SnapshotInfo := (listedOn reg w name).map (entryOf reg w name)

variable {reg w}

theorem entriesOn_congr {t : World} (same : t.appliance = w.appliance) :
    entriesOn reg t = entriesOn reg w := by
  funext name
  have sources : sourcesOn reg t = sourcesOn reg w := by
    funext name
    simp only [sourcesOn, same]
  have entry : entryOf reg t = entryOf reg w := by
    funext name s
    simp only [entryOf, sources]
  simp only [entriesOn, listedOn, entry, same]

theorem calm_registry_listSnapshots {name : String} {b : Config}
    (known : reg.backends.get? name = some b) :
    ∃ t, M.calm (reg.listSnapshots name) w = (.ok ((listedOn reg w name).map fun s =>
        ⟨snapshotID name s.id, s.dataset,
          listedSize (sourcesOn reg w name) (Storage.snapshotView s),
          creationTime (Storage.snapshotView s), true⟩), t) ∧
      t.appliance = w.appliance := by
  obtain ⟨t, dialled, same⟩ := reg.calm_client (w := w) known
  have configured : reg.backend name = .ok b := by simp only [Registry.backend, known]
  have snaps : M.calm (Truenas.Client.snapshotList ⟨name, b.host⟩ b.root) t = (.ok _, t) :=
    calm_rows (calm_query rfl)
  have datasets : M.calm (Truenas.Client.datasetList ⟨name, b.host⟩ b.root) t = (.ok _, t) :=
    calm_rows (calm_query rfl)
  refine ⟨t, ?_, same⟩
  unfold Registry.listSnapshots
  rw [configured, Prog.ofExcept_ok, Prog.ret_bind, calm_bind_ok dialled, calm_bind_ok snaps,
    calm_bind_ok (calm_attempt.trans (by rw [datasets]))]
  have sources : sourcesOn reg w name = ((t.appliance name).storage.datasets.keys.filter fun p =>
      startsWith p b.root).filterMap (t.appliance name).storage.dataset? := by
    simp only [sourcesOn, known, same]
  have listed : listedOn reg w name = (t.appliance name).storage.snapshots.filter fun s =>
      startsWith s.dataset b.root && !retired b s.dataset := by
    simp only [listedOn, known, same]
  rw [sources, listed]
  refine congrArg (fun l => (Except.ok l, t)) ?_
  rw [List.filter_map, List.map_map, List.filter_filter]
  simp only [Function.comp_def, Bool.and_comm]
  rfl

theorem calm_scanSnapshots (c : Controller) (names : List String) (w : World) :
    ∃ t, M.calm (c.scanSnapshots names) w = (.ok (names.flatMap (entriesOn c.reg w)), t) ∧
      t.appliance = w.appliance := by
  induction names generalizing w with
  | nil => exact ⟨w, rfl, rfl⟩
  | cons name rest ih =>
    rw [Controller.scanSnapshots, List.flatMap_cons]
    cases known : c.reg.backends.get? name with
    | none =>
      -- A name that is not configured is an error, which the listing passes over.
      obtain ⟨t, others, same⟩ := ih w
      have refused : ∃ e, M.calm (c.reg.listSnapshots name) w = (.error e, w) := by
        unfold Registry.listSnapshots Registry.backend
        rw [known]
        exact ⟨_, rfl⟩
      obtain ⟨e, refused⟩ := refused
      rw [calm_bind_ok (calm_attempt.trans (by rw [refused])), calm_bind_ok others]
      refine ⟨t, ?_, same⟩
      simp only [entriesOn, listedOn, known]
      rfl
    | some b =>
      obtain ⟨t, listed, same⟩ := calm_registry_listSnapshots (w := w) known
      obtain ⟨u, others, same'⟩ := ih t
      rw [calm_bind_ok (calm_attempt.trans (by rw [listed])), calm_bind_ok others,
        entriesOn_congr same]
      refine ⟨u, ?_, same'.trans same⟩
      refine congrArg (fun l => (Except.ok (l ++ rest.flatMap (entriesOn c.reg w)), u)) ?_
      simp only [Except.toOption, Option.getD_some, List.map_map]
      rfl

end

theorem snapshotPage_all (all : List SnapshotInfo) (source : String) :
    snapshotPage all { sourceVolumeId := source } = .ok ⟨all, ""⟩ := by
  simp [snapshotPage]

variable (c : Controller) {b : Config} {req : CreateSnapshotRequest} {v : ID} {name : String}
  {u : World}

variable (reg : Registry) (w : World)

/-- The complete listing, up to its order. -/
theorem calm_listSnapshots :
    ∃ resp, (M.calm (c.listSnapshots {}) w).1 = .ok resp ∧
      resp.entries.Perm (c.reg.names.flatMap (entriesOn c.reg w)) := by
  obtain ⟨t, scanned, -⟩ := calm_scanSnapshots c c.reg.sortedNames w
  unfold Controller.listSnapshots
  rw [if_neg (by simp), calm_bind_ok scanned]
  simp only [if_true, snapshotPage_all]
  refine ⟨_, rfl, ?_⟩
  exact (List.perm_insertionSort _ _).trans ((List.perm_insertionSort _ _).flatMap_right _)

theorem calm_listSnapshots_of {src : String} (parsed : parseID src = .ok v) (w : World) :
    ∃ resp, (M.calm (c.listSnapshots { sourceVolumeId := src }) w).1 = .ok resp ∧
      ∀ e, e.sourceVolumeId = src →
        (e ∈ resp.entries ↔ ∃ name ∈ c.reg.names, e ∈ entriesOn c.reg w name) := by
  obtain ⟨t, scanned, -⟩ := calm_scanSnapshots c c.reg.sortedNames w
  have given : src ≠ "" := by
    rintro rfl
    have text := (parseID_ok parsed).2
    rw [string_eq] at text
    simp [String.append_eq_empty_iff] at text
  unfold Controller.listSnapshots
  rw [if_neg (by simp), calm_bind_ok scanned]
  simp only [if_neg given, parsed, snapshotPage_all]
  refine ⟨_, rfl, fun e same => ?_⟩
  simp only [List.mem_insertionSort, Controller.ofSource, List.mem_filter, same, beq_self_eq_true,
    Bool.or_true, and_true, List.mem_flatMap, Registry.sortedNames]

/-- What is retired lies in the graveyard. -/
theorem retired_below {dataset : String}
    (gone : retired b dataset = true) : atOrBelow b.root dataset = true := by
  have under : startsWith dataset (b.policy.root ++ "/") = true := by
    unfold retired Retention.Policy.confineToGraveyard at gone
    split_ifs at gone with off root outside
    all_goals simp_all [Retention.Policy.confineToGraveyard.refuse,
      Retention.Policy.confineToGraveyard.below, Except.isOk, Except.toBool]
  obtain ⟨rest, rfl⟩ := startsWith_iff.mp under
  refine Bool.or_eq_true _ _ |>.mpr (.inr (startsWith_iff.mpr ⟨b.graveyard ++ "/" ++ rest, ?_⟩))
  simp [Retention.Policy.root, Config.policy, Config.root, String.append_assoc]

def insideOn (name : String) : List SnapshotInfo :=
  ((listedOn reg w name).filter fun s =>
    (reg.backends.get? name).any fun b => atOrBelow b.root s.dataset).map (entryOf reg w name)

/-- No similar sibling has a snapshot. -/
def NoSibling : Prop :=
  ∀ name b, reg.backends.get? name = some b → ∀ snap ∈ (w.appliance name).storage.snapshots,
    startsWith snap.dataset b.root = true → atOrBelow b.root snap.dataset = true

theorem eq_of_sum_eq {l : List String} {f g : String → Nat} (le : ∀ a, f a ≤ g a)
    (same : (l.map f).sum = (l.map g).sum) : ∀ a ∈ l, f a = g a := by
  induction l with
  | nil => simp
  | cons first rest ih =>
    have tail : (rest.map f).sum ≤ (rest.map g).sum := List.sum_le_sum fun a _ => le a
    have head := le first
    simp only [List.map_cons, List.sum_cons] at same
    intro a member
    rcases List.mem_cons.mp member with rfl | later
    · omega
    · exact ih (by omega) a later

theorem insideOn_length_le (name : String) :
    (insideOn reg w name).length ≤ (entriesOn reg w name).length := by
  simp only [insideOn, entriesOn, List.length_map]
  exact List.length_filter_le _ _

/-- The listing is right iff no sibling is in it. -/
theorem perm_inside_iff :
    (reg.names.flatMap (entriesOn reg w)).Perm (reg.names.flatMap (insideOn reg w)) ↔
      NoSibling reg w := by
  constructor
  · intro same name b known snap member starts
    have lengths := same.length_eq
    rw [List.length_flatMap, List.length_flatMap] at lengths
    have each := eq_of_sum_eq (insideOn_length_le reg w) lengths.symm name
      (Dict.mem_keys_iff.mpr ⟨b, known⟩)
    by_cases gone : retired b snap.dataset = true
    · exact retired_below gone
    · -- The snapshot is listed, and nothing that is listed was filtered away.
      simp only [insideOn, entriesOn, List.length_map] at each
      have all := List.length_filter_eq_length_iff.mp each snap (by
        simp only [listedOn, known, List.mem_filter]
        exact ⟨member, by simp [starts, gone]⟩)
      simpa [known] using all
  · intro confined
    have same : entriesOn reg w = insideOn reg w := by
      funext name
      unfold entriesOn insideOn
      congr 1
      refine (List.filter_eq_self.mpr fun snap listed => ?_).symm
      unfold listedOn at listed
      cases known : reg.backends.get? name with
      | none => simp [known] at listed
      | some b =>
        simp only [known, List.mem_filter, Bool.and_eq_true] at listed
        simpa using confined name b known snap listed.1 listed.2.1
    rw [same]

/-- The volume's dataset is read back and listed. -/
def Readable (v : ID) : Prop :=
  v.protocol = "nfs" ∧ ∃ b, reg.backends.get? v.backend = some b ∧
    startsWith v.datasetPath b.start = true ∧ retired b v.datasetPath = false

/-- The answer has an entry of this snapshot and volume. -/
def Lists (answer : Except Err ListSnapshotsResponse) (snapshotId sourceVolumeId : String) : Prop :=
  ∃ resp, answer = .ok resp ∧ ∃ e ∈ resp.entries,
    e.snapshotId = snapshotId ∧ e.sourceVolumeId = sourceVolumeId

theorem startsWith_root {path : String}
    (under : startsWith path b.start = true) : startsWith path b.root = true := by
  obtain ⟨rest, rfl⟩ := startsWith_iff.mp under
  refine startsWith_iff.mpr ⟨"/" ++ rest, ?_⟩
  simp [Config.start, Config.root, String.append_assoc]

/-- A readable volume's snapshot is listed under the handle it was made with. -/
theorem lists_of_readable (parsed : parseID req.sourceVolumeId = .ok v)
    (held : Holds (u.appliance v.backend).storage v.datasetPath name)
    (readable : Readable c.reg v) :
    Lists (M.calm (c.listSnapshots { sourceVolumeId := req.sourceVolumeId }) u).1
      (snapshotID v.backend (v.datasetPath ++ "@" ++ name)) req.sourceVolumeId := by
  obtain ⟨nfs, b, known, under, live⟩ := readable
  obtain ⟨formed, text⟩ := parseID_ok parsed
  obtain ⟨snap, member, dataset, rfl⟩ := held
  obtain ⟨resp, answered, entries⟩ := calm_listSnapshots_of c parsed u
  have source : (entryOf c.reg u v.backend snap).sourceVolumeId = req.sourceVolumeId := by
    show snapshotPB.source c.reg snap.dataset v.backend = _
    rw [dataset, (source_iff formed known).mpr ⟨nfs, under⟩, text]
  refine ⟨resp, answered, entryOf c.reg u v.backend snap, ?_, ?_, source⟩
  · refine (entries _ source).mpr ⟨v.backend, Dict.mem_keys_iff.mpr ⟨b, known⟩, ?_⟩
    refine List.mem_map.mpr ⟨snap, ?_, rfl⟩
    simp only [listedOn, known, List.mem_filter, dataset]
    exact ⟨member, by simp [startsWith_root under, live]⟩
  · show snapshotID v.backend snap.id = _
    rw [SnapshotState.id, dataset]

/-- What is listed for a volume is readable. -/
theorem readable_of_lists (parsed : parseID req.sourceVolumeId = .ok v)
    (clean : '@' ∉ name.toList) (lawful : Lawful (u.appliance v.backend).storage)
    (plain : ∀ backend ∈ c.reg.names, '/' ∉ backend.toList)
    (listed : Lists (M.calm (c.listSnapshots { sourceVolumeId := req.sourceVolumeId }) u).1
      (snapshotID v.backend (v.datasetPath ++ "@" ++ name)) req.sourceVolumeId) :
    Readable c.reg v := by
  obtain ⟨formed, text⟩ := parseID_ok parsed
  obtain ⟨resp, answered, entries⟩ := calm_listSnapshots_of c parsed u
  obtain ⟨resp', answered', e, found, sameID, source⟩ := listed
  rw [answered] at answered'
  cases answered'
  obtain ⟨backend, configured, onBackend⟩ := (entries e source).mp found
  obtain ⟨snap, member, rfl⟩ := List.mem_map.mp onBackend
  -- The id tells the backend, and the rest of it the dataset.
  have cut : (some (backend, snap.id) : Option (String × String)) =
      some (v.backend, v.datasetPath ++ "@" ++ name) := by
    rw [← cutFirst_append snap.id (plain backend configured),
      ← cutFirst_append (v.datasetPath ++ "@" ++ name) formed.backend.slashless]
    exact congrArg _ sameID
  obtain ⟨rfl, rest⟩ := Prod.mk.inj (Option.some.inj cut)
  unfold listedOn at member
  cases known : c.reg.backends.get? v.backend with
  | none => simp [known] at member
  | some b =>
    simp only [known, List.mem_filter, Bool.and_eq_true, Bool.not_eq_true'] at member
    obtain ⟨stored, -, live⟩ := member
    obtain ⟨dataset, -⟩ := eq_of_id (lawful snap stored) clean rest
    rw [dataset] at live
    have read : snapshotPB.source c.reg v.datasetPath v.backend = v.string := by
      rw [text, ← source, ← dataset]
      rfl
    obtain ⟨nfs, under⟩ := (source_iff formed known).mp read
    exact ⟨nfs, b, known, under, live⟩

/-- For a snapshot that was created and not deleted since. The listing of its volume shows it if the volume
is `Readable`: an NFS volume below the parent, not retired. If no backend has a slash in its name, it shows
it only then. The listing of all is that of the snapshots below the parents exactly if none has a sibling
(`NoSibling`). -/
theorem snapshot_listing_iff (c : Csi.Controller) (req : CreateSnapshotRequest) (v : Volume.ID)
    (parsed : Volume.parseID req.sourceVolumeId = .ok v) (faults : List Fault) (w t u : World)
    (info : SnapshotInfo) (created : M.run (c.createSnapshot req) faults w = (.ok info, t))
    (undeleted : ∀ snap ∈ (t.appliance v.backend).storage.snapshots,
      snap ∈ (u.appliance v.backend).storage.snapshots)
    (before : Lawful (w.appliance v.backend).storage)
    (after : Lawful (u.appliance v.backend).storage) :
    (Readable c.reg v →
      Lists (M.calm (c.listSnapshots { sourceVolumeId := req.sourceVolumeId }) u).1
        info.snapshotId req.sourceVolumeId) ∧
    ((∀ backend ∈ c.reg.names, '/' ∉ backend.toList) →
      Lists (M.calm (c.listSnapshots { sourceVolumeId := req.sourceVolumeId }) u).1
        info.snapshotId req.sourceVolumeId → Readable c.reg v) ∧
    ∃ resp, (M.calm (c.listSnapshots {}) u).1 = .ok resp ∧
      (resp.entries.Perm (c.reg.names.flatMap (insideOn c.reg u)) ↔ NoSibling c.reg u) := by
  have reached := Prog.yields_run_ok (yields_createSnapshot_request c parsed before) created
  obtain ⟨sameID, -, snap, member, dataset, named⟩ := reached
  rw [sameID]
  refine ⟨lists_of_readable c parsed ⟨snap, undeleted snap member, dataset, named⟩, ?_, ?_⟩
  · exact readable_of_lists c parsed (sanitiseSnapshotName_clean req.name) after
  · obtain ⟨resp, answered, all⟩ := calm_listSnapshots c u
    refine ⟨resp, answered, ?_⟩
    rw [← perm_inside_iff]
    exact ⟨fun inside => all.symm.trans inside, fun inside => all.trans inside⟩

def mixedDatasets : Dict Appliance.DatasetState :=
  Dict.ofList [("tank/k8s", { type := .filesystem }), ("tank/k8s/data", { type := .filesystem }),
    ("tank/k8s/disk", { type := .volume, volSize := 4096 }),
    ("tank/k8s-old", { type := .filesystem })]

def mixedWorld : World where
  appliance _ := { storage := { datasets := mixedDatasets } }

def shareRequest : CreateSnapshotRequest := ⟨"daily", "nas/nfs/tank/k8s/data"⟩

/-- The snapshot of a share is listed for it. -/
theorem share_snapshot_listed :
    Lists (M.calm (sampleController.listSnapshots { sourceVolumeId := "nas/nfs/tank/k8s/data" })
      (M.run (sampleController.createSnapshot shareRequest) [] mixedWorld).2).1
      "nas/tank/k8s/data@daily" "nas/nfs/tank/k8s/data" := by
  have created : M.run (sampleController.createSnapshot shareRequest) [] mixedWorld =
      (.ok ⟨"nas/tank/k8s/data@daily", "nas/nfs/tank/k8s/data", 0,
        some (.clock ⟨2026, 1, 1, 0, 0, 0⟩), true⟩,
        (M.run (sampleController.createSnapshot shareRequest) [] mixedWorld).2) :=
    Prod.ext (by decide) rfl
  have lawful : Lawful ((M.run (sampleController.createSnapshot shareRequest) []
      mixedWorld).2.appliance "nas").storage := by
    unfold Lawful
    decide
  refine (snapshot_listing_iff sampleController shareRequest
    ⟨"nas", "nfs", "tank", "k8s", "", "data"⟩ (by decide) [] mixedWorld _ _ _ created
    (fun _ member => member) (nofun) lawful).1 ?_
  exact ⟨rfl, _, rfl, by decide, by decide⟩

def siblingWorld : World where
  appliance _ := { storage := {
    datasets := mixedDatasets
    snapshots := [⟨"tank/k8s-old", "weekly", 1, 1700000000, 0, .filesystem⟩] } }

/-- A sibling's snapshot is listed, the zvol's not. -/
theorem zvol_snapshot_unlisted :
    (M.run (sampleController.createSnapshot ⟨"daily", "nas/iscsi/tank/k8s/disk"⟩) [] siblingWorld).1 =
      .ok ⟨"nas/tank/k8s/disk@daily", "nas/iscsi/tank/k8s/disk", 4096,
        some (.clock ⟨2026, 1, 1, 0, 0, 0⟩), true⟩ ∧
    (M.calm (sampleController.listSnapshots { sourceVolumeId := "nas/iscsi/tank/k8s/disk" })
      (M.run (sampleController.createSnapshot ⟨"daily", "nas/iscsi/tank/k8s/disk"⟩) []
        siblingWorld).2).1 = .ok ⟨[], ""⟩ ∧
    (M.calm (sampleController.listSnapshots {})
      (M.run (sampleController.createSnapshot ⟨"daily", "nas/iscsi/tank/k8s/disk"⟩) []
        siblingWorld).2).1 = .ok
      ⟨[⟨"nas/tank/k8s-old@weekly", "tank/k8s-old", 0, some (.recorded 1700000000), true⟩,
        ⟨"nas/tank/k8s/disk@daily", "nas/nfs/tank/k8s/disk", 4096, none, true⟩], ""⟩ := by
  refine ⟨by decide, by decide, by decide⟩

end TruenasCsi.Snapshots
