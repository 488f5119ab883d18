import TruenasCsi.Snapshots.Calls

/-! When a creation makes exactly the group it was asked for. -/

namespace TruenasCsi.Snapshots

open Appliance (Storage SnapshotState atOrBelow)
open Truenas (Client)
open Csi Prog Volume Backend Appliance.Storage

variable (s : Storage) (parent name : String) (sources : List ID)

/-- The snapshots of a name at or below the parent. -/
def groupIds : Set String :=
  {id | ∃ snap ∈ s.snapshots, snap.name = name ∧ atOrBelow parent snap.dataset = true ∧ snap.id = id}

/-- The ids of the anchor and the members. -/
def memberIds : Set String :=
  {id | ∃ ds ∈ kept parent sources, id = ds ++ "@" ++ name}

/-- The snapshots of the name are the group's. -/
def Exact : Prop :=
  groupIds s parent name = memberIds parent name sources

section

variable {s : Storage} {parent name : String} {sources : List ID}

/-- One snapshot on every dataset below. -/
theorem act_recursive {snap : Appliance.Snapshot}
    (taken : (act (.snapshotCreate parent name true) s).1 = .ok snap) :
    (s.datasets.get? parent).isSome = true ∧
      (act (.snapshotCreate parent name true) s).2.snapshots =
        s.snapshots ++ (s.captured parent true).map (s.newSnapshot name) := by
  by_cases missing : (s.datasets.get? parent).isNone = true
  · simp [act, missing] at taken
  · by_cases clash : ((s.captured parent true).any
        fun p => (s.snapshot? (p ++ "@" ++ name)).isSome) = true
    · simp only [act, if_neg missing, if_pos clash] at taken
      cases taken
    · refine ⟨by simpa [Option.isSome_iff_ne_none] using missing, ?_⟩
      simp only [act, if_neg missing, if_neg clash]

/-- A recursive snapshot captures the parent and all below it. -/
theorem mem_captured {path : String} : path ∈ s.captured parent true ↔
    (∃ d, s.datasets.get? path = some d) ∧ atOrBelow parent path = true := by
  simp only [captured, if_true, List.mem_filter]
  rw [← Dict.mem_keys_iff]

theorem mem_recursive {s' : Storage} (clean : '@' ∉ name.toList) (lawful : Lawful s)
    (grown : s'.snapshots = s.snapshots ++ (s.captured parent true).map (s.newSnapshot name)) :
    Lawful s' ∧ ∀ path d, s.datasets.get? path = some d → atOrBelow parent path = true →
      ∃ snap ∈ s'.snapshots, snap.dataset = path ∧ snap.name = name := by
  constructor
  · intro snap member
    rw [grown, List.mem_append, List.mem_map] at member
    rcases member with old | ⟨p, -, rfl⟩
    · exact lawful snap old
    · exact clean
  · intro path d present below
    refine ⟨s.newSnapshot name path, ?_, rfl, rfl⟩
    rw [grown, List.mem_append]
    exact .inr (List.mem_map.mpr ⟨path, mem_captured.mpr ⟨⟨d, present⟩, below⟩, rfl⟩)

/-- What trimming takes away. -/
def trimmed (parent name : String) (sources : List ID) (s : Storage) : List Appliance.Snapshot :=
  (s.snapshots.filter fun snap => snap.name == name && atOrBelow parent snap.dataset &&
    decide (snapshotDataset (snapshotView snap) ∉ kept parent sources)).map snapshotView

theorem mem_trimmed (clean : '@' ∉ name.toList) (lawful : Lawful s)
    {snap : SnapshotState} (member : snap ∈ s.snapshots) (named : snap.name = name)
    (below : atOrBelow parent snap.dataset = true) :
    snap.id ∈ idsOf (trimmed parent name sources s) ↔ snap.dataset ∉ kept parent sources := by
  simp only [idsOf, trimmed, List.mem_map, List.mem_filter, Bool.and_eq_true, decide_eq_true_eq,
    beq_iff_eq]
  constructor
  · rintro ⟨-, ⟨other, ⟨present, ⟨otherNamed, -⟩, dropped⟩, rfl⟩, same⟩
    rw [snapshotDataset_view (lawful other present)] at dropped
    -- The same id is the same dataset.
    have ids : other.id = snap.dataset ++ "@" ++ name := by rw [← named]; exact same
    rwa [(eq_of_id (lawful other present) clean ids).1] at dropped
  · intro dropped
    refine ⟨_, ⟨snap, ⟨member, ⟨named, below⟩, ?_⟩, rfl⟩, rfl⟩
    rwa [snapshotDataset_view (lawful snap member)]

/-- Once what is no member's is removed, the group is exact. -/
theorem exact_trimmed (clean : '@' ∉ name.toList) (lawful : Lawful s)
    (held : ∀ ds ∈ kept parent sources, atOrBelow parent ds = true ∧
      ∃ snap ∈ s.snapshots, snap.dataset = ds ∧ snap.name = name) :
    Exact (without (idsOf (trimmed parent name sources s)) s) parent name sources := by
  ext id
  constructor
  · rintro ⟨snap, member, named, below, rfl⟩
    obtain ⟨present, left⟩ := mem_without.mp member
    rw [mem_trimmed clean lawful present named below, not_not] at left
    exact ⟨snap.dataset, left, by rw [← named]; rfl⟩
  · rintro ⟨ds, member, rfl⟩
    obtain ⟨below, snap, present, rfl, named⟩ := held ds member
    refine ⟨snap, mem_without.mpr ⟨present, ?_⟩, named, below, by rw [← named]; rfl⟩
    rwa [mem_trimmed clean lawful present named below, not_not]

end

theorem atOrBelow_self (path : String) : atOrBelow path path = true := by
  simp [atOrBelow]

section

variable (c : Client) {parent name : String} {sources : List ID} {w : World}

theorem yields_trimNonMembers (lawful : Lawful (w.appliance c.name).storage) :
    M.yields (trimNonMembers c parent name sources) (fun _ t =>
      t = stored w c.name (without
        (idsOf (trimmed parent name sources (w.appliance c.name).storage))
        (w.appliance c.name).storage)) w := by
  unfold trimNonMembers
  refine ((asks_snapshotList c parent).mapError _).yields_seq ?_
  rw [listed_inGroup lawful]
  exact yields_removeNonMembers c _

theorem yields_snapshotCreateRecursive : M.yields (c.snapshotCreateRecursive parent name)
    (fun _ t => ∃ s', t = stored w c.name s' ∧
      ((w.appliance c.name).storage.datasets.get? parent).isSome = true ∧
      s'.snapshots = (w.appliance c.name).storage.snapshots ++
        ((w.appliance c.name).storage.captured parent true).map
          ((w.appliance c.name).storage.newSnapshot name)) w := by
  refine yields_middleware fun snap taken => ?_
  obtain ⟨anchored, grown⟩ := act_recursive taken
  exact ⟨_, acted_dataset _ _ _, anchored, grown⟩

/-- The sources are datasets below the parent. -/
def Present (s : Storage) (parent : String) (sources : List ID) : Prop :=
  ∀ v ∈ sources, (∃ d, s.datasets.get? v.datasetPath = some d) ∧
    atOrBelow parent v.datasetPath = true

/-- An anchor that is found is taken as it is; a new one comes with all members. -/
theorem yields_ensureAnchor (clean : '@' ∉ name.toList)
    (lawful : Lawful (w.appliance c.name).storage)
    (present : Present (w.appliance c.name).storage parent sources) :
    M.yields (ensureAnchor c parent name sources) (fun _ t =>
      if (w.appliance c.name).storage.snapshot? (parent ++ "@" ++ name) = none
      then Exact (t.appliance c.name).storage parent name sources else t = w) w := by
  unfold ensureAnchor
  refine (asks_snapshotQuery c _).yields_seq ?_
  cases found : (w.appliance c.name).storage.snapshot? (parent ++ "@" ++ name) with
  | some snap => exact yields_ret (by simp)
  | none =>
    refine yields_bind (yields_snapshotCreateRecursive c) ?_
    rintro _ t ⟨s', rfl, anchored, grown⟩
    obtain ⟨d, anchored⟩ := Option.isSome_iff_exists.mp anchored
    obtain ⟨lawful', covers⟩ := mem_recursive clean lawful grown
    have exact : Exact (without (idsOf (trimmed parent name sources s')) s') parent name sources := by
      refine exact_trimmed clean lawful' fun ds member => ?_
      rcases List.mem_cons.mp member with rfl | member
      · exact ⟨atOrBelow_self _, covers _ _ anchored (atOrBelow_self _)⟩
      · obtain ⟨v, source, rfl⟩ := List.mem_map.mp member
        obtain ⟨⟨d, stands⟩, below⟩ := present v source
        exact ⟨below, covers _ _ stands below⟩
    refine yields_bind (yields_trimNonMembers c (by simpa using lawful')) ?_
    rintro _ t rfl
    refine yields_bind (yields_attempt (asks_snapshotQuery c _)) ?_
    rintro answer u ⟨rfl, -⟩
    have ends : Exact ((stored (stored w c.name s') c.name (without (idsOf (trimmed parent name
        sources ((stored w c.name s').appliance c.name).storage))
        ((stored w c.name s').appliance c.name).storage)).appliance c.name).storage
        parent name sources := by
      simpa using exact
    cases answer with
    | ok found => exact yields_ret ends
    | error e => exact yields_ret ends

theorem yields_provisionedBytes (snap : Option Appliance.Snapshot) (dataset : String) :
    M.yields (provisionedBytes c snap dataset) (fun _ t => t = w) w := by
  unfold provisionedBytes
  simp only
  split_ifs
  · exact yields_ret rfl
  · refine yields_bind (yields_attempt (Truenas.asks_datasetQuery c dataset)) ?_
    rintro answer t ⟨rfl, -⟩
    split
    · exact yields_ret rfl
    · exact yields_ret rfl

theorem yields_groupMembers (backendName : String) (created : Moment) :
    M.yields (groupMembers c backendName name created sources) (fun members t => t = w ∧
      members.map (·.id) = sources.map fun v =>
        snapshotID backendName (v.datasetPath ++ "@" ++ name)) w := by
  induction sources with
  | nil => exact yields_ret ⟨rfl, rfl⟩
  | cons v rest ih =>
    refine yields_bind (yields_attempt (asks_snapshotQuery c _)) ?_
    rintro answer t ⟨rfl, -⟩
    refine yields_bind (yields_provisionedBytes c _ _) ?_
    rintro size u rfl
    refine yields_bind ih ?_
    rintro others x ⟨rfl, ids⟩
    exact yields_ret ⟨rfl, by simp [ids]⟩

end

variable {sources : List ID} {parent : String}

theorem parseSources_formed {raw : List String}
    (parsed : parseSources raw = .ok sources) : ∀ v ∈ sources, WellFormed v := by
  induction raw generalizing sources with
  | nil =>
    cases parsed
    simp
  | cons text rest ih =>
    rw [parseSources] at parsed
    cases first : parseID text with
    | error e => simp [first] at parsed
    | ok id =>
      cases others : parseSources rest with
      | error e => simp [first, others, Except.map] at parsed
      | ok ids =>
        simp only [first, others, Except.map, Except.ok.injEq] at parsed
        subst parsed
        exact List.forall_mem_cons.mpr ⟨(parseID_ok first).1, ih others⟩

theorem sameParent_ok {first : ID} {rest : List ID}
    (agreed : sameParent first parent rest = .ok ()) :
    ∀ v ∈ rest, v.backend = first.backend ∧ Text.dirPath v.datasetPath = parent := by
  induction rest with
  | nil => simp
  | cons v rest ih =>
    rw [sameParent] at agreed
    split_ifs at agreed with elsewhere apart
    exact List.forall_mem_cons.mpr ⟨⟨not_not.mp elsewhere, not_not.mp apart⟩, ih agreed⟩

/-- The sources lie directly below one parent of one backend. -/
theorem groupParent_ok {reg : Registry} (grouped : reg.groupParent sources = .ok parent) :
    ∃ first rest b, sources = first :: rest ∧ reg.backends.get? first.backend = some b ∧
      ∀ v ∈ sources, v.backend = first.backend ∧ Text.dirPath v.datasetPath = parent := by
  cases sources with
  | nil => cases grouped
  | cons first rest =>
    rw [Registry.groupParent] at grouped
    cases agreed : sameParent first (Text.dirPath first.datasetPath) rest with
    | error e => simp [agreed] at grouped
    | ok _ =>
      cases known : reg.backends.get? first.backend with
      | none => simp [agreed, Registry.backend, known] at grouped
      | some cfg =>
        simp only [agreed, Registry.backend, known] at grouped
        split_ifs at grouped
        cases grouped
        exact ⟨first, rest, cfg, rfl, known,
          List.forall_mem_cons.mpr ⟨⟨rfl, rfl⟩, sameParent_ok agreed⟩⟩

theorem atOrBelow_datasetPath {v : ID} (formed : WellFormed v) :
    atOrBelow (Text.dirPath v.datasetPath) v.datasetPath = true := by
  rw [dirPath_datasetPath formed, v.datasetPath_eq]
  exact Bool.or_eq_true _ _ |>.mpr (.inr (Text.startsWith_iff.mpr ⟨v.name, rfl⟩))

section

variable {w : World} {sources : List ID} {name : String}

variable (c : Controller)

theorem yields_requireAllExist (sources : List ID) :
    M.yields (c.requireAllExist sources) (fun _ t => t.appliance = w.appliance ∧
      ∀ v ∈ sources, ∃ d, (w.appliance v.backend).storage.datasets.get? v.datasetPath = some d) w := by
  suffices all : ∀ u : World, u.appliance = w.appliance → M.yields (c.requireAllExist sources)
      (fun _ t => t.appliance = w.appliance ∧ ∀ v ∈ sources,
        ∃ d, (w.appliance v.backend).storage.datasets.get? v.datasetPath = some d) u from all w rfl
  induction sources with
  | nil => exact fun u same => yields_ret ⟨same, by simp⟩
  | cons v rest ih =>
    intro u same
    refine yields_bind (c.yields_requireVolumeExists v) ?_
    rintro _ t ⟨unchanged, present⟩
    rw [same] at unchanged present
    refine yields_mono (ih t unchanged) ?_
    rintro _ x ⟨same', others⟩
    exact ⟨same', List.forall_mem_cons.mpr ⟨present, others⟩⟩

/-- A creation did nothing, or exactly its group. -/
theorem yields_createGroupLocked
    (clean : '@' ∉ name.toList) (lawful : ∀ backend, Lawful (w.appliance backend).storage)
    (formed : ∀ v ∈ sources, WellFormed v) :
    M.yields (c.createGroupLocked sources name) (fun g t => ∃ parent backend,
      c.reg.groupParent sources = .ok parent ∧ (∀ v ∈ sources, v.backend = backend) ∧
      (g.members.map (·.id) = sources.map fun v =>
        snapshotID backend (v.datasetPath ++ "@" ++ name)) ∧
      if (w.appliance backend).storage.snapshot? (parent ++ "@" ++ name) = none
      then Exact (t.appliance backend).storage parent name sources
      else t.appliance = w.appliance) w := by
  unfold Controller.createGroupLocked
  have checked : M.yields (withStatus (Prog.ofExcept ((c.reg.groupParent sources).map fun _ => ())))
      (fun _ t => t = w ∧ ∃ parent, c.reg.groupParent sources = .ok parent) w := by
    refine yields_mapError (yields_ofExcept fun _ accepted => ⟨rfl, ?_⟩)
    cases grouped : c.reg.groupParent sources with
    | error e => simp [grouped, Except.map] at accepted
    | ok parent => exact ⟨parent, rfl⟩
  refine yields_bind checked ?_
  rintro _ z ⟨start, parent, grouped⟩
  subst z
  obtain ⟨first, rest, -, shape, -, together⟩ := groupParent_ok grouped
  refine yields_bind (yields_requireAllExist c sources) ?_
  rintro _ t ⟨same, stands⟩
  refine yields_mapError ?_
  unfold Registry.createGroupSnapshot
  rw [grouped]
  have backendName : (sources.head?.map (·.backend)).getD "" = first.backend := by simp [shape]
  rw [backendName]
  simp only [ofExcept_ok, ret_bind]
  refine yields_bind (c.reg.yields_client first.backend) ?_
  rintro cl u ⟨same', b, -, rfl⟩
  have untouched : u.appliance = w.appliance := same'.trans same
  -- Nothing was written yet, so the sources that were checked are still there.
  have present : Present (u.appliance first.backend).storage parent sources := by
    intro v member
    obtain ⟨onBackend, under⟩ := together v member
    refine ⟨?_, under ▸ atOrBelow_datasetPath (formed v member)⟩
    rw [untouched, ← onBackend]
    exact stands v member
  refine yields_bind (yields_ensureAnchor ⟨first.backend, b.host⟩ clean
    (untouched ▸ lawful first.backend) present) ?_
  intro anchor x ends
  refine yields_bind (yields_groupMembers _ first.backend _) ?_
  rintro members z ⟨rfl, ids⟩
  refine yields_ret ⟨parent, first.backend, rfl, fun v member => (together v member).1, ids, ?_⟩
  simp only [untouched] at ends
  split_ifs at ends ⊢ with found
  · exact ends
  · rw [ends, untouched]

/-- One snapshot per source, as asked for. -/
def Fulfilled (backend parent name : String) (sources : List ID) (g : GroupSnapshot)
    (s : Storage) : Prop :=
  Exact s parent name sources ∧
    ∀ m ∈ g.members, ∃ snap ∈ s.snapshots, m.id = snapshotID backend snap.id

theorem fulfilled_iff {backend : String}
    {g : GroupSnapshot} {s : Storage} (members : g.members.map (·.id) = sources.map fun v =>
      snapshotID backend (v.datasetPath ++ "@" ++ name)) :
    Fulfilled backend parent name sources g s ↔ Exact s parent name sources := by
  constructor
  · exact And.left
  · intro exact
    refine ⟨exact, fun m member => ?_⟩
    have reported : m.id ∈ g.members.map (·.id) := List.mem_map_of_mem member
    rw [members] at reported
    obtain ⟨v, source, same⟩ := List.mem_map.mp reported
    have intended : v.datasetPath ++ "@" ++ name ∈ memberIds parent name sources :=
      ⟨v.datasetPath, List.mem_cons_of_mem _ (List.mem_map_of_mem source), rfl⟩
    rw [← exact] at intended
    obtain ⟨snap, present, -, -, id⟩ := intended
    exact ⟨snap, present, by rw [id, same]⟩

theorem yields_createVolumeGroupSnapshot (req : CreateGroupRequest)
    (lawful : ∀ backend, Lawful (w.appliance backend).storage) :
    M.yields (c.createVolumeGroupSnapshot req) (fun g t => ∃ sources parent backend,
      parseSources req.sourceVolumeIds = .ok sources ∧
      c.reg.groupParent sources = .ok parent ∧ (∀ v ∈ sources, v.backend = backend) ∧
      (g.members.map (·.id) = sources.map fun v =>
        snapshotID backend (v.datasetPath ++ "@" ++ sanitiseSnapshotName req.name)) ∧
      if (w.appliance backend).storage.snapshot? (parent ++ "@" ++ sanitiseSnapshotName req.name) = none
      then Exact (t.appliance backend).storage parent (sanitiseSnapshotName req.name) sources
      else t.appliance = w.appliance) w := by
  unfold Controller.createVolumeGroupSnapshot
  split_ifs
  · exact yields_fail
  · exact yields_fail
  · cases parsed : parseSources req.sourceVolumeIds with
    | error e => exact yields_fail
    | ok sources =>
      refine yields_locked ?_ fun t same => ?_
      · intro g t u same
        rw [same]
        exact id
      · refine yields_mono (yields_createGroupLocked c (sanitiseSnapshotName_clean _)
          (fun backend => same ▸ lawful backend) (parseSources_formed parsed)) ?_
        rintro g u ⟨parent, backend, grouped, together, members, ends⟩
        rw [same] at ends
        exact ⟨sources, parent, backend, rfl, grouped, together, members, ends⟩

/-- For a request that succeeded, with any failures, on appliances whose snapshot names have no `@`: the
sources are of one backend and parent, and there is one snapshot per source and no other of the name,
exactly if the parent had no snapshot of the name or the group was exact before. -/
theorem group_snapshot_fulfilled_iff (c : Controller) (req : CreateGroupRequest) (w : World)
    (lawful : ∀ backend, Lawful (w.appliance backend).storage) (faults : List Fault)
    {g : Backend.GroupSnapshot}
    (succeeded : (M.run (c.createVolumeGroupSnapshot req) faults w).1 = .ok g) :
    ∃ sources parent backend, Csi.parseSources req.sourceVolumeIds = .ok sources ∧
      c.reg.groupParent sources = .ok parent ∧ (∀ v ∈ sources, v.backend = backend) ∧
      (Fulfilled backend parent (sanitiseSnapshotName req.name) sources g
          ((M.run (c.createVolumeGroupSnapshot req) faults w).2.appliance backend).storage ↔
        (w.appliance backend).storage.snapshot? (parent ++ "@" ++ sanitiseSnapshotName req.name) = none ∨
          Exact (w.appliance backend).storage parent (sanitiseSnapshotName req.name) sources) := by
  obtain ⟨g', answered, sources, parent, backend, parsed, grouped, together, members, ends⟩ :=
    yields_run (yields_createVolumeGroupSnapshot c req lawful) (by rw [succeeded]; rfl)
  obtain rfl : g = g' := Except.ok.inj (succeeded.symm.trans answered)
  refine ⟨sources, parent, backend, parsed, grouped, together, ?_⟩
  rw [fulfilled_iff members]
  split_ifs at ends with fresh
  · exact ⟨fun _ => .inl fresh, fun _ => ends⟩
  · rw [ends]
    exact ⟨.inr, fun holds => holds.resolve_left fresh⟩

end

def sampleController : Controller where
  reg := {
    backends := Dict.ofList
      [("nas", { pool := "tank", parentDataset := "k8s", host := "10.0.0.9" })]
    env := ⟨⟨2026, 1, 1, 0, 0, 0⟩, 0, "secret", fun _ => "0", id⟩ }
  nodes := kubeNodeResolver fun _ => .ok none

def sampleDatasets : Dict Appliance.DatasetState :=
  .ofList [("tank", { type := .filesystem }), ("tank/k8s", { type := .filesystem }),
    ("tank/k8s/data", { type := .filesystem }), ("tank/k8s/wal", { type := .filesystem }),
    ("tank/k8s/other", { type := .filesystem })]

def sampleWorld : World where
  appliance _ := { storage := { datasets := sampleDatasets } }

def sampleRequest : CreateGroupRequest :=
  ⟨"backup", ["nas/nfs/tank/k8s/data", "nas/nfs/tank/k8s/wal"]⟩

theorem sampleWorld_lawful (backend : String) : Lawful (sampleWorld.appliance backend).storage :=
  fun _ member => (List.not_mem_nil member).elim

def sampleSources : List ID :=
  [⟨"nas", "nfs", "tank", "k8s", "", "data"⟩, ⟨"nas", "nfs", "tank", "k8s", "", "wal"⟩]

/-- With nothing there, the group is exact. -/
theorem group_snapshot_fulfilled_sample : ∃ g,
    (M.run (sampleController.createVolumeGroupSnapshot sampleRequest) [] sampleWorld).1 = .ok g ∧
      Fulfilled "nas" "tank/k8s" "backup" sampleSources g ((M.run (sampleController.createVolumeGroupSnapshot
        sampleRequest) [] sampleWorld).2.appliance "nas").storage := by
  have completes : (M.run (sampleController.createVolumeGroupSnapshot sampleRequest) []
      sampleWorld).1.isOk = true := by decide +kernel
  cases answer : (M.run (sampleController.createVolumeGroupSnapshot sampleRequest) [] sampleWorld).1 with
  | error e =>
    rw [answer] at completes
    cases completes
  | ok g =>
    refine ⟨g, rfl, ?_⟩
    obtain ⟨sources, parent, backend, parsed, grouped, together, exactly⟩ :=
      group_snapshot_fulfilled_iff sampleController sampleRequest sampleWorld sampleWorld_lawful [] answer
    obtain rfl : sampleSources = sources := Except.ok.inj (by rw [← parsed]; decide +kernel)
    obtain rfl : "tank/k8s" = parent := Except.ok.inj (by rw [← grouped]; decide +kernel)
    obtain rfl : "nas" = backend := together _ (List.mem_cons_self ..)
    have name : sanitiseSnapshotName sampleRequest.name = "backup" := by decide
    rw [name] at exactly
    exact exactly.mpr (.inl rfl)

/-- A recursive snapshot that was taken and never trimmed. -/
def interrupted : World :=
  (M.run (sampleController.createVolumeGroupSnapshot sampleRequest)
    (List.replicate 9 .none ++ [.refused (.plain "connection reset")]) sampleWorld).2

theorem not_fulfilled_of_stray {backend name : String}
    {g : GroupSnapshot} {s : Storage} (path : String)
    (stray : (s.snapshots.any fun snap => snap.name == name && atOrBelow parent snap.dataset &&
      snap.id == path ++ "@" ++ name) = true) (clean : '@' ∉ name.toList)
    (foreign : path ∉ kept parent sources) :
    ¬Fulfilled backend parent name sources g s := by
  rintro ⟨exact, -⟩
  simp only [List.any_eq_true, Bool.and_eq_true, beq_iff_eq] at stray
  obtain ⟨snap, present, ⟨named, below⟩, id⟩ := stray
  have intended : snap.id ∈ memberIds parent name sources := exact ▸ ⟨snap, present, named, below, rfl⟩
  obtain ⟨ds, member, same⟩ := intended
  -- Two datasets with the same id after the same name are the same.
  have paths := congrArg splitSnapshotID (id.symm.trans same)
  rw [splitSnapshotID_append _ clean, splitSnapshotID_append _ clean] at paths
  have dataset : path = ds := congrArg Prod.fst paths
  exact foreign (dataset ▸ member)

/-- The next attempt leaves the bystander's snapshot. -/
theorem bystander_keeps_snapshot : ∃ g,
    (M.run (sampleController.createVolumeGroupSnapshot sampleRequest) [] interrupted).1 = .ok g ∧
      ¬Fulfilled "nas" "tank/k8s" "backup" sampleSources g ((M.run
        (sampleController.createVolumeGroupSnapshot sampleRequest) [] interrupted).2.appliance "nas").storage := by
  have completes : (M.run (sampleController.createVolumeGroupSnapshot sampleRequest) []
      interrupted).1.isOk = true := by decide +kernel
  cases answer : (M.run (sampleController.createVolumeGroupSnapshot sampleRequest) [] interrupted).1 with
  | error e =>
    rw [answer] at completes
    cases completes
  | ok g =>
    refine ⟨g, rfl, not_fulfilled_of_stray "tank/k8s/other" ?_ (by decide) (by decide)⟩
    decide +kernel

end TruenasCsi.Snapshots
