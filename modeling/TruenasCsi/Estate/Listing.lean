import TruenasCsi.Csi.Listing
import TruenasCsi.Estate.Ownership
import TruenasCsi.Reconcile.Orphans
import TruenasCsi.Replication.Manager

/-!
# When the listing and the orphan report see exactly the live volumes

## Main results

`listing_accurate_iff` and `orphans_exact_iff`: the listing and the report are right exactly if no live
volume is in a namespace and everything apparent is live, ids in use apart. The condition is on the markers
that are set in the tree, not on what the requests return.

## Proof strategy

Both run one scan, which finds what is apparent, each id once (`Estates.mem_strings`, `nodup_strings`). An id
is read back from its text, so it is right exactly if the apparent and the live are the same volumes
(`Estates.exact_iff`).
-/

namespace TruenasCsi.Estate

open Appliance Backend Appliance.Storage Text Csi
open Volume (ownerProperty ownerValue namespaceProperty ID)

variable {name : String} {b : Config} {s : Storage} {v id : ID}

section

variable (reg : Registry) (w : World)

/-- Every backend is configured and its markers are in order. -/
def Estates : Prop := ∀ name b, reg.backends.get? name = some b →
  Configured name b ∧ Orderly b (w.appliance name).storage

def LiveIn (v : ID) : Prop := ∃ b, reg.backends.get? v.backend = some b ∧
  Live v.backend b (w.appliance v.backend).storage v

def ApparentIn (v : ID) : Prop := ∃ b, reg.backends.get? v.backend = some b ∧
  Apparent b (w.appliance v.backend).storage v.backend v

/-- All that the scan misses or mistakes for a volume has an id in use: live volumes in a namespace, and
what is apparent and not live. -/
structure Settled (bound : String → Prop) : Prop where
  missed : ∀ v, LiveIn reg w v → v.ns ≠ "" → bound v.string
  mistaken : ∀ v, ApparentIn reg w v → ¬LiveIn reg w v → bound v.string

def foundOn (name : String) : List ID :=
  match reg.backends.get? name with
  | none => []
  | some b => found name b (w.appliance name).storage

end

namespace Estates

variable {reg : Registry} {w : World} (estates : Estates reg w)

include estates

theorem mem_foundOn : id ∈ foundOn reg w name ↔ ApparentIn reg w id ∧ id.backend = name := by
  unfold foundOn
  cases known : reg.backends.get? name with
  | none =>
    simp only [List.not_mem_nil, false_iff]
    rintro ⟨⟨b, known', -⟩, rfl⟩
    rw [known] at known'
    cases known'
  | some b =>
    rw [(estates name b known).2.mem_found]
    constructor
    · intro apparent
      have backend := apparent.sited.backend
      exact ⟨⟨b, backend ▸ known, backend ▸ apparent⟩, backend⟩
    · rintro ⟨⟨b', known', apparent⟩, rfl⟩
      obtain rfl : b = b' := Option.some.inj (known.symm.trans known')
      exact apparent

theorem formed_apparent (apparent : ApparentIn reg w v) : Volume.WellFormed v := by
  obtain ⟨b, known, apparent⟩ := apparent
  exact apparent.sited.formed (estates v.backend b known).1

theorem formed_live (live : LiveIn reg w v) : Volume.WellFormed v := by
  obtain ⟨b, known, live⟩ := live
  exact live.sited.formed (estates v.backend b known).1

omit estates in
theorem apparent_iff_flat (live : LiveIn reg w v) : ApparentIn reg w v ↔ v.ns = "" := by
  obtain ⟨b, known, live⟩ := live
  rw [← Estate.apparent_iff_flat live]
  constructor
  · rintro ⟨b', known', apparent⟩
    obtain rfl : b = b' := Option.some.inj (known.symm.trans known')
    exact apparent
  · exact fun apparent => ⟨b, known, apparent⟩

theorem mem_strings {id : String} : id ∈ (reg.names.flatMap (foundOn reg w)).map (·.string) ↔
    ∃ v, ApparentIn reg w v ∧ v.string = id := by
  simp only [List.mem_map, List.mem_flatMap, estates.mem_foundOn]
  constructor
  · rintro ⟨v, ⟨_, -, apparent, -⟩, same⟩
    exact ⟨v, apparent, same⟩
  · rintro ⟨v, apparent, same⟩
    have ⟨b, known, _⟩ := apparent
    exact ⟨v, ⟨v.backend, Dict.mem_keys_iff.mpr ⟨b, known⟩, apparent, rfl⟩, same⟩

omit estates in
theorem string_inj {v v' : ID} (formed : Volume.WellFormed v) (formed' : Volume.WellFormed v')
    (same : v.string = v'.string) : v = v' := by
  have parsed := Volume.parseID_string formed
  rw [same, Volume.parseID_string formed'] at parsed
  exact (Except.ok.inj parsed).symm

theorem nodup_strings : ((reg.names.flatMap (foundOn reg w)).map (·.string)).Nodup := by
  refine List.Nodup.map_on ?_ (List.nodup_flatMap.mpr ⟨fun name _ => ?_, ?_⟩)
  · intro v member v' member' same
    obtain ⟨_, -, member⟩ := List.mem_flatMap.mp member
    obtain ⟨_, -, member'⟩ := List.mem_flatMap.mp member'
    exact string_inj (estates.formed_apparent (estates.mem_foundOn.mp member).1)
      (estates.formed_apparent (estates.mem_foundOn.mp member').1) same
  · unfold foundOn
    cases known : reg.backends.get? name with
    | none => exact List.nodup_nil
    | some b => exact (estates name b known).2.nodup_found
  · refine reg.backends.keys_nodup.imp ?_
    intro name name' different v member member'
    exact different ((estates.mem_foundOn.mp member).2.symm.trans (estates.mem_foundOn.mp member').2)

/-- What is apparent and what is live agree iff the trees are settled, ids in use apart. -/
theorem exact_iff (bound : String → Prop) :
    (∀ id, (∃ v, ApparentIn reg w v ∧ v.string = id) ∧ ¬bound id ↔
      (∃ v, LiveIn reg w v ∧ v.string = id) ∧ ¬bound id) ↔ Settled reg w bound := by
  constructor
  · intro agree
    constructor
    · intro v alive namespaced
      by_contra unused
      obtain ⟨⟨v', apparent, same⟩, -⟩ := (agree v.string).mpr ⟨⟨v, alive, rfl⟩, unused⟩
      obtain rfl := string_inj (estates.formed_apparent apparent) (estates.formed_live alive) same
      exact namespaced ((apparent_iff_flat alive).mp apparent)
    · intro v apparent dead
      by_contra unused
      obtain ⟨⟨v', alive, same⟩, -⟩ := (agree v.string).mp ⟨⟨v, apparent, rfl⟩, unused⟩
      obtain rfl := string_inj (estates.formed_live alive) (estates.formed_apparent apparent) same
      exact dead alive
  · intro settled id
    refine and_congr_left fun unused => ⟨?_, ?_⟩
    · rintro ⟨v, apparent, rfl⟩
      refine ⟨v, ?_, rfl⟩
      by_contra dead
      exact unused (settled.mistaken v apparent dead)
    · rintro ⟨v, alive, rfl⟩
      refine ⟨v, (apparent_iff_flat alive).mpr ?_, rfl⟩
      by_contra namespaced
      exact unused (settled.missed v alive namespaced)

end Estates

theorem map_id_volumeEntries (datasets : List Dataset) :
    (volumeEntries name b datasets).map (·.id) =
      (datasets.filterMap (volumeOn name b)).map (·.string) := by
  simp only [volumeEntries, List.map_filterMap, Option.map_map]
  rfl

theorem page_all (all : List VolumeEntry) : page all {} = .ok ⟨all, ""⟩ := by
  simp [page]

theorem calm_listVolumes (c : Controller) (w : World) :
    ∃ resp t, M.calm (c.listVolumes {}) w = (.ok resp, t) ∧
      (resp.entries.map (·.id)).Perm ((c.reg.names.flatMap (foundOn c.reg w)).map (·.string)) := by
  obtain ⟨t, scanned, -⟩ := c.reg.calm_scan volumeEntries c.reg.sortedNames w
  unfold Controller.listVolumes withStatus
  rw [calm_bind_ok (calm_mapError_ok scanned), page_all]
  refine ⟨_, t, rfl, ?_⟩
  refine ((List.perm_insertionSort _ _).map _).trans ?_
  rw [List.map_flatMap, List.map_flatMap]
  have same : ∀ name, (c.reg.visited volumeEntries w name).map (·.id) =
      (foundOn c.reg w name).map (·.string) := by
    intro name
    unfold foundOn Registry.visited
    cases c.reg.backends.get? name with
    | none => rfl
    | some b => exact map_id_volumeEntries _
  simp only [same]
  exact (List.perm_insertionSort _ _).flatMap_right _

/-- Every live volume once and nothing else. -/
def Accurate (reg : Registry) (w : World) (ids : List String) : Prop :=
  ids.Nodup ∧ ∀ id, id ∈ ids ↔ ∃ v, LiveIn reg w v ∧ v.string = id

section

def sampleConfig : Config := { pool := "tank", parentDataset := "k8s" }

def sampleController : Controller where
  reg := {
    backends := Dict.ofList [("nas", sampleConfig)]
    env := ⟨⟨2026, 1, 1, 0, 0, 0⟩, 0, "secret", fun _ => "0", fun name => name⟩ }
  nodes := kubeNodeResolver fun _ => .ok none

/-- The parent and the given datasets below it. -/
def sampleWorld (below : List (String × List (String × String))) : World where
  appliance _ := {
    storage := {
      datasets := .ofList ((("tank", []) :: ("tank/k8s", []) :: below).map fun (path, props) =>
        (path, { type := .filesystem, userProperties := .ofList props })) } }

def flatVolume : ID := ⟨"nas", "nfs", "tank", "k8s", "", "data"⟩

def flatWorld : World := sampleWorld [("tank/k8s/data", birthmarks flatVolume)]

def nestedVolume : ID := ⟨"nas", "nfs", "tank", "k8s", "team-a", "data"⟩

/-- A volume in a namespace, and the root of a rehearsal beside the container. -/
def mixedWorld : World := sampleWorld [
  ("tank/k8s/team-a", [(ownerProperty, ownerValue), (namespaceProperty, "team-a")]),
  ("tank/k8s/team-a/data", birthmarks nestedVolume),
  ("tank/k8s/csi-testfailover-g",
    (Replication.Manager.scratchSpec "tank/k8s/csi-testfailover-g").userProperties)]

theorem backend_sample {name : String} {b : Config}
    (known : sampleController.reg.backends.get? name = some b) : name = "nas" ∧ b = sampleConfig := by
  simp only [sampleController, Dict.ofList, List.foldl_cons, List.foldl_nil, Dict.get?_set] at known
  split_ifs at known with here
  · exact ⟨here, (Option.some.inj known).symm⟩
  · cases known

theorem estates_sample {w : World}
    (unmarked : ∀ key ∈ markers, ∀ up ∈ (w.appliance "nas").storage.datasets.keys,
      atOrBelow up "tank/k8s" = true → (w.appliance "nas").storage.own up key = none)
    (protocol : ∀ path ∈ (w.appliance "nas").storage.datasets.keys,
      ∀ p ∈ (w.appliance "nas").storage.own path Volume.protocolProperty, Volume.Component p) :
    Estates sampleController.reg w := by
  intro name b known
  obtain ⟨rfl, rfl⟩ := backend_sample known
  refine ⟨⟨by decide, by decide, by decide⟩, fun key marker up above => ?_, fun path p set => ?_⟩
  · exact own_none_of_keys (unmarked key marker) up above
  · obtain ⟨d, found, -⟩ := Option.bind_eq_some_iff.mp set
    exact protocol path (Dict.mem_keys_iff.mpr ⟨d, found⟩) p set

theorem estates_flat : Estates sampleController.reg flatWorld := estates_sample (by decide) (by decide)

theorem live_flat : LiveIn sampleController.reg flatWorld flatVolume :=
  ⟨sampleConfig, rfl, ⟨⟨rfl, rfl, .inl rfl, by decide⟩, rfl, by decide⟩, by decide, by decide, by decide⟩

theorem estates_mixed : Estates sampleController.reg mixedWorld := estates_sample (by decide) (by decide)

theorem live_nested : LiveIn sampleController.reg mixedWorld nestedVolume :=
  ⟨sampleConfig, rfl, ⟨⟨rfl, rfl, .inr (by decide), by decide⟩, rfl, by decide⟩, by decide, by decide,
    by decide⟩

/-- What is apparent there is the volume. -/
theorem apparent_flat (apparent : ApparentIn sampleController.reg flatWorld v) : v = flatVolume := by
  have ⟨b, known, _⟩ := apparent
  have member := estates_flat.mem_foundOn.mpr ⟨apparent, (backend_sample known).1⟩
  rw [show foundOn sampleController.reg flatWorld "nas" = [flatVolume] by decide] at member
  exact List.mem_singleton.mp member

theorem tidy_flat : (∀ v, LiveIn sampleController.reg flatWorld v → v.ns = "") ∧
    ∀ v, ApparentIn sampleController.reg flatWorld v → LiveIn sampleController.reg flatWorld v := by
  constructor
  · rintro v ⟨b, known, live⟩
    obtain ⟨backend, rfl⟩ := backend_sample known
    by_contra namespaced
    have marked := live.housed namespaced
    have unmarked : ∀ path, True → (flatWorld.appliance "nas").storage.own path namespaceProperty = none :=
      own_none_of_keys (by decide)
    rw [backend, unmarked _ trivial] at marked
    cases marked
  · intro v apparent
    obtain rfl := apparent_flat apparent
    exact live_flat

end

/-- The id is the handle of a PersistentVolume of this driver. -/
def Bound (driverName : String) (pvs : List Reconcile.PersistentVolume) (id : String) : Prop :=
  ∃ pv ∈ pvs, pv.csi = some (driverName, id)

theorem mem_volumeHandles {driverName : String} {pvs : List Reconcile.PersistentVolume} :
    ∃ handles, Reconcile.volumeHandles driverName (.ok pvs) = .ok handles ∧
      ∀ id, id ∈ handles ↔ Bound driverName pvs id := by
  refine ⟨_, rfl, fun id => ?_⟩
  rw [List.mem_filterMap, Bound]
  refine exists_congr fun pv => and_congr_right fun _ => ?_
  cases pv.csi with
  | none => simp
  | some source =>
    obtain ⟨driver, handle⟩ := source
    simp

theorem calm_runOnce (reg : Registry) (driverName : String) (pvs : List Reconcile.PersistentVolume)
    (w : World) : ∃ handles : List String, (∀ id, id ∈ handles ↔ Bound driverName pvs id) ∧
      ∃ orphans t, M.calm (Reconcile.runOnce reg driverName (.ok pvs)) w = (.ok orphans, t) ∧
        orphans.Perm (((reg.names.flatMap (foundOn reg w)).map (·.string)).filter (· ∉ handles)) := by
  obtain ⟨handles, read, bound⟩ := @mem_volumeHandles driverName pvs
  obtain ⟨t, scanned, -⟩ := reg.calm_scan (Reconcile.strays handles) reg.sortedNames w
  have strays : reg.visited (Reconcile.strays handles) w =
      fun name => ((foundOn reg w name).map (·.string)).filter (· ∉ handles) := by
    funext name
    unfold Registry.visited foundOn
    cases reg.backends.get? name with
    | none => rfl
    | some b => simp only [Reconcile.strays, found, List.map_filterMap]
  unfold Reconcile.runOnce
  rw [read]
  simp only [Prog.ofExcept_ok, Prog.ret_bind]
  rw [calm_bind_ok scanned]
  refine ⟨handles, bound, _, t, rfl, (List.perm_insertionSort _ _).trans ?_⟩
  rw [List.map_flatMap, List.filter_flatMap, strays]
  exact (List.perm_insertionSort _ _).flatMap_right _

end TruenasCsi.Estate
