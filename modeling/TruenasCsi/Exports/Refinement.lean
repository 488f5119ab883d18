import Mathlib.Order.CompletePartialOrder
import TruenasCsi.Exports.Create

/-!
# The export refines a set of nodes

Abstractly a shared filesystem is published to a set of nodes. `Represents` says that the share lets in
exactly the addresses of that set.

## Main result

`export_refines_published`, from one lemma for each call (`step_create`, `step_publish`, `step_unpublish`,
`step_elsewhere`) by induction over the run.
-/

namespace TruenasCsi.Exports

open Backend Fencing
open Volume (ID)
open Backend.Nfs (denyHost)
open Text

/-- The entry of an NFS share that nobody may mount. -/
def placeholder : Protocol → Set String
  | .nfs => {denyHost}
  | _ => ∅

section

variable {p : Protocol} {hosts removed : List String} {a : String}

theorem not_letsIn_placeholder (member : a ∈ placeholder p) : letsIn p a = false := by
  cases p with
  | nfs =>
    obtain rfl : a = denyHost := member
    decide
  | _ => cases member

/-- The placeholder and the addresses. -/
theorem mem_normalForm (shared : Shared p) :
    a ∈ normalForm p hosts ↔ a ∈ placeholder p ∪ addresses p hosts := by
  rcases shared with rfl | rfl
  · by_cases deny : a = denyHost
    · simp [normalForm, Nfs.withDenyHost, placeholder, deny]
    · simp [normalForm, Nfs.withDenyHost, placeholder, addresses, letsIn_nfs, deny]
  · simp [normalForm, Smb.normaliseHosts, placeholder, addresses, letsIn_smb]

theorem addresses_normalForm (shared : Shared p) :
    addresses p (normalForm p hosts) = addresses p hosts := by
  have law := normalises_shared shared
  ext a
  refine and_congr_left fun client => ?_
  constructor
  · intro member
    obtain ⟨e, present, rfl⟩ := List.mem_map.mp member
    rw [law.trimmed (letsIn_of_trimmed client) present]
    exact (law.mem (letsIn_of_trimmed client)).mp present
  · intro member
    obtain ⟨e, present, rfl⟩ := List.mem_map.mp member
    have kept : trimSpace e ∈ normalForm p hosts :=
      (law.mem client).mpr (List.mem_map.mpr ⟨e, present, rfl⟩)
    exact List.mem_map.mpr ⟨_, kept, trimSpace_trimSpace e⟩

theorem addresses_remaining (shared : Shared p)
    (clean : ∀ a ∈ hosts, letsIn p a = true → trimSpace a = a) :
    addresses p (remaining p hosts removed) = addresses p hosts \ addresses p removed := by
  rw [remaining, addresses_normalForm shared]
  ext a
  constructor
  · rintro ⟨member, client⟩
    obtain ⟨e, kept, rfl⟩ := List.mem_map.mp member
    obtain ⟨listed, spared⟩ := List.mem_filter.mp kept
    refine ⟨⟨List.mem_map.mpr ⟨e, listed, rfl⟩, client⟩, fun named => ?_⟩
    rw [clean e listed (letsIn_of_trimmed client)] at named
    exact of_decide_eq_true spared named.1
  · rintro ⟨⟨member, client⟩, spared⟩
    obtain ⟨e, listed, rfl⟩ := List.mem_map.mp member
    refine ⟨List.mem_map.mpr ⟨e, List.mem_filter.mpr ⟨listed, decide_eq_true fun named => ?_⟩, rfl⟩, client⟩
    rw [clean e listed (letsIn_of_trimmed client)] at spared client
    exact spared ⟨named, client⟩

end

/-- A share that lets everyone in. -/
def OpenToAll : Protocol → Export → Prop
  | .nfs, e => e.hosts = [] ∧ e.networks = []
  | .smb, e => e.hosts = [] ∧
      ((e.options.get? "hostsdeny").map Smb.hostsOfJson).getD [] = []
  | _, _ => False

/-- The share says who the volume is published to. -/
structure Exact (p : Protocol) (addrs : String → List String) (published : Set String) (e : Export) :
    Prop where
  hosts : {a | a ∈ e.hosts} = placeholder p ∪ ⋃ n ∈ published, addresses p (addrs n)
  networks : e.networks = []
  denied : p = .smb → e.options.get? "hostsdeny" = some (Smb.hostsJson [Smb.denyAll])

section

variable {p : Protocol} {addrs : String → List String} {published : Set String} {e : Export}

/-- A list that names exactly some nodes is not open to all. -/
theorem Exact.closed (shared : Shared p) (exactly : Exact p addrs published e) : ¬OpenToAll p e := by
  rcases shared with rfl | rfl
  · rintro ⟨empty, -⟩
    have listed : denyHost ∈ {a | a ∈ e.hosts} := by
      rw [exactly.hosts]
      exact .inl rfl
    rw [Set.mem_ofPred_eq, empty] at listed
    cases listed
  · rintro ⟨-, undenied⟩
    rw [exactly.denied rfl, Option.map_some, Option.getD_some] at undenied
    exact absurd undenied (by decide)

theorem Exact.clean (exactly : Exact p addrs published e) {a : String} (listed : a ∈ e.hosts)
    (client : letsIn p a = true) : trimSpace a = a := by
  have denoted : a ∈ placeholder p ∪ ⋃ n ∈ published, addresses p (addrs n) := by
    rw [← exactly.hosts]
    exact listed
  rcases denoted with special | granted
  · rw [not_letsIn_placeholder special] at client
    cases client
  · obtain ⟨n, -, trimmed, -⟩ := Set.mem_iUnion₂.mp granted
    obtain ⟨r, -, rfl⟩ := List.mem_map.mp trimmed
    exact trimSpace_trimSpace r

theorem Exact.granted (exactly : Exact p addrs published e) :
    addresses p e.hosts = ⋃ n ∈ published, addresses p (addrs n) := by
  ext a
  constructor
  · rintro ⟨member, client⟩
    obtain ⟨h, listed, rfl⟩ := List.mem_map.mp member
    have trimmed := exactly.clean listed (letsIn_of_trimmed client)
    rw [trimmed] at client ⊢
    have denoted : h ∈ placeholder p ∪ ⋃ n ∈ published, addresses p (addrs n) := by
      rw [← exactly.hosts]
      exact listed
    refine denoted.resolve_left fun special => ?_
    rw [not_letsIn_placeholder special] at client
    cases client
  · intro granted
    obtain ⟨n, -, -, client⟩ := Set.mem_iUnion₂.mp granted
    have listed : a ∈ {a | a ∈ e.hosts} := by
      rw [exactly.hosts]
      exact .inr granted
    exact ⟨List.mem_map.mpr ⟨a, listed, exactly.clean listed client⟩, client⟩

theorem exact_rewritten (shared : Shared p) (old : Option Export) {hosts : List String}
    (names : addresses p hosts = ⋃ n ∈ published, addresses p (addrs n)) :
    Exact p addrs published (rewritten p old hosts) where
  hosts := by
    rw [← names]
    ext a
    exact mem_normalForm shared
  networks := rfl
  denied := by
    rintro rfl
    simp [rewritten, Smb.accessOptions, Dict.get?_set_self]

theorem exact_created (shared : Shared p) : Exact p addrs ∅ (rewritten p none []) :=
  exact_rewritten shared none (by simp [addresses])

/-- A publish keeps the list exact, -/
theorem Exact.listed (shared : Shared p) (exactly : Exact p addrs published e) (n : String) :
    Exact p addrs (insert n published) (rewritten p (some e) (e.hosts ++ addrs n)) := by
  refine exact_rewritten shared _ ?_
  rw [addresses_append, exactly.granted, Set.biUnion_insert, Set.union_comm]

/-- and so does an unpublish, since no address is two nodes'. -/
theorem Exact.unlisted (shared : Shared p)
    (apart : Pairwise fun m n => Disjoint (addresses p (addrs m)) (addresses p (addrs n)))
    (exactly : Exact p addrs published e) (n : String) :
    Exact p addrs (published \ {n}) (rewritten p (some e) (remaining p e.hosts (addrs n))) := by
  refine exact_rewritten shared _ ?_
  rw [addresses_remaining shared fun a listed client => exactly.clean listed client, exactly.granted]
  ext a
  simp only [Set.mem_sdiff, Set.mem_iUnion₂]
  constructor
  · rintro ⟨⟨m, held, granted⟩, kept⟩
    refine ⟨m, ⟨held, ?_⟩, granted⟩
    rintro rfl
    exact kept granted
  · rintro ⟨m, ⟨held, other⟩, granted⟩
    exact ⟨⟨m, held, granted⟩, Set.disjoint_left.mp (apart fun same => other same) granted⟩

theorem Exact.options_kept (exactly : Exact p addrs published e) (smb : p = .smb) (hosts : List String)
    {key : String} (other : key ≠ "hostsallow") :
    (rewritten p (some e) hosts).options.get? key = e.options.get? key := by
  subst smb
  simp only [rewritten, if_true, Option.map_some, Option.getD_some, Smb.accessOptions]
  by_cases deny : key = "hostsdeny"
  · rw [deny, Dict.get?_set_self, exactly.denied rfl]
  · rw [Dict.get?_set_ne _ _ deny, Dict.get?_set_ne _ _ other]

end

variable (p : Protocol) (v : ID) (w : World)

/-- Neither dataset nor share of the volume is there. -/
def Fresh : Prop :=
  datasetOf v w = none ∧ exportAt p (w.appliance v.backend) (home v) = none

/-- Published to exactly the nodes in `published`. -/
def Represents (addrs : String → List String) (published : Set String) (w : World) : Prop :=
  published = ∅ ∧ Fresh p v w ∨ ∃ mp e, Standing p v mp (some e) w ∧ Exact p addrs published e

/-- A successful call, after idle changes. -/
inductive Step (h : Handle) (v : ID) (addrs : String → List String) :
    Set String → World → Set String → World → Prop
  | create {published : Set String} {w : World} (r : CreateRequest) (faults : List Fault)
      (names : r.id = v) (succeeded : (M.run (h.create r) faults w).1.isOk = true) :
      Step h v addrs published w published (M.run (h.create r) faults w).2
  | publish {published : Set String} {w : World} (node : NodeRef) (faults : List Fault)
      (known : node.addrs = addrs node.id) (allowed : grantedTo h.protocol v w node = node.addrs)
      (succeeded : (M.run (h.publish v node) faults w).1.isOk = true) :
      Step h v addrs published w (insert node.id published) (M.run (h.publish v node) faults w).2
  | unpublish {published : Set String} {w : World} (node : NodeRef) (faults : List Fault)
      (known : node.addrs = addrs node.id)
      (succeeded : (M.run (h.unpublish v node) faults w).1.isOk = true) :
      Step h v addrs published w (published \ {node.id}) (M.run (h.unpublish v node) faults w).2
  | elsewhere {published : Set String} {w t : World} (dataset : datasetOf v t = datasetOf v w)
      (share : ∀ mp, exportAt h.protocol (t.appliance v.backend) mp =
        exportAt h.protocol (w.appliance v.backend) mp) :
      Step h v addrs published w published t

/-- Calls on the volume that succeeded, and any others that leave it alone. -/
inductive Run (h : Handle) (v : ID) (addrs : String → List String) (start : World) :
    Set String → World → Prop
  | start {published : Set String} (begins : Represents h.protocol v addrs published start) :
      Run h v addrs start published start
  | step {published after : Set String} {w t : World} (before : Run h v addrs start published w)
      (step : Step h v addrs published w after t) : Run h v addrs start after t

/-- The share's other options are as before. -/
def KeepsOptions (t : World) : Prop :=
  ∀ mp e, mountpoint v w = some mp → exportAt p (w.appliance v.backend) mp = some e →
    mountpoint v t = some mp ∧ ∃ e', exportAt p (t.appliance v.backend) mp = some e' ∧
      (p = .smb → ∀ key ≠ "hostsallow", e'.options.get? key = e.options.get? key)

section

variable {h : Handle} {v : ID} {addrs : String → List String} {published after : Set String}
  {w t u : World}

theorem KeepsOptions.refl (p : Protocol) (v : ID) (w : World) : KeepsOptions p v w w :=
  fun _ e mounted shared => ⟨mounted, e, shared, fun _ _ _ => rfl⟩

theorem KeepsOptions.trans {p : Protocol} (first : KeepsOptions p v w t) (second : KeepsOptions p v t u) :
    KeepsOptions p v w u := by
  intro mp e mounted shared
  obtain ⟨mounted', e', shared', kept⟩ := first mp e mounted shared
  obtain ⟨mounted'', e'', shared'', kept'⟩ := second mp e' mounted' shared'
  exact ⟨mounted'', e'', shared'', fun smb key other => (kept' smb key other).trans (kept smb key other)⟩

theorem keepsOptions_standing {p : Protocol} {mp : String} {old e : Export}
    (before : Standing p v mp (some old) w) (now : Standing p v mp (some e) t)
    (kept : p = .smb → ∀ key ≠ "hostsallow", e.options.get? key = old.options.get? key) :
    KeepsOptions p v w t := by
  obtain ⟨mounted, shared⟩ := standing_iff.mp before
  obtain ⟨mounted', shared'⟩ := standing_iff.mp now
  intro mp' old' found found'
  obtain rfl : mp = mp' := Option.some.inj (mounted.symm.trans found)
  obtain rfl : old = old' := Option.some.inj (shared.symm.trans found')
  exact ⟨mounted', e, shared', kept⟩

section

variable (shared : Shared h.protocol) (here : h.server.client.name = v.backend)

include shared here

variable {node : NodeRef} {faults : List Fault}

theorem listed_of_publish (succeeded : (M.run (h.publish v node) faults w).1.isOk = true) :
    Listed h.protocol v w node (M.run (h.publish v node) faults w).2 := by
  have ended := (Prog.wp_iff_run (s := w)).mp (wp_publish_listed shared here node) faults
  refine ended.resolve_left ?_
  rintro ⟨⟨e, failed⟩, -⟩
  rw [failed] at succeeded
  cases succeeded

theorem unlisted_of_unpublish (succeeded : (M.run (h.unpublish v node) faults w).1.isOk = true) :
    Unlisted h.protocol v w node.addrs (M.run (h.unpublish v node) faults w).2 := by
  have ended := (Prog.wp_iff_run (s := w)).mp (wp_unpublish_unlisted shared here node) faults
  refine ended.resolve_left ?_
  rintro ⟨⟨e, failed⟩, -⟩
  rw [failed] at succeeded
  cases succeeded

theorem mounted_of_create {r : CreateRequest} (names : r.id = v)
    (succeeded : (M.run (h.create r) faults w).1.isOk = true) :
    ∃ mp, mountpoint v (M.run (h.create r) faults w).2 = some mp := by
  obtain ⟨_, -, stands⟩ := Prog.yields_run (yields_create shared here names) succeeded
  exact ⟨_, (standing_iff.mp stands).1⟩

/-- A creation publishes to nobody, -/
theorem step_create (represents : Represents h.protocol v addrs published w) {r : CreateRequest}
    (names : r.id = v) (succeeded : (M.run (h.create r) faults w).1.isOk = true) :
    Represents h.protocol v addrs published (M.run (h.create r) faults w).2 ∧
      KeepsOptions h.protocol v w (M.run (h.create r) faults w).2 := by
  obtain ⟨_, -, stands⟩ := Prog.yields_run (yields_create shared here names) succeeded
  rcases represents with ⟨rfl, absent, unshared⟩ | ⟨mp, e, before, exactly⟩
  · rw [site_absent absent, unshared] at stands
    refine ⟨.inr ⟨home v, _, stands, exact_created shared⟩, ?_⟩
    intro mp e mounted
    simp [mountpoint, absent] at mounted
  · obtain ⟨mounted, found⟩ := standing_iff.mp before
    rw [site_mounted mounted, found] at stands
    exact ⟨.inr ⟨mp, e, stands, exactly⟩, keepsOptions_standing before stands fun _ _ _ => rfl⟩

/-- a publish to one node more, -/
theorem step_publish (represents : Represents h.protocol v addrs published w)
    (known : node.addrs = addrs node.id) (allowed : grantedTo h.protocol v w node = node.addrs)
    (succeeded : (M.run (h.publish v node) faults w).1.isOk = true) :
    Represents h.protocol v addrs (insert node.id published) (M.run (h.publish v node) faults w).2 ∧
      KeepsOptions h.protocol v w (M.run (h.publish v node) faults w).2 := by
  obtain ⟨mp, mounted, rewrote⟩ := listed_of_publish shared here succeeded
  rcases represents with ⟨-, absent, -⟩ | ⟨mp', e, before, exactly⟩
  · simp [mountpoint, absent] at mounted
  · obtain ⟨mounted', found⟩ := standing_iff.mp before
    obtain rfl : mp = mp' := Option.some.inj (mounted.symm.trans mounted')
    have stands := before.rewrote rewrote
    have entries : entriesAt h.protocol (w.appliance v.backend) mp = e.hosts := by
      rw [entriesAt_eq, found]
      rfl
    rw [entries, allowed, known] at stands
    exact ⟨.inr ⟨mp, _, stands, exactly.listed shared node.id⟩,
      keepsOptions_standing before stands fun smb key other => exactly.options_kept smb _ other⟩

/-- an unpublish to one less, -/
theorem step_unpublish
    (apart : Pairwise fun m n => Disjoint (addresses h.protocol (addrs m)) (addresses h.protocol (addrs n)))
    (represents : Represents h.protocol v addrs published w) (known : node.addrs = addrs node.id)
    (succeeded : (M.run (h.unpublish v node) faults w).1.isOk = true) :
    Represents h.protocol v addrs (published \ {node.id}) (M.run (h.unpublish v node) faults w).2 ∧
      KeepsOptions h.protocol v w (M.run (h.unpublish v node) faults w).2 := by
  have unlisted := unlisted_of_unpublish shared here succeeded
  rcases represents with ⟨rfl, absent, unshared⟩ | ⟨mp, e, before, exactly⟩
  · rcases unlisted with ⟨same, -⟩ | ⟨mp, mounted, -⟩
    · rw [same]
      exact ⟨.inl ⟨Set.empty_sdiff _, absent, unshared⟩, KeepsOptions.refl _ _ _⟩
    · simp [mountpoint, absent] at mounted
  · obtain ⟨mounted, found⟩ := standing_iff.mp before
    rcases unlisted with ⟨-, unshared⟩ | ⟨mp', mounted', rewrote⟩
    · rw [unshared mp mounted] at found
      cases found
    · obtain rfl : mp = mp' := Option.some.inj (mounted.symm.trans mounted')
      have stands := before.rewrote rewrote
      have entries : entriesAt h.protocol (w.appliance v.backend) mp = e.hosts := by
        rw [entriesAt_eq, found]
        rfl
      rw [entries, known] at stands
      exact ⟨.inr ⟨mp, _, stands, exactly.unlisted shared apart node.id⟩,
        keepsOptions_standing before stands fun smb key other => exactly.options_kept smb _ other⟩

omit shared here in
/-- and what leaves dataset and share alone changes nothing. -/
theorem step_elsewhere (represents : Represents h.protocol v addrs published w)
    (dataset : datasetOf v t = datasetOf v w) (share : ∀ mp, exportAt h.protocol (t.appliance v.backend) mp =
      exportAt h.protocol (w.appliance v.backend) mp) :
    Represents h.protocol v addrs published t ∧ KeepsOptions h.protocol v w t := by
  have mounted : mountpoint v t = mountpoint v w := by rw [mountpoint, dataset]; rfl
  constructor
  · rcases represents with ⟨nobody, absent, unshared⟩ | ⟨mp, e, before, exactly⟩
    · exact .inl ⟨nobody, dataset.trans absent, (share _).trans unshared⟩
    · obtain ⟨located, found⟩ := standing_iff.mp before
      exact .inr ⟨mp, e, standing_iff.mpr ⟨mounted.trans located, (share _).trans found⟩, exactly⟩
  · intro mp e located found
    exact ⟨mounted.trans located, e, (share _).trans found, fun _ _ _ => rfl⟩

variable
  (apart : Pairwise fun m n => Disjoint (addresses h.protocol (addrs m)) (addresses h.protocol (addrs n)))

include apart

/-- One successful call keeps the share in step. -/
theorem step_represents (represents : Represents h.protocol v addrs published w)
    (step : Step h v addrs published w after t) :
    Represents h.protocol v addrs after t ∧ KeepsOptions h.protocol v w t := by
  cases step with
  | create r faults names succeeded => exact step_create shared here represents names succeeded
  | publish node faults known allowed succeeded =>
    exact step_publish shared here represents known allowed succeeded
  | unpublish node faults known succeeded =>
    exact step_unpublish shared here apart represents known succeeded
  | elsewhere dataset share => exact step_elsewhere represents dataset share

/-- The world represents the abstract state along every run. -/
theorem run_represents {start : World} (run : Run h v addrs start published w) :
    Represents h.protocol v addrs published w ∧ KeepsOptions h.protocol v start w := by
  induction run with
  | start begins => exact ⟨begins, KeepsOptions.refl _ _ _⟩
  | step before step ih =>
    obtain ⟨represents, kept⟩ := step_represents shared here apart ih.1 step
    exact ⟨represents, ih.2.trans kept⟩

end

end

/-- For a share served by `h`, nodes with disjoint addresses and any run of successful calls: while there
is no dataset nobody is published; where there is one, its share lets in exactly the addresses of the
published nodes and the placeholder, has no networks and is not open to all; a create that succeeds makes
sure of the dataset; and the share's other options keep the values they had at the start. -/
theorem export_refines_published {h : Handle} {v : Volume.ID} {addrs : String → List String}
    {start w : World} {published : Set String} (shared : Shared h.protocol)
    (here : h.server.client.name = v.backend)
    (apart : Pairwise fun m n =>
      Disjoint (addresses h.protocol (addrs m)) (addresses h.protocol (addrs n)))
    (run : Run h v addrs start published w) :
    (mountpoint v w = none → published = ∅) ∧
    (∀ mp, mountpoint v w = some mp → ∃ e, exportAt h.protocol (w.appliance v.backend) mp = some e ∧
      {a | a ∈ e.hosts} = placeholder h.protocol ∪ ⋃ n ∈ published, addresses h.protocol (addrs n) ∧
      e.networks = [] ∧ ¬OpenToAll h.protocol e) ∧
    (∀ r faults, r.id = v → (M.run (h.create r) faults w).1.isOk = true →
      ∃ mp, mountpoint v (M.run (h.create r) faults w).2 = some mp) ∧
    KeepsOptions h.protocol v start w := by
  obtain ⟨represents, kept⟩ := run_represents shared here apart run
  refine ⟨fun gone => ?_, fun mp mounted => ?_,
    fun r faults names succeeded => mounted_of_create shared here names succeeded, kept⟩
  · rcases represents with ⟨nobody, -⟩ | ⟨mp, e, stands, -⟩
    · exact nobody
    · rw [(standing_iff.mp stands).1] at gone
      cases gone
  · rcases represents with ⟨-, absent, -⟩ | ⟨mp', e, stands, lets⟩
    · simp [mountpoint, absent] at mounted
    · obtain ⟨mounted', found⟩ := standing_iff.mp stands
      obtain rfl : mp = mp' := Option.some.inj (mounted.symm.trans mounted')
      exact ⟨e, found, lets.hosts, lets.networks, lets.closed shared⟩

/-! A small cluster: one appliance and two nodes with an address each. -/

variable (p : Protocol) (node : String)

def sampleHandle : Handle where
  protocol := p
  server := {
    client := ⟨"nas", "10.0.0.9"⟩
    pool := "tank"
    parent := "k8s"
    retire := ⟨"tank", "k8s", ".trash", 0⟩
    env := ⟨⟨2026, 1, 1, 0, 0, 0⟩, 0, "secret", fun _ => "0", id⟩ }

def sampleVolume : ID := ⟨"nas", p.text, "tank", "k8s", "", "pvc-1"⟩

def sampleDatasets : Dict Appliance.DatasetState :=
  .ofList [("tank", { type := .filesystem }), ("tank/k8s", { type := .filesystem })]

def sampleWorld : World where
  appliance _ := { storage := { datasets := sampleDatasets } }

def sampleAddrs : List String :=
  if node = "worker-1" then ["10.0.0.1"] else if node = "worker-2" then ["10.0.0.2"] else []

def sampleNode : NodeRef := ⟨node, sampleAddrs node, "", ""⟩

theorem sampleAddrs_apart : Pairwise fun m n =>
    Disjoint (addresses p (sampleAddrs m)) (addresses p (sampleAddrs n)) := by
  have first : trimSpace "10.0.0.1" = "10.0.0.1" := by decide
  have second : trimSpace "10.0.0.2" = "10.0.0.2" := by decide
  intro m n different
  refine Set.disjoint_left.mpr ?_
  rintro a ⟨left, -⟩ ⟨right, -⟩
  unfold sampleAddrs at left right
  split_ifs at left right <;> simp_all

def sampleCreated : World :=
  (M.run ((sampleHandle p).create ⟨sampleVolume p, 1073741824, ∅, ""⟩) [] sampleWorld).2

def samplePublished : World :=
  (M.run ((sampleHandle p).publish (sampleVolume p) (sampleNode "worker-1")) [] (sampleCreated p)).2

def sampleBoth : World :=
  (M.run ((sampleHandle p).publish (sampleVolume p) (sampleNode "worker-2")) [] (samplePublished p)).2

def sampleLast : World :=
  (M.run ((sampleHandle p).unpublish (sampleVolume p) (sampleNode "worker-1")) [] (sampleBoth p)).2

theorem sample_created (shared : Shared p) :
    Run (sampleHandle p) (sampleVolume p) sampleAddrs sampleWorld ∅ (sampleCreated p) := by
  have fresh : Fresh p (sampleVolume p) sampleWorld := by
    rcases shared with rfl | rfl
    · exact ⟨Option.isNone_iff_eq_none.mp (by decide), rfl⟩
    · exact ⟨Option.isNone_iff_eq_none.mp (by decide), rfl⟩
  exact .step (.start (.inl ⟨rfl, fresh⟩))
    (.create ⟨sampleVolume p, 1073741824, ∅, ""⟩ [] rfl (by rcases shared with rfl | rfl <;> decide))

theorem sample_run (shared : Shared p) {start : World}
    (created : Run (sampleHandle p) (sampleVolume p) sampleAddrs start ∅ (sampleCreated p)) :
    Run (sampleHandle p) (sampleVolume p) sampleAddrs start
      ((insert "worker-2" (insert "worker-1" ∅)) \ {"worker-1"}) (sampleLast p) := by
  have publish : Step (sampleHandle p) (sampleVolume p) sampleAddrs ∅ (sampleCreated p)
      (insert "worker-1" ∅) (samplePublished p) :=
    .publish (sampleNode "worker-1") [] rfl (by rcases shared with rfl | rfl <;> decide)
      (by rcases shared with rfl | rfl <;> decide)
  have again : Step (sampleHandle p) (sampleVolume p) sampleAddrs (insert "worker-1" ∅) (samplePublished p)
      (insert "worker-2" (insert "worker-1" ∅)) (sampleBoth p) :=
    .publish (sampleNode "worker-2") [] rfl (by rcases shared with rfl | rfl <;> decide)
      (by rcases shared with rfl | rfl <;> decide)
  have unpublish : Step (sampleHandle p) (sampleVolume p) sampleAddrs (insert "worker-2" (insert "worker-1" ∅))
      (sampleBoth p) ((insert "worker-2" (insert "worker-1" ∅)) \ {"worker-1"}) (sampleLast p) :=
    .unpublish (sampleNode "worker-1") [] rfl (by rcases shared with rfl | rfl <;> decide)
  exact .step (.step (.step created publish) again) unpublish

/-- In the end the second node alone is let in, and an SMB share has the options it was created with. -/
theorem export_refines_two_nodes :
    (∃ e, exportAt .nfs ((sampleLast .nfs).appliance "nas") "/mnt/tank/k8s/pvc-1" = some e ∧
      {a | a ∈ e.hosts} = placeholder .nfs ∪
        ⋃ n ∈ (insert "worker-2" (insert "worker-1" ∅) \ {"worker-1"} : Set String),
          addresses .nfs (sampleAddrs n) ∧
      e.networks = [] ∧ ¬OpenToAll .nfs e) ∧
    ∃ e e', exportAt .smb ((sampleCreated .smb).appliance "nas") "/mnt/tank/k8s/pvc-1" = some e ∧
      exportAt .smb ((sampleLast .smb).appliance "nas") "/mnt/tank/k8s/pvc-1" = some e' ∧
      ∀ key ≠ "hostsallow", e'.options.get? key = e.options.get? key := by
  have nfs := export_refines_published (.inl rfl) rfl (sampleAddrs_apart .nfs)
    (sample_run .nfs (.inl rfl) (sample_created .nfs (.inl rfl)))
  have created := sample_created .smb (.inr rfl)
  have mounted : mountpoint (sampleVolume .smb) (sampleCreated .smb) = some "/mnt/tank/k8s/pvc-1" := by
    decide
  obtain ⟨e, found, -⟩ := (export_refines_published (.inr rfl) rfl (sampleAddrs_apart .smb)
    created).2.1 _ mounted
  have begins := (run_represents (.inr rfl) rfl (sampleAddrs_apart .smb) created).1
  obtain ⟨-, e', found', kept⟩ := (export_refines_published (.inr rfl) rfl (sampleAddrs_apart .smb)
    (sample_run .smb (.inr rfl) (.start begins))).2.2.2 _ e mounted found
  exact ⟨nfs.2.1 _ (by decide), e, e', found, found', kept rfl⟩

end TruenasCsi.Exports
