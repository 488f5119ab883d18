import TruenasCsi.Backend.Registry
import TruenasCsi.Support.Paths

/-! Reading the datasets below the parent back into volume ids. -/

namespace TruenasCsi

open Appliance (Dataset)
open Text

namespace Volume

/-- The id of the volume at a relative path. -/
def idFromLeaf (backend protocol pool parent leaf : String) : Except Err ID :=
  match validComponents (split '/' leaf) with
  | .error e => .error (.wrapBoth .malformedID
      ("malformed volume id: leaf " ++ quote leaf ++ ": " ++ e.text) e)
  | .ok () =>
    match split '/' leaf with
    | [name] => .ok ⟨backend, protocol, pool, parent, "", name⟩
    | [ns, name] => .ok ⟨backend, protocol, pool, parent, ns, name⟩
    | parts => .error (.sentinel .malformedID ("malformed volume id: leaf " ++ quote leaf ++
        " is " ++ toString parts.length ++ " levels below " ++ pool ++ "/" ++ parent))

variable {backend protocol parent : String}

theorem idFromLeaf_ok {pool leaf : String} {id : ID}
    (read : idFromLeaf backend protocol pool parent leaf = .ok id) :
    (∀ p ∈ split '/' leaf, Component p) ∧
      ((split '/' leaf = [id.name] ∧ id = ⟨backend, protocol, pool, parent, "", id.name⟩) ∨
        (split '/' leaf = [id.ns, id.name] ∧
          id = ⟨backend, protocol, pool, parent, id.ns, id.name⟩)) := by
  unfold idFromLeaf at read
  cases valid : validComponents (split '/' leaf) with
  | error e => simp [valid] at read
  | ok u =>
    simp only [valid] at read
    refine ⟨validComponents_ok_iff.mp valid, ?_⟩
    split at read
    · cases read
      exact .inl ⟨‹_›, rfl⟩
    · cases read
      exact .inr ⟨‹_›, rfl⟩
    · cases read

theorem idFromLeaf_flat {pool name : String} (component : Component name) :
    idFromLeaf backend protocol pool parent name = .ok ⟨backend, protocol, pool, parent, "", name⟩ := by
  have valid : validComponents [name] = .ok () := validComponents_ok_iff.mpr (by simpa using component)
  simp only [idFromLeaf, split_of_notMem component.slashless, valid]

theorem idFromLeaf_nested {pool ns name : String} (outer : Component ns)
    (inner : Component name) : idFromLeaf backend protocol pool parent (ns ++ "/" ++ name) =
      .ok ⟨backend, protocol, pool, parent, ns, name⟩ := by
  have parts : split '/' (ns ++ "/" ++ name) = [ns, name] := by
    rw [slash_eq, split_append, split_of_notMem outer.slashless, split_of_notMem inner.slashless]
    rfl
  have valid : validComponents [ns, name] = .ok () :=
    validComponents_ok_iff.mpr (by simp [outer, inner])
  simp only [idFromLeaf, parts, valid]

def protocolOr (recorded fallback : String) : String := if recorded = "" then fallback else recorded

end Volume

namespace Truenas

def owned (ds : Dataset) (property value : String) : Bool :=
  match ds.userProperties property with
  | none => false
  | some p => p.value == value && p.source == "LOCAL"

end Truenas

namespace Backend

open Truenas (localProperty owned)

/-- What is scanned on a backend. -/
def Config.start (b : Config) : String := b.pool ++ "/" ++ b.parentDataset ++ "/"

/-- Holds volumes, or held one: never a volume itself. -/
def isContainer (d : Dataset) : Bool :=
  Volume.isNamespaceDataset (localProperty d Volume.namespaceProperty) ||
    Volume.isGraveyard (localProperty d Volume.graveyardProperty) ||
    Volume.isRetired (localProperty d Volume.deletedAtProperty)

/-- The id of a dataset that is marked as the driver's and is no container. -/
def volumeOn (name : String) (b : Config) (d : Dataset) : Option Volume.ID :=
  if owned d Volume.ownerProperty Volume.ownerValue = false ∨ isContainer d = true then none
  else
    let leaf := String.ofList (d.id.toList.drop b.start.toList.length)
    let fallback := if d.type = .volume then "iscsi" else "nfs"
    let proto := Volume.protocolOr (localProperty d Volume.protocolProperty) fallback
    (Volume.idFromLeaf name proto b.pool b.parentDataset leaf).toOption

namespace Registry

/-- Read the datasets of every reachable backend. -/
def scan {α : Type} (r : Registry) (visit : String → Config → List Dataset → List α) :
    List String → M (List α)
  | [] => return []
  | name :: rest =>
    match r.backends.get? name with
    | none => scan r visit rest
    | some b => do
      match ← (r.client name).attempt with
      | .error _ => scan r visit rest
      | .ok c =>
        let datasets ← c.datasetList b.start
        let others ← scan r visit rest
        return visit name b datasets ++ others

def visited {α : Type} (r : Registry) (visit : String → Config → List Dataset → List α)
    (w : World) (name : String) : List α :=
  match r.backends.get? name with
  | none => []
  | some b => visit name b (((w.appliance name).storage.datasets.keys.filter fun p =>
      startsWith p b.start).filterMap (w.appliance name).storage.dataset?)

theorem calm_scan {α : Type} (r : Registry)
    (visit : String → Config → List Dataset → List α) (names : List String) (w : World) :
    ∃ t, M.calm (r.scan visit names) w = (.ok (names.flatMap (r.visited visit w)), t) ∧
      t.appliance = w.appliance := by
  induction names generalizing w with
  | nil => exact ⟨w, rfl, rfl⟩
  | cons name rest ih =>
    rw [scan, List.flatMap_cons]
    cases known : r.backends.get? name with
    | none =>
      rw [show r.visited visit w name = [] by simp only [visited, known]]
      exact ih w
    | some b =>
      simp only
      obtain ⟨t, dialled, same⟩ := r.calm_client (w := w) known
      have attempted : M.calm (r.client name).attempt w = (.ok (.ok ⟨name, b.host⟩), t) := by
        rw [calm_attempt, dialled]
      have listed : M.calm (Truenas.Client.datasetList ⟨name, b.host⟩ b.start) t = (.ok _, t) :=
        calm_rows (calm_query rfl)
      obtain ⟨t', others, same'⟩ := ih t
      rw [calm_bind_ok attempted]
      simp only
      have there : r.visited visit t = r.visited visit w := by
        funext name'
        simp only [visited, same]
      rw [calm_bind_ok listed, calm_bind_ok others, there, show r.visited visit w name =
        visit name b (((t.appliance name).storage.datasets.keys.filter fun p =>
          startsWith p b.start).filterMap (t.appliance name).storage.dataset?) by
        simp only [visited, known, same]]
      exact ⟨t', rfl, same'.trans same⟩

def sortedNames (r : Registry) : List String := r.names.insertionSort (· ≤ ·)

end Registry

end Backend

end TruenasCsi
