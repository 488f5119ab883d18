import TruenasCsi.Csi.Capacity
import TruenasCsi.Csi.Requests

/-! What a backend advertises and what a new volume may take. -/

namespace TruenasCsi.Csi

open Backend Truenas

structure CapacityResponse where
  availableCapacity : Int
  maximumVolumeSize : Int
deriving DecidableEq

namespace Controller

variable (c : Controller)

def getCapacity (params : Dict String) : M CapacityResponse := do
  let name ← Prog.ofExcept (backendFor c.reg params)
  match c.reg.backends.get? name with
  | none => throw (.status .invalidArgument (Registry.unknownBackend name))
  | some b =>
    let cl ← withStatus (c.reg.client name)
    match ← withStatus (cl.datasetQuery b.pool) with
    | none => throw (.status .failedPrecondition ("pool " ++ Text.quote b.pool ++ " does not exist"))
    | some root =>
      let usable := usableCapacity root.available
        (poolReserve root.available root.used b.reservedBytes b.reservedPercent)
      return ⟨usable, usable⟩

variable {c} {name : String} {b : Config} {w : World}

theorem calm_pool (known : c.reg.backends.get? name = some b) :
    ∃ t, M.calm (withStatus (c.reg.client name)) w = (.ok ⟨name, b.host⟩, t) ∧
      M.calm (withStatus (Client.datasetQuery ⟨name, b.host⟩ b.pool)) t =
        (.ok ((w.appliance name).storage.dataset? b.pool), t) := by
  obtain ⟨t, dialled, same⟩ := Registry.calm_client (w := w) c.reg known
  refine ⟨t, calm_mapError_ok dialled, ?_⟩
  rw [← same]
  exact calm_mapError_ok (calm_datasetQuery _ _)

/-- A backend without a reserve holds nothing back. -/
theorem poolReserve_none (free used : Int) (none : reserves b = false) :
    poolReserve free used b.reservedBytes b.reservedPercent = 0 := by
  simp only [reserves, Bool.or_eq_false_iff, decide_eq_false_iff_not] at none
  simp only [poolReserve, none.2, false_and, if_false]
  omega

/-- What is advertised, computed from pool and reserve, -/
theorem calm_getCapacity {params : Dict String} {answer : CapacityResponse}
    (chosen : backendFor c.reg params = .ok name) (known : c.reg.backends.get? name = some b)
    (reported : (M.calm (c.getCapacity params) w).1 = .ok answer) :
    ∃ root, (w.appliance name).storage.dataset? b.pool = some root ∧
      answer.maximumVolumeSize = usableCapacity root.available
        (poolReserve root.available root.used b.reservedBytes b.reservedPercent) := by
  obtain ⟨t, dialled, asked⟩ := calm_pool (w := w) known
  simp only [getCapacity, chosen, Prog.ofExcept_ok, Prog.ret_bind, known] at reported
  rw [calm_bind_ok dialled, calm_bind_ok asked] at reported
  cases there : (w.appliance name).storage.dataset? b.pool with
  | none =>
    rw [there] at reported
    cases reported
  | some root =>
    rw [there] at reported
    cases reported
    exact ⟨root, rfl, rfl⟩

/-- and what the check for room computes. -/
theorem calm_requireRoom {root : Appliance.Dataset} {size : Int}
    (known : c.reg.backends.get? name = some b)
    (there : (w.appliance name).storage.dataset? b.pool = some root) :
    (M.calm (c.requireRoomOutsideReserve name size) w).1 = .ok () ↔
      (reserves b = true → size ≤ usableCapacity root.available
        (poolReserve root.available root.used b.reservedBytes b.reservedPercent)) := by
  obtain ⟨t, dialled, asked⟩ := calm_pool (w := w) known
  have looked : M.calm (withStatus (Prog.ofExcept (c.reg.backend name))) w = (.ok b, w) := by
    simp only [Registry.backend, known]
    rfl
  unfold requireRoomOutsideReserve
  rw [calm_bind_ok looked]
  cases kept : reserves b with
  | false =>
    simp only [Bool.not_false, if_true, Bool.false_eq_true, false_implies, iff_true]
    rfl
  | true =>
    simp only [Bool.not_true, Bool.false_eq_true, if_false, true_implies]
    rw [calm_bind_ok dialled, calm_bind_ok asked, there]
    dsimp only
    split_ifs with above
    · exact iff_of_false (by rintro ⟨⟩) (by omega)
    · exact iff_of_true rfl (by omega)

end Controller

/-- For a backend whose capacity is reported, all calls answered: the check for room refuses exactly the
sizes above the advertised maximum, if and only if the backend has a reserve or the size fits the pool. -/
theorem admission_agrees_iff (c : Controller) (params : Dict String) (name : String) (b : Config)
    (size : Int) (w : World) (answer : CapacityResponse)
    (chosen : backendFor c.reg params = .ok name) (known : c.reg.backends.get? name = some b)
    (reported : (M.calm (c.getCapacity params) w).1 = .ok answer) :
    ((M.calm (c.requireRoomOutsideReserve name size) w).1 ≠ .ok () ↔ answer.maximumVolumeSize < size) ↔
      Controller.reserves b = true ∨
        ∀ root, (w.appliance name).storage.dataset? b.pool = some root → size ≤ max 0 root.available := by
  obtain ⟨root, there, maximum⟩ := Controller.calm_getCapacity chosen known reported
  rw [Ne, Controller.calm_requireRoom known there, maximum, there]
  cases kept : Controller.reserves b with
  | true => simp
  | false =>
    rw [Controller.poolReserve_none _ _ kept, usableCapacity, Int.sub_zero]
    simp only [Bool.false_eq_true, false_implies, not_true, false_iff, false_or, Option.some.injEq,
      forall_eq', not_lt]

def reservingController (reserved : Int) : Controller where
  reg := {
    backends := Dict.ofList [("nas", { pool := "tank", parentDataset := "k8s", reservedBytes := reserved })]
    env := ⟨⟨2026, 1, 1, 0, 0, 0⟩, 0, "", fun _ => "", id⟩ }
  nodes := kubeNodeResolver fun _ => .ok none

def halfFullWorld : World where
  appliance _ := { storage := {
    datasets := Dict.ofList [("tank", { type := .filesystem, available := 4294967296 })] } }

theorem admission_agrees_reserved :
    ((M.calm ((reservingController 1073741824).requireRoomOutsideReserve "nas" 4294967296)
      halfFullWorld).1 ≠ .ok () ↔ (3221225472 : Int) < 4294967296) :=
  (admission_agrees_iff (reservingController 1073741824) ∅ "nas" _ 4294967296 halfFullWorld
    ⟨3221225472, 3221225472⟩ (by decide) rfl (by decide)).mpr (.inl (by decide))

/-- 8 GiB are let through, with 4 advertised. -/
theorem advertised_maximum_passed :
    (M.calm ((reservingController 0).getCapacity ∅) halfFullWorld).1 = .ok ⟨4294967296, 4294967296⟩ ∧
    (M.calm ((reservingController 0).requireRoomOutsideReserve "nas" 8589934592) halfFullWorld).1 =
      .ok () := by
  constructor
  · decide
  · decide

end TruenasCsi.Csi
