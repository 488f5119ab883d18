import TruenasCsi.Status
import TruenasCsi.Support.Dict

/-! Whether one driver version may replace another, by a table of what each shipped version
declares. Reading and comparing versions is left to a library. -/

namespace TruenasCsi.Upgrade

open Text

/-- What the code uses of a library of semantic versions `V`. -/
structure Semver (V : Type) where
  newVersion : String → Option V
  compare : V → V → Ordering
  major : V → Nat
  minor : V → Nat
  patch : V → Nat
  prerelease : V → String
  string : V → String

namespace Semver

variable {V : Type} (sv : Semver V) (v o : V)

def equal : Bool := sv.compare v o == .eq

def lessThan : Bool := sv.compare v o == .lt

def greaterThan : Bool := sv.compare v o == .gt

def sameCore : Bool :=
  sv.major v == sv.major o && sv.minor v == sv.minor o && sv.patch v == sv.patch o

/-- What the results below need of the library. -/
structure Lawful (sv : Semver V) : Prop where
  /-- The empty text is no version. -/
  empty : sv.newVersion "" = none
  compare_self : ∀ v, sv.compare v v = .eq
  /-- Equal versions differ at most in their build metadata. -/
  sameCore_of_equal : ∀ v o, sv.equal v o = true → sv.sameCore v o = true

end Semver

/-- What one shipped version declares. -/
structure Path where
  minUpgradeFrom : String := ""
  minDowngradeTo : String := ""
deriving DecidableEq

/-- Entries are met in their order. -/
abbrev Table := Dict Path

namespace Table

variable {V : Type} (sv : Semver V) (t : Table)

/-- The entries whose keys are versions. -/
def shipped : List (V × Path) :=
  t.entries.filterMap fun e => (sv.newVersion e.1).map fun v => (v, e.2)

/-- The entry of a version; for a release candidate without one, the entry of its release. -/
def lookup (v : V) : Option Path :=
  match (t.shipped sv).find? fun e => sv.equal e.1 v with
  | some e => some e.2
  | none =>
    if sv.prerelease v = "" then none
    else ((t.shipped sv).filter fun e => sv.sameCore e.1 v).getLast?.map Prod.snd

private def unsupported (detail : String) : Except Err Unit :=
  .error (.sentinel .unsupportedPath ("unsupported upgrade path: " ++ detail))

/-- Whether the driver may move to another version. Neither a fresh install nor a text that is no
version is held back. -/
def check (old new : String) : Except Err Unit :=
  if old = "" ∨ old = new then .ok ()
  else
    match sv.newVersion old, sv.newVersion new with
    | some oldV, some newV =>
      if sv.greaterThan newV oldV then
        match t.lookup sv newV with
        | none => .ok ()
        | some p =>
          if p.minUpgradeFrom = "" then .ok ()
          else
            match sv.newVersion p.minUpgradeFrom with
            | none => unsupported ("version " ++ new ++ " declares an unparseable minUpgradeFrom " ++
                quote p.minUpgradeFrom ++ "; this is an operator bug")
            | some floor =>
              if sv.lessThan oldV floor then
                unsupported ("upgrade from v" ++ sv.string oldV ++ " to v" ++ sv.string newV ++
                  " is not supported; upgrade to v" ++ sv.string floor ++ " first")
              else .ok ()
      else
        match t.lookup sv oldV with
        | none => .ok ()
        | some p =>
          if p.minDowngradeTo = "" then .ok ()
          else
            match sv.newVersion p.minDowngradeTo with
            | none => unsupported ("version " ++ old ++ " declares an unparseable minDowngradeTo " ++
                quote p.minDowngradeTo ++ "; this is an operator bug")
            | some floor =>
              if sv.lessThan newV floor then
                unsupported ("downgrade from v" ++ sv.string oldV ++ " to v" ++ sv.string newV ++
                  " is not supported; v" ++ sv.string floor ++ " is the oldest version v" ++
                  sv.string oldV ++ " can be rolled back to")
              else .ok ()
    | _, _ => .ok ()

/-- Keys and floors are versions, and no two keys are the same version. -/
structure WellFormed (sv : Semver V) (t : Table) : Prop where
  keys : ∀ key p, t.get? key = some p → (sv.newVersion key).isSome
  floors : ∀ key p, t.get? key = some p →
    (p.minUpgradeFrom = "" ∨ (sv.newVersion p.minUpgradeFrom).isSome) ∧
      (p.minDowngradeTo = "" ∨ (sv.newVersion p.minDowngradeTo).isSome)
  distinct : ∀ v, ∀ e ∈ t.shipped sv, ∀ e' ∈ t.shipped sv, sv.equal e.1 v → sv.equal e'.1 v → e = e'

/-- The entry a version is judged by: its own, or the only one of its release. -/
def Governs (v : V) (e : V × Path) : Prop :=
  e ∈ t.shipped sv ∧ (sv.equal e.1 v ∨
    sv.prerelease v ≠ "" ∧ ((t.shipped sv).filter fun e => sv.sameCore e.1 v) = [e])

variable {sv t}

theorem lookup_governs (lawful : sv.Lawful) (formed : t.WellFormed sv) {v : V} {e : V × Path}
    (governs : t.Governs sv v e) : t.lookup sv v = some e.2 := by
  obtain ⟨there, own | ⟨candidate, only⟩⟩ := governs
  · have found : ((t.shipped sv).find? fun e => sv.equal e.1 v).isSome :=
      List.find?_isSome.mpr ⟨e, there, own⟩
    obtain ⟨e', first⟩ := Option.isSome_iff_exists.mp found
    have same := formed.distinct v e' (List.mem_of_find?_eq_some first) e there
      (List.find?_some (p := fun e : V × Path => sv.equal e.1 v) first) own
    rw [lookup, first, same]
  · unfold lookup
    cases first : (t.shipped sv).find? fun e => sv.equal e.1 v with
    | none => simp [candidate, only]
    | some e' =>
      -- An entry of the candidate's own is of its release too, and there is only one.
      have kin : e' ∈ (t.shipped sv).filter fun e => sv.sameCore e.1 v :=
        List.mem_filter.mpr ⟨List.mem_of_find?_eq_some first,
          lawful.sameCore_of_equal _ _ (List.find?_some (p := fun e : V × Path => sv.equal e.1 v) first)⟩
      rw [only, List.mem_singleton] at kin
      rw [kin]

private theorem floor_kept (lawful : sv.Lawful) {floor : String} {f v : V}
    {why : V → Except Err Unit} {broken : Except Err Unit} (declared : sv.newVersion floor = some f)
    (refuses : ∀ f, why f ≠ .ok ()) (allowed : (if floor = "" then .ok () else
      match sv.newVersion floor with
      | none => broken
      | some f => if sv.lessThan v f then why f else .ok ()) = Except.ok ()) :
    sv.lessThan v f = false := by
  have given : floor ≠ "" := by
    rintro rfl
    cases lawful.empty.symm.trans declared
  rw [if_neg given, declared] at allowed
  by_contra below
  rw [Bool.not_eq_false] at below
  simp only [below, if_true] at allowed
  exact refuses f allowed

/-- Under a lawful library and for a well-formed table, an allowed upgrade from `a` to `b` keeps the
upgrade floor of the entry `b` is judged by, and an allowed downgrade the downgrade floor of the
entry `a` is judged by. -/
theorem check_keeps_floor (lawful : sv.Lawful) (formed : t.WellFormed sv) {old new : String} {a b : V}
    (parsedOld : sv.newVersion old = some a) (parsedNew : sv.newVersion new = some b)
    (allowed : t.check sv old new = .ok ()) :
    (sv.greaterThan b a → ∀ e f, t.Governs sv b e → sv.newVersion e.2.minUpgradeFrom = some f →
      sv.lessThan a f = false) ∧
    (sv.lessThan b a → ∀ e f, t.Governs sv a e → sv.newVersion e.2.minDowngradeTo = some f →
      sv.lessThan b f = false) := by
  have given : old ≠ "" := by
    rintro rfl
    cases lawful.empty.symm.trans parsedOld
  have moved : old = new → sv.compare b a = .eq := by
    rintro rfl
    obtain rfl := Option.some.inj (parsedOld.symm.trans parsedNew)
    exact lawful.compare_self a
  constructor
  · intro up e f governs declared
    have step : ¬(old = "" ∨ old = new) := by
      rintro (empty | same)
      · exact given empty
      · simp [Semver.greaterThan, moved same] at up
    simp only [check, if_neg step, parsedOld, parsedNew, up, if_true,
      lookup_governs lawful formed governs] at allowed
    exact floor_kept lawful declared (fun _ => by simp [unsupported]) allowed
  · intro down e f governs declared
    -- A downgrade is judged by the entry of the version that is left.
    have below : sv.compare b a = .lt := by simpa [Semver.lessThan] using down
    have step : ¬(old = "" ∨ old = new) := by
      rintro (empty | same)
      · exact given empty
      · simp [moved same] at below
    have level : sv.greaterThan b a = false := by simp [Semver.greaterThan, below]
    simp only [check, if_neg step, parsedOld, parsedNew, level,
      lookup_governs lawful formed governs] at allowed
    exact floor_kept lawful declared (fun _ => by simp [unsupported]) allowed

end Table

/-- A library that reads releases `x.y.z` and candidates `x.y.z-n`, for the samples. -/
def numbered : Semver (Nat × Nat × Nat × Option Nat) where
  newVersion s :=
    let (core, candidate) := match cutFirst '-' s with
      | none => (s, some none)
      | some (core, n) => (core, (natOfDigits 10 n.toList).map some)
    match (split '.' core).map fun part => natOfDigits 10 part.toList, candidate with
    | [some x, some y, some z], some n => some (x, y, z, n)
    | _, _ => none
  compare v o := (compare v.1 o.1).then <| (compare v.2.1 o.2.1).then <|
    (compare v.2.2.1 o.2.2.1).then <|
      match v.2.2.2, o.2.2.2 with
      | none, none => .eq
      | none, some _ => .gt
      | some _, none => .lt
      | some m, some n => compare m n
  major v := v.1
  minor v := v.2.1
  patch v := v.2.2.1
  prerelease v := (v.2.2.2.map toString).getD ""
  string v := toString v.1 ++ "." ++ toString v.2.1 ++ "." ++ toString v.2.2.1 ++
    ((v.2.2.2.map fun n => "-" ++ toString n).getD "")

theorem numbered_lawful : numbered.Lawful where
  empty := by decide
  compare_self := by
    rintro ⟨x, y, z, _ | n⟩ <;> simp [numbered, Std.ReflCmp.compare_self]
  sameCore_of_equal := by
    intro v o same
    simp only [Semver.equal, numbered, beq_iff_eq, Ordering.then_eq_eq, Nat.compare_eq_eq] at same
    simp [Semver.sameCore, numbered, same.1, same.2.1, same.2.2.1]

namespace Table

def sample : Table := Dict.ofList [("0.5.0", ⟨"0.3.0", "0.3.0"⟩), ("0.6.0", {})]

theorem shipped_sample : sample.shipped numbered = [((0, 6, 0, none), {}),
    ((0, 5, 0, none), ⟨"0.3.0", "0.3.0"⟩)] := by
  decide

theorem wellFormed_sample : sample.WellFormed numbered := by
  have entries (key : String) (p : Path) (stored : sample.get? key = some p) :
      key = "0.6.0" ∧ p = {} ∨ key = "0.5.0" ∧ p = ⟨"0.3.0", "0.3.0"⟩ := by
    simp only [sample, Dict.ofList, List.foldl_cons, List.foldl_nil, Dict.get?_set] at stored
    split_ifs at stored with sixth fifth
    · exact .inl ⟨sixth, (Option.some.inj stored).symm⟩
    · exact .inr ⟨fifth, (Option.some.inj stored).symm⟩
    · cases stored
  refine ⟨fun key p stored => ?_, fun key p stored => ?_, fun v e there e' there' same same' => ?_⟩
  · obtain ⟨rfl, -⟩ | ⟨rfl, -⟩ := entries key p stored <;> decide
  · obtain ⟨-, rfl⟩ | ⟨-, rfl⟩ := entries key p stored <;> decide
  · have core := numbered_lawful.sameCore_of_equal _ _ same
    have core' := numbered_lawful.sameCore_of_equal _ _ same'
    rw [shipped_sample] at there there'
    simp only [List.mem_cons, List.not_mem_nil, or_false] at there there'
    simp only [Semver.sameCore, numbered, Bool.and_eq_true, beq_iff_eq] at core core'
    obtain rfl | rfl := there <;> obtain rfl | rfl := there' <;> first | rfl | (simp at core core'; omega)

/-- A candidate of the release with the conversion is judged by the release's floor, and so is the
way back. -/
theorem check_keeps_floor_sample :
    (sample.check numbered "0.4.0" "0.5.0-1" = .ok () ∧
      numbered.lessThan (0, 4, 0, none) (0, 3, 0, none) = false) ∧
    sample.check numbered "0.5.0" "0.4.0" = .ok () ∧
      numbered.lessThan (0, 4, 0, none) (0, 3, 0, none) = false := by
  have up : sample.check numbered "0.4.0" "0.5.0-1" = .ok () := by decide
  have down : sample.check numbered "0.5.0" "0.4.0" = .ok () := by decide
  refine ⟨⟨up, ?_⟩, down, ?_⟩
  · exact (check_keeps_floor (b := (0, 5, 0, some 1)) numbered_lawful wellFormed_sample (by decide)
      (by decide) up).1 (by decide) ((0, 5, 0, none), ⟨"0.3.0", "0.3.0"⟩) _
        (by rw [Governs, shipped_sample]; decide) (by decide)
  · exact (check_keeps_floor (a := (0, 5, 0, none)) numbered_lawful wellFormed_sample (by decide)
      (by decide) down).2 (by decide) ((0, 5, 0, none), ⟨"0.3.0", "0.3.0"⟩) _
        (by rw [Governs, shipped_sample]; decide) (by decide)

/-- An upgrade over a release with a conversion jumps its floor. -/
theorem floor_jumped : ¬∀ t : Table, t.WellFormed numbered → ∀ old new a b,
    numbered.newVersion old = some a → numbered.newVersion new = some b →
    t.check numbered old new = .ok () → numbered.greaterThan b a →
      ∀ e ∈ t.shipped numbered, numbered.greaterThan e.1 a → numbered.greaterThan e.1 b = false →
        ∀ f, numbered.newVersion e.2.minUpgradeFrom = some f → numbered.lessThan a f = false := by
  intro claim
  have kept := claim sample wellFormed_sample "0.1.0" "0.6.0" (0, 1, 0, none) (0, 6, 0, none)
    (by decide) (by decide) (by decide) (by decide) ((0, 5, 0, none), ⟨"0.3.0", "0.3.0"⟩)
    (by rw [shipped_sample]; simp) (by decide) (by decide) (0, 3, 0, none) (by decide)
  exact absurd kept (by decide)

end Table

end TruenasCsi.Upgrade
