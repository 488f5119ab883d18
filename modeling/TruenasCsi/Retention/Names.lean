import TruenasCsi.Retention

/-! An entry is named after its deletion and its volume. -/

namespace TruenasCsi.Retention

open Truenas Volume Text Prog

def deletedAtFromEntryName (id : String) : Option (Civil × Nat) :=
  let name := (cutLast '/' id).elim id Prod.snd
  (cutFirst '-' name).bind fun parts => Civil.parseCompact parts.1

def zfsNameChar (c : Char) : Bool := entryChar c || c == ':'

def Plain (s : String) : Prop := ∀ c ∈ s.toList, entryChar c = true

theorem Plain.append {a b : String} (first : Plain a) (second : Plain b) : Plain (a ++ b) := by
  intro c member
  rw [String.toList_append, List.mem_append] at member
  exact member.elim (first c) (second c)

theorem plain_dash : Plain "-" := by
  simp [Plain, entryChar]

theorem plain_sanitiseComponent (s : String) : Plain (sanitiseComponent s) := by
  unfold sanitiseComponent
  dsimp only
  split_ifs with special
  · simp [Plain, entryChar]
  · intro c member
    simp only [Label.trim, Label.sanitize, String.toList_ofList] at member
    have kept := (List.dropWhile_sublist _).subset ((List.rdropWhile_prefix _ _).subset member)
    obtain ⟨d, -, rfl⟩ := List.mem_map.mp kept
    split_ifs with fine
    · exact fine
    · decide

theorem plain_compact (t : Civil) : Plain t.compact := by
  intro c member
  simp [entryChar, t.isAlphanum_compact _ member]

theorem dash_notMem_compact (t : Civil) : '-' ∉ t.compact.toList := by
  intro member
  exact absurd (t.isAlphanum_compact _ member) (by decide)

/-- The date, a dash and more. -/
structure Dated (t : Civil) (name : String) : Prop where
  plain : Plain name
  dated : ∃ rest, name = t.compact ++ "-" ++ rest

variable {t : Civil} {name more : String}

theorem Dated.suffixed (entry : Dated t name) (fine : Plain more) : Dated t (name ++ more) := by
  obtain ⟨plain, rest, rfl⟩ := entry
  exact ⟨plain.append fine, rest ++ more, by simp only [String.append_assoc]⟩

theorem dated_entryName (id : ID) (t : Civil) : Dated t (entryName id t) := by
  unfold entryName
  dsimp only
  have clean := plain_sanitiseComponent (if id.ns = "" then id.name else id.ns ++ "-" ++ id.name)
  generalize sanitiseComponent _ = leaf at clean ⊢
  split_ifs with long
  · have length : t.compact.toList.length = 16 := by
      simp only [Civil.toList_compact, Civil.toList_two, List.length_append, List.length_cons,
        List.length_nil]
    have kept : (t.compact ++ "-" ++ leaf).toList.take maxEntryName =
        (t.compact ++ "-" ++ String.ofList (leaf.toList.take 103)).toList := by
      have all : t.compact.toList.take 120 = t.compact.toList := List.take_of_length_le (by omega)
      simp [List.take_append, length, maxEntryName, all]
    rw [kept, String.ofList_toList]
    refine ⟨((plain_compact t).append plain_dash).append fun c member => ?_, _, rfl⟩
    rw [String.toList_ofList] at member
    exact clean c (List.mem_of_mem_take member)
  · exact ⟨((plain_compact t).append plain_dash).append clean, leaf, rfl⟩

theorem plain_number (n : Nat) : Plain ("-" ++ toString n) := by
  refine plain_dash.append fun c digit => ?_
  rw [Nat.toString_eq_repr, Nat.toList_repr] at digit
  have isDigit := Nat.isDigit_of_mem_toDigits (by decide) (by decide) digit
  simp [entryChar, Char.isAlphanum, isDigit]

variable {c : Client} {p : Policy} {id : ID} {w : World}

theorem wp_freeEntryFrom {base : String} (entry : Dated t base) (attempt left : Nat) :
    M.wp (freeEntryFrom c p id base attempt left) (fun r u => u = w ∧ ∀ path, r = .ok path →
      (w.appliance c.name).storage.dataset? path = none ∧
        ∃ name, Dated t name ∧ path = p.root ++ "/" ++ name) w := by
  induction left generalizing attempt with
  | zero => exact ⟨rfl, nofun⟩
  | succ left ih =>
    have named : Dated t (if attempt > 1 then base ++ "-" ++ toString attempt else base) := by
      split_ifs
      · rw [String.append_assoc]
        exact entry.suffixed (plain_number attempt)
      · exact entry
    refine wp_bind.mpr (wp_mapError.mpr (wp_mono (wp_datasetQuery c _) ?_))
    rintro r u ⟨rfl, answered⟩
    rcases answered with rfl | ⟨e, rfl⟩
    · cases there : (u.appliance c.name).storage.dataset? (p.root ++ "/" ++
          if attempt > 1 then base ++ "-" ++ toString attempt else base) with
      | none => exact ⟨rfl, fun path given => by cases given; exact ⟨there, _, named, rfl⟩⟩
      | some d => exact ih (attempt + 1)
    · exact ⟨rfl, nofun⟩

theorem Dated.no_slash (entry : Dated t name) : '/' ∉ name.toList := fun member =>
  absurd (entry.plain _ member) (by decide)

theorem Dated.read (entry : Dated t name) (valid : t.Valid) :
    deletedAtFromEntryName (p.root ++ "/" ++ name) = some (t, 0) := by
  have last : cutLast '/' (p.root ++ "/" ++ name) = some (p.root, name) :=
    cutLast_append _ entry.no_slash
  obtain ⟨rest, rfl⟩ := entry.dated
  have first : cutFirst '-' (t.compact ++ "-" ++ rest) = some (t.compact, rest) :=
    cutFirst_append _ (dash_notMem_compact t)
  simp only [deletedAtFromEntryName, last, Option.elim_some, first, Option.bind_some]
  exact Civil.parseCompact_compact valid

theorem Dated.confined (entry : Dated t name) (on : p.on = true) :
    p.confineToGraveyard (p.root ++ "/" ++ name) = .ok () := by
  have nonempty : name.toList ≠ [] := by
    obtain ⟨rest, rfl⟩ := entry.dated
    simp
  have rest : (p.root ++ "/" ++ name).toList.drop (p.root ++ "/").toList.length = name.toList := by
    have split : (p.root ++ "/" ++ name).toList = (p.root ++ "/").toList ++ name.toList :=
      String.toList_append
    rw [split, List.drop_left]
  have other : p.root ++ "/" ++ name ≠ p.root := by
    intro same
    have lengths := congrArg String.length same
    simp only [String.length_append] at lengths
    have one : "/".length = 1 := rfl
    omega
  unfold Policy.confineToGraveyard Policy.confineToGraveyard.below
  have below : startsWith (p.root ++ "/" ++ name) (p.root ++ "/") = true :=
    startsWith_iff.mpr ⟨name, rfl⟩
  simp only [on, Bool.true_eq_false, if_false, other, below, rest, nonempty, entry.no_slash]

/-- With protection on, at a valid time and with any failures: a path that `freeEntry` returns is free, in
the graveyard and legal for ZFS, and the time of the deletion is read back from it. -/
theorem graveyard_name_dated (c : Client) (p : Policy) (id : ID) (t : Civil) (faults : List Fault)
    (w : World) (path : String) (on : p.on = true) (valid : t.Valid)
    (returned : (M.run (freeEntry c p id t) faults w).1 = .ok path) :
    (w.appliance c.name).storage.dataset? path = none ∧ p.confineToGraveyard path = .ok () ∧
      (∃ root name, cutLast '/' path = some (root, name) ∧ ∀ ch ∈ name.toList, zfsNameChar ch = true) ∧
      deletedAtFromEntryName path = some (t, 0) := by
  have spec : M.wp (freeEntry c p id t) _ w :=
    wp_freeEntryFrom (dated_entryName id t) 1 maxEntryAttempts
  obtain ⟨-, found⟩ := wp_iff_run.mp spec faults
  obtain ⟨free, name, entry, rfl⟩ := found path returned
  refine ⟨free, entry.confined on, ⟨p.root, name, cutLast_append _ entry.no_slash, ?_⟩, entry.read valid⟩
  intro ch member
  simp only [zfsNameChar, entry.plain ch member, Bool.true_or]

/-- A graveyard in which the first name for pvc-1 is taken. -/
def takenName : Appliance.Storage where
  datasets := Dict.ofList [("tank/k8s/.trash/20260309T070504Z-pvc-1", { type := .filesystem })]

/-- A name that is taken, one with characters to replace, and one that is cut. -/
theorem graveyard_name_sample :
    deletedAtFromEntryName "tank/k8s/.trash/20260309T070504Z-pvc-1-2" = some (⟨2026, 3, 9, 7, 5, 4⟩, 0) ∧
    deletedAtFromEntryName "tank/k8s/.trash/20260309T070504Z-a-b" = some (⟨2026, 3, 9, 7, 5, 4⟩, 0) ∧
    deletedAtFromEntryName ("tank/k8s/.trash/20260309T070504Z-" ++ String.ofList (List.replicate 103 'x')) =
      some (⟨2026, 3, 9, 7, 5, 4⟩, 0) := by
  have dated (name path : String) (returned : (M.run (freeEntry ⟨"nas", ""⟩ ⟨"tank", "k8s", ".trash", 3600⟩
      ⟨"nas", "nfs", "tank", "k8s", "", name⟩ ⟨2026, 3, 9, 7, 5, 4⟩) []
      { appliance := fun _ => { storage := takenName } }).1 = .ok path) :=
    (graveyard_name_dated _ _ _ _ _ _ path (by decide) (by decide) returned).2.2.2
  exact ⟨dated "pvc-1" _ (by decide), dated "a b!" _ (by decide),
    dated (String.ofList (List.replicate 150 'x')) _ (by decide +kernel)⟩

end TruenasCsi.Retention
