import TruenasCsi.Backend.Scan

/-! Handle, id, dataset and path below the parent determine each other. -/

namespace TruenasCsi.Volume

open Text

variable {id : ID}

theorem wellFormed_iff : WellFormed id ↔ ∀ p ∈ id.components, Component p := by
  refine ⟨WellFormed.components, fun good => ?_⟩
  exact (ofComponents_some (ofComponents_components id) good).1

theorem ofComponents_isSome {parts : List String} :
    (∃ id, ofComponents parts = some id) ↔ parts.length = 5 ∨ parts.length = 6 := by
  constructor
  · rintro ⟨id, found⟩
    unfold ofComponents at found
    split at found
    · exact .inl rfl
    · exact .inr rfl
    · cases found
  · rintro (five | six)
    · match parts, five with
      | [a, b, c, d, e], _ => exact ⟨_, rfl⟩
    · match parts, six with
      | [a, b, c, d, e, f], _ => exact ⟨_, rfl⟩

/-- One of the two shapes, with sound parts. -/
theorem parseID_isOk_iff {s : String} : (∃ id, parseID s = .ok id) ↔
    ((split '/' s).length = 5 ∨ (split '/' s).length = 6) ∧ ∀ p ∈ split '/' s, Component p := by
  rw [← ofComponents_isSome, ← validComponents_ok_iff]
  unfold parseID
  cases ofComponents (split '/' s) with
  | none => simp
  | some id => cases validComponents (split '/' s) <;> simp

theorem component_of_mem_split {s p : String} (piece : p ∈ split '/' s) :
    Component p ↔ p ≠ "" ∧ p ≠ "." ∧ p ≠ ".." ∧ '\\' ∉ p.toList := by
  constructor
  · exact fun ⟨nonempty, notDot, notDots, _, clean⟩ => ⟨nonempty, notDot, notDots, clean⟩
  · rintro ⟨nonempty, notDot, notDots, clean⟩
    exact ⟨nonempty, notDot, notDots, notMem_of_mem_split piece, clean⟩

theorem split_datasetPath (formed : WellFormed id) :
    split '/' id.datasetPath = id.datasetComponents := by
  refine split_join (by unfold ID.datasetComponents; split_ifs <;> simp) fun p member => ?_
  obtain ⟨-, -, pool, parent, flat | ns, name⟩ := formed
  · simp only [ID.datasetComponents, if_pos flat, List.mem_cons, List.not_mem_nil, or_false] at member
    rcases member with rfl | rfl | rfl
    exacts [pool.slashless, parent.slashless, name.slashless]
  · simp only [ID.datasetComponents, if_neg ns.nonempty, List.mem_cons, List.not_mem_nil,
      or_false] at member
    rcases member with rfl | rfl | rfl | rfl
    exacts [pool.slashless, parent.slashless, ns.slashless, name.slashless]

theorem datasetPath_inj {id other : ID} (formed : WellFormed id) (sound : WellFormed other)
    (backend : id.backend = other.backend) (protocol : id.protocol = other.protocol)
    (same : id.datasetPath = other.datasetPath) : id = other := by
  have parts : id.datasetComponents = other.datasetComponents := by
    rw [← split_datasetPath formed, same, split_datasetPath sound]
  obtain ⟨_, _, _, _, _, _⟩ := id
  obtain ⟨_, _, _, _, _, _⟩ := other
  -- The number of components tells the two layouts apart.
  unfold ID.datasetComponents at parts
  split_ifs at parts <;> simp_all

theorem idFromLeaf_datasetPath (formed : WellFormed id) : ∃ leaf,
    id.datasetPath = id.pool ++ "/" ++ id.parent ++ "/" ++ leaf ∧
      idFromLeaf id.backend id.protocol id.pool id.parent leaf = .ok id := by
  obtain ⟨-, -, -, -, ns, name⟩ := formed
  unfold ID.datasetPath ID.datasetComponents
  by_cases flat : id.ns = ""
  · refine ⟨id.name, ?_, ?_⟩
    · simp [flat, join, String.append_assoc]
    · rw [idFromLeaf_flat name, ← flat]
  · refine ⟨id.ns ++ "/" ++ id.name, ?_, idFromLeaf_nested (ns.resolve_left flat) name⟩
    simp [flat, join, String.append_assoc]

/-- A handle is read exactly if it has five or six legal components, and is the text of the id that is read;
every legal id is read back from its text. Different ids of one backend and protocol have different
datasets, each dataset has one path below its parent, and from that path the id is read. A confined id is
one or two components below the parent. -/
theorem id_codec :
    (∀ s, (∃ id, parseID s = .ok id) ↔
      ((Text.split '/' s).length = 5 ∨ (Text.split '/' s).length = 6) ∧
        ∀ p ∈ Text.split '/' s, p ≠ "" ∧ p ≠ "." ∧ p ≠ ".." ∧ '\\' ∉ p.toList) ∧
    (∀ s id, parseID s = .ok id → id.string = s) ∧
    (∀ id : ID, (∀ p ∈ id.components, Component p) → parseID id.string = .ok id) ∧
    (∀ s t id other, parseID s = .ok id → parseID t = .ok other → id ≠ other →
      id.backend = other.backend → id.protocol = other.protocol →
        id.datasetPath ≠ other.datasetPath) ∧
    (∀ s id, parseID s = .ok id → ∃! leaf,
      id.datasetPath = id.pool ++ "/" ++ id.parent ++ "/" ++ leaf ∧
        idFromLeaf id.backend id.protocol id.pool id.parent leaf = .ok id) ∧
    ∀ (id : ID) (pool parent : String), confine id pool parent = .ok () →
      ∃ below, (below.length = 1 ∨ below.length = 2) ∧ (∀ p ∈ below, Component p) ∧
        id.datasetPath = Text.join "/" ([pool, parent] ++ below) := by
  refine ⟨fun s => ?_, fun s id parsed => (parseID_ok parsed).2, fun id good => ?_, ?_, ?_, ?_⟩
  · rw [parseID_isOk_iff]
    exact and_congr_right fun _ => forall₂_congr fun _ => component_of_mem_split
  · exact parseID_string (wellFormed_iff.mpr good)
  · intro s t id other parsed read different backend protocol same
    exact different (datasetPath_inj (parseID_ok parsed).1 (parseID_ok read).1 backend protocol same)
  · intro s id parsed
    obtain ⟨leaf, path, read⟩ := idFromLeaf_datasetPath (parseID_ok parsed).1
    refine ⟨leaf, ⟨path, read⟩, fun other ⟨also, _⟩ => ?_⟩
    exact (String.append_right_inj _).mp (also.symm.trans path)
  · intro id pool parent accepted
    obtain ⟨-, -, rfl, rfl, name, ns⟩ := confine_ok_iff.mp accepted
    unfold ID.datasetPath ID.datasetComponents
    by_cases flat : id.ns = ""
    · exact ⟨[id.name], .inl rfl, by simpa using name, by simp [flat]⟩
    · exact ⟨[id.ns, id.name], .inr rfl, by simpa using ⟨ns.resolve_left flat, name⟩, by simp [flat]⟩

end TruenasCsi.Volume
