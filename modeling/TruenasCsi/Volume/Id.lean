import TruenasCsi.Status

/-! A volume handle spells out where the volume lives. -/

namespace TruenasCsi.Volume

open Text

/-- Backend, protocol and the place of the dataset. -/
structure ID where
  backend : String
  protocol : String
  pool : String
  parent : String
  /-- The Kubernetes namespace, or the empty text. -/
  ns : String
  name : String
deriving DecidableEq

namespace ID

variable (id : ID)

def components : List String :=
  if id.ns = "" then [id.backend, id.protocol, id.pool, id.parent, id.name]
  else [id.backend, id.protocol, id.pool, id.parent, id.ns, id.name]

def string : String := join "/" id.components

def datasetComponents : List String :=
  if id.ns = "" then [id.pool, id.parent, id.name] else [id.pool, id.parent, id.ns, id.name]

def datasetPath : String := join "/" id.datasetComponents

end ID

def validComponent (p : String) : Except Err Unit :=
  if p = "" then .error (.plain "empty component")
  else if p = "." ∨ p = ".." then .error (.plain ("relative component " ++ quote p))
  else if p.toList.any (fun c => c == '/' || c == '\\') then
    .error (.plain ("component " ++ quote p ++ " contains a path separator"))
  else .ok ()

/-- A text for one level of a dataset path. -/
structure Component (p : String) : Prop where
  nonempty : p ≠ ""
  notDot : p ≠ "."
  notDots : p ≠ ".."
  slashless : '/' ∉ p.toList
  backslashless : '\\' ∉ p.toList

theorem validComponent_ok_iff {p : String} : validComponent p = .ok () ↔ Component p := by
  unfold validComponent
  constructor
  · intro accepted
    split_ifs at accepted with empty dots separator
    have clean : ∀ c ∈ p.toList, c ≠ '/' ∧ c ≠ '\\' := by simpa using separator
    exact {
      nonempty := empty
      notDot := fun same => dots (.inl same)
      notDots := fun same => dots (.inr same)
      slashless := fun member => (clean _ member).1 rfl
      backslashless := fun member => (clean _ member).2 rfl }
  · intro component
    have clean : p.toList.any (fun c => c == '/' || c == '\\') = false := by
      rw [List.any_eq_false]
      intro c member
      have notSlash : c ≠ '/' := by rintro rfl; exact component.slashless member
      have notBackslash : c ≠ '\\' := by rintro rfl; exact component.backslashless member
      simp [notSlash, notBackslash]
    simp [component.nonempty, component.notDot, component.notDots, clean]

instance (p : String) : Decidable (Component p) :=
  decidable_of_iff (validComponent p = .ok ()) validComponent_ok_iff

/-- The first refused component decides. -/
def validComponents : List String → Except Err Unit
  | [] => .ok ()
  | p :: rest =>
    match validComponent p with
    | .error e => .error e
    | .ok () => validComponents rest

variable {parts : List String} {id : ID}

theorem validComponents_ok_iff : validComponents parts = .ok () ↔ ∀ p ∈ parts, Component p := by
  induction parts with
  | nil => simp [validComponents]
  | cons p rest ih =>
    rw [validComponents, List.forall_mem_cons, ← validComponent_ok_iff, ← ih]
    cases validComponent p with
    | error e => simp
    | ok u => simp

/-- The five or six components of an id. -/
def ofComponents : List String → Option ID
  | [backend, protocol, pool, parent, name] => some ⟨backend, protocol, pool, parent, "", name⟩
  | [backend, protocol, pool, parent, ns, name] => some ⟨backend, protocol, pool, parent, ns, name⟩
  | _ => none

/-- A handle of five or six components. -/
def parseID (s : String) : Except Err ID :=
  match ofComponents (split '/' s) with
  | none =>
    .error (.sentinel .malformedID ("malformed volume id: " ++ quote s ++ " has " ++
      toString (split '/' s).length ++ " components, want 5 or 6"))
  | some id =>
    match validComponents (split '/' s) with
    | .error e =>
      .error (.wrapBoth .malformedID ("malformed volume id: " ++ quote s ++ ": " ++ e.text) e)
    | .ok () => .ok id

/-- An id of sound components. -/
structure WellFormed (id : ID) : Prop where
  backend : Component id.backend
  protocol : Component id.protocol
  pool : Component id.pool
  parent : Component id.parent
  ns : id.ns = "" ∨ Component id.ns
  name : Component id.name

theorem WellFormed.components (formed : WellFormed id) : ∀ p ∈ id.components, Component p := by
  unfold ID.components
  obtain ⟨backend, protocol, pool, parent, flat | ns, name⟩ := formed
  · simp [flat, backend, protocol, pool, parent, name]
  · simp [ns.nonempty, backend, protocol, pool, parent, ns, name]

theorem split_string (formed : WellFormed id) : split '/' id.string = id.components := by
  refine split_join ?_ fun p member => (formed.components p member).slashless
  unfold ID.components
  split_ifs <;> simp

theorem ofComponents_components (id : ID) : ofComponents id.components = some id := by
  cases id with
  | mk backend protocol pool parent ns name =>
    unfold ID.components
    split_ifs with flat
    · simp only at flat
      subst flat
      rfl
    · rfl

/-- Every well-formed id is read back. -/
theorem parseID_string (formed : WellFormed id) : parseID id.string = .ok id := by
  have valid := validComponents_ok_iff.mpr formed.components
  unfold parseID
  rw [split_string formed, ofComponents_components]
  simp only [valid]

theorem ofComponents_some (found : ofComponents parts = some id)
    (good : ∀ p ∈ parts, Component p) : WellFormed id ∧ id.components = parts := by
  -- The two accepted shapes are the flat and the namespaced layout.
  match parts, found with
  | [a, b, c, d, e], found =>
    cases found
    simp only [List.forall_mem_cons] at good
    obtain ⟨backend, protocol, pool, parent, name, -⟩ := good
    exact ⟨⟨backend, protocol, pool, parent, .inl rfl, name⟩, rfl⟩
  | [a, b, c, d, e, f], found =>
    cases found
    simp only [List.forall_mem_cons] at good
    obtain ⟨backend, protocol, pool, parent, ns, name, -⟩ := good
    refine ⟨⟨backend, protocol, pool, parent, .inr ns, name⟩, ?_⟩
    simp [ID.components, ns.nonempty]

/-- What parses is well formed. -/
theorem parseID_ok {s : String} (parsed : parseID s = .ok id) : WellFormed id ∧ id.string = s := by
  unfold parseID at parsed
  cases found : ofComponents (split '/' s) with
  | none => simp [found] at parsed
  | some id' =>
    cases valid : validComponents (split '/' s) with
    | error e => simp [found, valid] at parsed
    | ok u =>
      simp only [found, valid, Except.ok.injEq] at parsed
      subst parsed
      obtain ⟨formed, parts⟩ := ofComponents_some found (validComponents_ok_iff.mp valid)
      refine ⟨formed, ?_⟩
      unfold ID.string
      rw [parts]
      exact join_split '/' s

def Below (pool parent path : String) : Prop :=
  ∃ rest, rest ≠ "" ∧ path = pool ++ "/" ++ parent ++ "/" ++ rest

/-- The components of an id that `Confine` checks. -/
def confinedFields (id : ID) : List (String × String) :=
  [("pool", id.pool), ("parent", id.parent), ("name", id.name)] ++
    (if id.ns = "" then [] else [("namespace", id.ns)])

def validFields : List (String × String) → Except Err Unit
  | [] => .ok ()
  | (field, value) :: rest =>
    match validComponent value with
    | .error e =>
      .error (.wrapBoth .outsideParent
        ("volume resolves outside the configured parent dataset: " ++ field ++ ": " ++ e.text) e)
    | .ok () => validFields rest

/-- The id is inside of the configured pool and parent. -/
def confine (id : ID) (allowedPool allowedParent : String) : Except Err Unit :=
  match validComponent allowedPool with
  | .error e => .error (e.wrap "configured pool: ")
  | .ok () =>
  match validComponent allowedParent with
  | .error e => .error (e.wrap "configured parent dataset: ")
  | .ok () =>
  match validFields (confinedFields id) with
  | .error e => .error e
  | .ok () =>
  if id.pool ≠ allowedPool then
    .error (.sentinel .outsideParent ("volume resolves outside the configured parent dataset: pool "
      ++ quote id.pool ++ " is not the configured pool " ++ quote allowedPool))
  else if id.parent ≠ allowedParent then
    .error (.sentinel .outsideParent ("volume resolves outside the configured parent dataset: parent "
      ++ quote id.parent ++ " is not the configured parent dataset " ++
      quote allowedParent))
  else
    let root := cleanPath (allowedPool ++ "/" ++ allowedParent) ++ "/"
    let resolved := cleanPath id.datasetPath
    if startsWith resolved root then .ok ()
    else .error (.sentinel .outsideParent ("volume resolves outside the configured parent dataset: "
      ++ quote resolved ++ " is not under " ++ quote root))

theorem validFields_ok_iff {fields : List (String × String)} :
    validFields fields = .ok () ↔ ∀ f ∈ fields, Component f.2 := by
  induction fields with
  | nil => simp [validFields]
  | cons f rest ih =>
    obtain ⟨field, value⟩ := f
    rw [validFields, List.forall_mem_cons, ← validComponent_ok_iff, ← ih]
    cases validComponent value with
    | error e => simp
    | ok u => simp

theorem clean_of_components (nonempty : parts ≠ []) (good : ∀ p ∈ parts, Component p) :
    cleanPath (join "/" parts) = join "/" parts :=
  cleanPath_join nonempty
    (fun p member => ⟨(good p member).nonempty, (good p member).notDot, (good p member).notDots⟩)
    (fun p member => (good p member).slashless)

theorem join_cons_cons (first second : String) (rest : List String) :
    join "/" (first :: second :: rest) = first ++ "/" ++ join "/" (second :: rest) := by
  apply String.toList_inj.mp
  simp [join, String.toList_intercalate, List.intercalate]

def ID.parentPath (id : ID) : String :=
  if id.ns = "" then id.pool ++ "/" ++ id.parent else id.pool ++ "/" ++ id.parent ++ "/" ++ id.ns

theorem ID.datasetPath_eq (id : ID) : id.datasetPath = id.parentPath ++ "/" ++ id.name := by
  unfold ID.datasetPath ID.datasetComponents ID.parentPath
  split_ifs <;> simp [join, String.append_assoc]

theorem dirPath_datasetPath (formed : WellFormed id) : dirPath id.datasetPath = id.parentPath := by
  obtain ⟨-, -, pool, parent, ns, name⟩ := formed
  have cut := cutLast_append id.parentPath name.slashless
  have nonempty : id.parentPath ≠ "" := by
    unfold ID.parentPath
    split_ifs <;> simp [String.append_eq_empty_iff]
  have clean : cleanPath id.parentPath = id.parentPath := by
    unfold ID.parentPath
    rcases ns with flat | ns
    · rw [if_pos flat]
      have good : ∀ p ∈ [id.pool, id.parent], Component p := by simp [pool, parent]
      simpa [join_cons_cons, join] using clean_of_components (by simp) good
    · rw [if_neg ns.nonempty]
      have good : ∀ p ∈ [id.pool, id.parent, id.ns], Component p := by simp [pool, parent, ns]
      simpa [join_cons_cons, join, String.append_assoc] using clean_of_components (by simp) good
  rw [dirPath, ID.datasetPath_eq, slash_eq, cut]
  simp only [if_neg nonempty, clean]

/-- What a confined id looks like. -/
structure Confined (pool parent : String) (id : ID) : Prop where
  poolComponent : Component pool
  parentComponent : Component parent
  samePool : id.pool = pool
  sameParent : id.parent = parent
  name : Component id.name
  ns : id.ns = "" ∨ Component id.ns

theorem Confined.below {pool parent : String} (confined : Confined pool parent id) :
    Below pool parent id.datasetPath := by
  obtain ⟨-, -, samePool, sameParent, name, ns⟩ := confined
  unfold ID.datasetPath ID.datasetComponents
  rw [samePool, sameParent]
  by_cases flat : id.ns = ""
  · refine ⟨id.name, name.nonempty, ?_⟩
    rw [if_pos flat, join_cons_cons, join_cons_cons]
    simp [join, String.append_assoc]
  · refine ⟨join "/" [id.ns, id.name], ?_, ?_⟩
    · intro empty
      have chars := congrArg String.toList empty
      rw [join_cons_cons] at chars
      simp at chars
    · rw [if_neg flat, join_cons_cons, join_cons_cons]
      simp [String.append_assoc]

theorem confine_ok_iff {pool parent : String} :
    confine id pool parent = .ok () ↔ Confined pool parent id := by
  unfold confine
  constructor
  · intro accepted
    cases poolValid : validComponent pool with
    | error e => simp [poolValid] at accepted
    | ok u =>
    cases parentValid : validComponent parent with
    | error e => simp [poolValid, parentValid] at accepted
    | ok u =>
    cases fields : validFields (confinedFields id) with
    | error e => simp [poolValid, parentValid, fields] at accepted
    | ok u =>
    simp only [poolValid, parentValid, fields] at accepted
    split_ifs at accepted with otherPool otherParent under
    have good := validFields_ok_iff.mp fields
    simp only [ne_eq, not_not] at otherPool otherParent
    refine ⟨validComponent_ok_iff.mp poolValid, validComponent_ok_iff.mp parentValid,
      otherPool, otherParent, good ("name", id.name) (by simp [confinedFields]), ?_⟩
    by_cases flat : id.ns = ""
    · exact .inl flat
    · exact .inr (good ("namespace", id.ns) (by simp [confinedFields, flat]))
  · intro confined
    have fields : validFields (confinedFields id) = .ok () := by
      rw [validFields_ok_iff]
      obtain ⟨poolComponent, parentComponent, samePool, sameParent, name, ns⟩ := confined
      intro f member
      simp only [confinedFields, List.cons_append, List.nil_append, List.mem_cons] at member
      rcases member with rfl | rfl | rfl | member
      · exact samePool ▸ poolComponent
      · exact sameParent ▸ parentComponent
      · exact name
      · by_cases flat : id.ns = ""
        · simp [flat] at member
        · simp only [flat, if_false, List.mem_singleton] at member
          subst member
          exact ns.resolve_left flat
    -- Cleaning changes neither path, so the last check compares them as they are.
    have rootClean : cleanPath (pool ++ "/" ++ parent) = pool ++ "/" ++ parent := by
      have join : join "/" [pool, parent] = pool ++ "/" ++ parent := join_cons_cons _ _ _
      rw [← join]
      refine clean_of_components (by simp) ?_
      simp [confined.poolComponent, confined.parentComponent]
    have resolvedClean : cleanPath id.datasetPath = id.datasetPath := by
      refine clean_of_components ?_ ?_
      · unfold ID.datasetComponents
        split_ifs <;> simp
      · obtain ⟨poolComponent, parentComponent, samePool, sameParent, name, flat | ns⟩ := confined
        · simp [ID.datasetComponents, flat, samePool, sameParent, poolComponent, parentComponent,
            name]
        · simp [ID.datasetComponents, ns.nonempty, samePool, sameParent, poolComponent,
            parentComponent, name, ns]
    have under : startsWith id.datasetPath (pool ++ "/" ++ parent ++ "/") = true := by
      obtain ⟨rest, -, path⟩ := confined.below
      exact startsWith_iff.mpr ⟨rest, path⟩
    simp only [validComponent_ok_iff.mpr confined.poolComponent,
      validComponent_ok_iff.mpr confined.parentComponent, fields, confined.samePool,
      confined.sameParent, rootClean, resolvedClean, under, ne_eq, not_true_eq_false, if_false,
      if_true]

end TruenasCsi.Volume
