import TruenasCsi.Support.Dict

/-! The sampler keeps the last reading of each counter. -/

namespace TruenasCsi.Podmon

/-- A counter's value and when it was read. -/
structure CounterSample where
  value : Nat
  time : Int
deriving DecidableEq

/-- A call of the sampler: counter and clock. -/
structure Sampling where
  path : String
  reading : Option Nat
  now : Int
deriving DecidableEq

/-- When I/O was last observed. -/
def active (last : Dict CounterSample) (s : Sampling) : Option Int × Dict CounterSample :=
  match s.reading with
  | none => (none, last)
  | some v =>
    let remembered := last.set s.path ⟨v, s.now⟩
    match last.get? s.path with
    | none => (none, remembered)
    | some prev =>
      if v ≠ prev.value then (some s.now, remembered)
      -- The time kept is that of the last sample, whether or not the counter moved then.
      else (some prev.time, remembered)

/-- What the sampler has stored after these calls. -/
def remembered : List Sampling → Dict CounterSample
  | [] => ∅
  | s :: calls => (active (remembered calls) s).2

variable (s : Sampling) (calls : List Sampling)

def answer : Option Int := (active (remembered calls) s).1

/-- What was read of one counter, newest first. -/
def readings (path : String) (calls : List Sampling) : List CounterSample :=
  calls.filterMap fun s => if s.path = path then s.reading.map (⟨·, s.now⟩) else none

/-- When a counter was last seen to differ. -/
def lastMoved : List CounterSample → Option Int
  | s :: t :: rest => if s.value ≠ t.value then some s.time else lastMoved (t :: rest)
  | _ => none

/-- An unchanged counter had moved before. -/
def Fresh : Prop :=
  ∀ prev ∈ (readings s.path calls).head?, s.reading = some prev.value →
    lastMoved (readings s.path calls) = some prev.time

theorem get?_remembered (path : String) (calls : List Sampling) :
    (remembered calls).get? path = (readings path calls).head? := by
  induction calls with
  | nil => rfl
  | cons s calls ih =>
    have step : (active (remembered calls) s).2 =
        (s.reading.map fun v => (remembered calls).set s.path ⟨v, s.now⟩).getD (remembered calls) := by
      unfold active
      cases s.reading with
      | none => rfl
      | some v =>
        cases (remembered calls).get? s.path with
        | none => rfl
        | some prev =>
          dsimp only
          split_ifs <;> rfl
    rw [remembered, step]
    cases reading : s.reading with
    | none => simpa [readings, reading] using ih
    | some v =>
      rw [Option.map_some, Option.getD_some, Dict.get?_set, ih]
      by_cases here : path = s.path
      · simp [readings, here, reading]
      · simp [readings, here, Ne.symm here]

/-- The sampler answers with the time of the last move exactly if it is fresh. -/
theorem answer_right_iff :
    (∀ t, answer s calls = some t → lastMoved (readings s.path (s :: calls)) = some t) ↔
      Fresh s calls := by
  have past := get?_remembered s.path calls
  unfold answer active Fresh
  cases reading : s.reading with
  | none => simp
  | some v =>
    have now : readings s.path (s :: calls) = ⟨v, s.now⟩ :: readings s.path calls := by
      simp [readings, reading]
    rw [now]
    rw [past]
    cases readings s.path calls with
    | nil => simp
    | cons prev rest =>
      by_cases moved : v = prev.value
      · simp [lastMoved, moved]
      · simp [lastMoved, moved]

/-- A volume of a check, with its probes. -/
structure Asked where
  volumeID : String
  path : Option String
  statfs : Option String := none
  reading : Option Nat := none
  sampled : Int := 0
  now : Int := 0

structure SelfCheckResponse where
  nodeID : String := ""
  connected : Bool := true
  iosInProgress : Bool := false
  messages : List String := []

def checkVolumes (window : Int) : List Asked → SelfCheckResponse → List Sampling →
    SelfCheckResponse × List Sampling
  | [], resp, calls => (resp, calls)
  | a :: rest, resp, calls =>
    match a.path with
    | none => checkVolumes window rest { resp with
        messages := resp.messages ++ ["volume " ++ a.volumeID ++ " is not staged on this node"] } calls
    | some path =>
      if path = "" then checkVolumes window rest resp calls
      else match a.statfs with
        | some err => checkVolumes window rest { resp with
            connected := false
            messages := resp.messages ++ ["volume " ++ a.volumeID ++ " data path at " ++ path ++
              " did not answer: " ++ err] } calls
        | none =>
          let s : Sampling := ⟨path, a.reading, a.sampled⟩
          checkVolumes window rest { resp with
            iosInProgress := resp.iosInProgress ||
              (answer s calls).any fun last => decide (a.now - last ≤ window) } (s :: calls)

def sampleWindow (asked : Int) : Int := if asked ≤ 0 then 60000000000 else asked

/-- What the probes of a node find. -/
structure Probes where
  nodeID : String
  backend : String
  dataAddr : String
  dial : Option String := none
  driver : Option String := none

def check (p : Probes) (asking : String) (ioSampleWindow : Int) (volumes : List Asked)
    (calls : List Sampling) : SelfCheckResponse × List Sampling :=
  let named := if asking ≠ "" ∧ p.nodeID ≠ "" ∧ asking ≠ p.nodeID then
    ["this node is " ++ p.nodeID ++ ", not " ++ asking] else []
  let lost := if p.dataAddr = "" then none else p.dial
  let (resp, calls) := checkVolumes (sampleWindow ioSampleWindow) volumes
    { nodeID := p.nodeID, connected := lost.isNone
      messages := named ++ (lost.map fun err => "backend " ++ p.backend ++ " at " ++ p.dataAddr ++
        " is unreachable from this node: " ++ err).toList } calls
  ({ resp with messages := resp.messages ++ p.driver.toList }, calls)

/-- Some counter moved within the window. -/
def MovedWithin (window : Int) (volumes : List Asked) (calls : List Sampling) : Prop :=
  ∃ a ∈ volumes, ∃ s before, s :: before <:+ calls ∧ some s.path = a.path ∧
    ∃ t, lastMoved (readings s.path (s :: before)) = some t ∧ a.now - t ≤ window

theorem checkVolumes_calls (window : Int) (volumes : List Asked) (resp : SelfCheckResponse)
    (calls : List Sampling) : calls <:+ (checkVolumes window volumes resp calls).2 := by
  induction volumes generalizing resp calls with
  | nil => exact List.suffix_rfl
  | cons a rest ih =>
    unfold checkVolumes
    cases a.path with
    | none => exact ih _ _
    | some path =>
      dsimp only
      split_ifs
      · exact ih _ _
      · cases a.statfs with
        | some err => exact ih _ _
        | none => exact (List.suffix_cons _ _).trans (ih _ _)

theorem checkVolumes_inProgress {window : Int} {volumes : List Asked} {resp : SelfCheckResponse}
    {calls : List Sampling}
    (fresh : ∀ s before, s :: before <:+ (checkVolumes window volumes resp calls).2 → Fresh s before)
    (reported : (checkVolumes window volumes resp calls).1.iosInProgress = true) :
    resp.iosInProgress = true ∨
      MovedWithin window volumes (checkVolumes window volumes resp calls).2 := by
  induction volumes generalizing resp calls with
  | nil => exact .inl reported
  | cons a rest ih =>
    have later {calls : List Sampling} (moved : MovedWithin window rest calls) :
        MovedWithin window (a :: rest) calls := by
      obtain ⟨b, member, more⟩ := moved
      exact ⟨b, List.mem_cons_of_mem a member, more⟩
    unfold checkVolumes at fresh reported ⊢
    cases asked : a.path with
    | none =>
      simp only [asked] at fresh reported ⊢
      exact (ih fresh reported).imp_right later
    | some path =>
      simp only [asked] at fresh reported ⊢
      split_ifs at fresh reported ⊢ with block
      · exact (ih fresh reported).imp_right later
      · cases probed : a.statfs with
        | some err =>
          simp only [probed] at fresh reported ⊢
          exact (ih fresh reported).imp_right later
        | none =>
          simp only [probed] at fresh reported ⊢
          obtain here | there := ih fresh reported
          · rcases Bool.or_eq_true_iff.mp here with already | sees
            · exact .inl already
            · obtain ⟨t, given, recent⟩ := (Option.any_eq_true ..).mp sees
              -- The sample that raised the flag is fresh, so its time is that of a move.
              have right := (answer_right_iff _ calls).mpr (fresh _ calls (checkVolumes_calls ..)) t given
              exact .inr ⟨a, List.mem_cons_self, _, calls, checkVolumes_calls .., asked.symm, t, right,
                of_decide_eq_true recent⟩
          · exact .inr (later there)

/-- For every list of samples: the time that is answered is that of the last move exactly if the answer is
`Fresh`; and if all answers of a check are, a check that reports activity has a counter that moved within
the window. -/
theorem activity_not_invented (s : Sampling) (calls : List Sampling) :
    ((∀ t, answer s calls = some t → lastMoved (readings s.path (s :: calls)) = some t) ↔
      Fresh s calls) ∧
    ∀ p asking window volumes,
      (∀ s before, s :: before <:+ (check p asking window volumes calls).2 → Fresh s before) →
      (check p asking window volumes calls).1.iosInProgress = true →
        MovedWithin (sampleWindow window) volumes (check p asking window volumes calls).2 := by
  refine ⟨answer_right_iff s calls, fun p asking window volumes fresh reported => ?_⟩
  obtain already | moved := checkVolumes_inProgress fresh reported
  · cases already
  · exact moved

/-- A counter that never moved is reported as active. -/
theorem idle_counter_active :
    let calls := [⟨"/v", some 7, 0⟩]
    answer ⟨"/v", some 7, 30⟩ calls = some 0 ∧
    lastMoved (readings "/v" (⟨"/v", some 7, 30⟩ :: calls)) = none ∧
    (check ⟨"n", "nas", "", none, none⟩ "n" 60 [⟨"v", some "/v", none, some 7, 30, 30⟩]
      calls).1.iosInProgress = true := by
  decide

end TruenasCsi.Podmon
